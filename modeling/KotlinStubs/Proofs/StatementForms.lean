import KotlinStubs.Scan
import KotlinStubs.Proofs.Outcome

/-!
# The forms of statements

One equation for each form of statement that holds other statements, in terms of `collect`, and the
induction along which statements hold each other.  What a statement of another form declares does
not depend on its scope.

* `sizeInduction`: what holds of a node as soon as it holds of all smaller ones holds of every node.
* `statement_exported`, `statement_ambient`, `statement_expression`, `namespaceStatement_eq`: a
  statement in terms of those in it.
* `scan_eq_collect`: a scan takes its statements one by one, each isolated.
-/

namespace KotlinStubs

open Translation

/-- The scope inside a namespace. -/
def Scope.enter (scope : Scope) (name : String) : Scope :=
  { scope with qualifier := some (scope.qualify name) }

namespace Node

variable {σ : Settings} {scope : Scope} {n : Node}

/-- A node on the first line, with the text and the children given. -/
def branch (type text : String) (fields : List Field) (children : List Node) : Node where
  row := 0
  type := type
  named := true
  start := 0
  stop := 0
  line := 1
  text := some text
  fields := fields
  children := children

/-- A node on the first line without children. -/
def leaf (type text : String) (fields : List Field) : Node := branch type text fields []

/-- A token of the grammar on the first line. -/
def token (text : String) : Node := { leaf text text [] with named := false }

theorem sizeInduction {P : Node → Prop} (step : ∀ n, (∀ m, sizeOf m < sizeOf n → P m) → P n)
    (n : Node) : P n :=
  (measure (sizeOf : Node → Nat)).wf.induction n step

theorem sizeOf_lt_of_mem_namedParts {n c : Node} (h : c ∈ n.namedParts) : sizeOf c < sizeOf n :=
  sizeOf_lt_of_mem_children (mem_children_of_mem_parts (mem_parts_of_mem_namedParts h))

/-! ## Lists of statements -/

theorem inTurn_eq_collect (ns : List Node) :
    inTurn σ scope ns = collect (statement σ scope) ns := by
  induction ns with
  | nil => rw [inTurn, collect_nil]
  | cons n ns ih => rw [inTurn, collect_cons, ih]

/-- A statement as a scan takes it. -/
def scanned (σ : Settings) (scope : Scope) (n : Node) : Translation (List Declaration) :=
  n.isolated scope (n.statement σ scope)

theorem scan_eq_collect (ns : List Node) : scan σ scope ns = collect (scanned σ scope) ns := by
  induction ns with
  | nil => rw [scan, collect_nil]
  | cons n ns ih => rw [scan, collect_cons, ih, scanned]

theorem scan_singleton : scan σ scope [n] = n.scanned σ scope := by
  rw [scan_eq_collect, collect_singleton]

/-! ## Statements that hold others -/

theorem statement_exported (form : StatementForm.ofType n.type = .exported) :
    n.statement σ scope = (do
      reach? (n.child? .declaration)
      match n.child? .declaration with
      | some inner => inner.statement σ scope
      | none => do
        note (.exportWithoutDeclaration n.line)
        pure []) := by
  rw [statement, form]
  dsimp only
  refine bind_congr fun _ => ?_
  split <;> rename_i h <;> rw [h]

theorem statement_ambient (form : StatementForm.ofType n.type = .ambient) :
    n.statement σ scope = (do
      reachAll n.namedParts
      collect (statement σ scope) n.namedParts) := by
  rw [statement, form]
  dsimp only
  rw [inTurn_eq_collect]

theorem statement_namespace (form : StatementForm.ofType n.type = .namespaceBlock) :
    n.statement σ scope = n.namespaceStatement σ scope := by
  rw [statement, form]

/-- An expression is scanned if it is a namespace, and else passed over with a remark. -/
theorem statement_expression (form : StatementForm.ofType n.type = .expression) :
    n.statement σ scope = (do
      reach? n.firstNamed?
      match n.firstNamed? with
      | some inner =>
        if inner.type = "internal_module" then
          inner.statement σ scope
        else do
          note (.expressionStatement n.line)
          pure []
      | none => do
        note (.expressionStatement n.line)
        pure []) := by
  rw [statement, form]
  dsimp only
  refine bind_congr fun _ => ?_
  split <;> rename_i h <;> rw [h]
  dsimp only
  split
  · next ht => rw [statement_namespace (by rw [ht]; rfl)]
  · rfl

/-- A namespace with a name and a body scans the statements of the body in its scope. -/
theorem namespaceStatement_eq :
    n.namespaceStatement σ scope = (do
      reach? (n.child? .name)
      reach? (n.child? .body)
      match n.child? .name, n.child? .body with
      | some name, some body =>
        if name.kind = .string then do
          note (.externalModule (← read name) n.line)
          pure []
        else do
          let text ← read name
          reachAll body.namedParts
          let declarations ← collect (scanned σ (scope.enter text)) body.namedParts
          pure (namespaceOf (scope.qualify text) n.line declarations)
      | _, _ => pure []) := by
  rw [namespaceStatement]
  refine bind_congr fun _ => ?_
  refine bind_congr fun _ => ?_
  split
  · next hn hb => simp only [hn, hb, scan_eq_collect, Scope.enter]
  · next h =>
    split
    · next hn hb => exact absurd hb (h _ _ hn)
    · rfl

/-! ## Statements without others -/

/-- A variable declaration in terms of its declarators. -/
theorem variablesStatement_eq (n : Node) : n.variablesStatement σ = (do
    reachAll n.parts
    collect (declarator σ (!n.hasPart "const")) (n.payloads declaratorDelimiters)) := by
  unfold variablesStatement
  refine bind_congr fun _ => ?_
  rw [collect_eq_mapM, map_eq_pure_bind]

/-- The translation of a statement that holds no other statement, if it is of such a form. -/
def plainStatement? (σ : Settings) (n : Node) : Option (Translation (List Declaration)) :=
  match StatementForm.ofType n.type with
  | .function => some (n.functionStatement σ)
  | .declarators => some (n.variablesStatement σ)
  | .interfaceBlock => some (n.containerStatement σ .interface (interfaceMember σ))
  | .classBlock => some (n.containerStatement σ .classType (classMember σ))
  | _ => none

theorem exists_plainStatement (σ : Settings) (form : StatementForm.ofType n.type ∈
    [.function, .declarators, .interfaceBlock, .classBlock]) :
    ∃ x, n.plainStatement? σ = some x := by
  simp only [List.mem_cons, List.not_mem_nil, or_false] at form
  rcases form with form | form | form | form <;> rw [plainStatement?, form] <;> exact ⟨_, rfl⟩

theorem statement_plain {x : Translation (List Declaration)} (h : n.plainStatement? σ = some x) :
    n.statement σ scope = x := by
  unfold plainStatement? at h
  cases form : StatementForm.ofType n.type <;> rw [form] at h <;> cases h <;>
    rw [statement, form]

theorem statement_other (form : StatementForm.ofType n.type = .other) :
    n.statement σ scope = (do
      let text ← read n
      note (.untranslatedNode n.type n.line (String.ofList (text.toList.take quotedLength)))
      pure []) := by
  rw [statement, form]

/-! ## Names -/

/-- A statement is named by its own name, or else by what it wraps. -/
theorem declaredName?_eq (n : Node) :
    n.declaredName? = (do
      reach? (n.child? .name)
      match n.child? .name with
      | some name => pure (some name)
      | none =>
        if (StatementForm.ofType n.type).isWrapper then do
          reach? (n.child? .declaration)
          match n.child? .declaration with
          | some inner => inner.declaredName?
          | none => do
            reach? n.firstNamed?
            match n.firstNamed? with
            | some inner => inner.declaredName?
            | none => pure none
        else
          pure none) := by
  rw [declaredName?]
  refine bind_congr fun _ => ?_
  cases n.child? .name with
  | some name => rfl
  | none =>
    dsimp only
    congr 2
    funext _
    split <;> rename_i hd <;> rw [hd]
    dsimp only
    refine bind_congr fun _ => ?_
    split <;> rename_i hf <;> rw [hf]

/-! ## Rejected statements -/

/-- Finding what names a statement succeeds unless it aborts. -/
theorem decisive_declaredName? (n : Node) : n.declaredName?.Decisive := by
  induction n using sizeInduction with
  | step n ih =>
    rw [declaredName?_eq]
    refine (decisive_reach? _).bind fun _ _ => ?_
    split
    · exact decisive_pure _
    · split
      · refine (decisive_reach? _).bind fun _ _ => ?_
        split
        · next inner h => exact ih inner (sizeOf_lt_of_child? h)
        · refine (decisive_reach? _).bind fun _ _ => ?_
          split
          · next inner h => exact ih inner (sizeOf_lt_of_firstNamed? h)
          · exact decisive_pure _
      · exact decisive_pure _

/-- Finding what names a statement rejects nothing. -/
theorem silent_declaredName? (n : Node) : n.declaredName?.Silent := by
  induction n using sizeInduction with
  | step n ih =>
    rw [declaredName?_eq]
    refine (silent_reach? _).bind fun _ => ?_
    split
    · exact silent_pure _
    · split
      · refine (silent_reach? _).bind fun _ => ?_
        split
        · next inner h => exact ih inner (sizeOf_lt_of_child? h)
        · refine (silent_reach? _).bind fun _ => ?_
          split
          · next inner h => exact ih inner (sizeOf_lt_of_firstNamed? h)
          · exact silent_pure _
      · exact silent_pure _

theorem silent_nameText? (name? : Option Node) : (nameText? name?).Silent := by
  cases name? with
  | none => exact silent_pure none
  | some name => exact (silent_read name).bind fun _ => silent_pure _

theorem decisive_nameText? (name? : Option Node) : (nameText? name?).Decisive := by
  cases name? with
  | none => exact decisive_pure none
  | some name => exact (decisive_read name).bind fun _ _ => decisive_pure _

theorem nameText?_eq_ok {name? : Option Node} {text : Option String}
    (h : (nameText? name?).result = .ok text) : text = name?.bind (·.text) := by
  cases name? with
  | none =>
    cases h
    rfl
  | some name =>
    obtain ⟨t, ht, rfl⟩ := result_map_eq_ok.1 h
    rw [Option.bind_some, text_of_read ht]

theorem decisive_rejectStatement (n : Node) (e : Fault) (line : Nat) :
    (n.rejectStatement scope e line).Decisive := by
  unfold rejectStatement
  refine n.decisive_declaredName?.bind fun name? _ => ?_
  refine (decisive_note _).bind fun _ _ => ?_
  refine (decisive_nameText? name?).bind fun _ _ => ?_
  exact (decisive_reject _).bind fun _ _ => decisive_pure _

/-- A scanned statement succeeds unless the whole file is aborted. -/
theorem decisive_scanned (n : Node) : (n.scanned σ scope).Decisive :=
  Decisive.rescue n.decisive_rejectStatement

theorem not_aborts_of_scanned (done : ¬ (n.scanned σ scope).Aborts) :
    ¬ (n.statement σ scope).Aborts := by
  intro aborts
  rw [scanned, isolated, rescue_aborts aborts] at done
  exact done aborts

theorem rejectStatement_of_name {e : Fault} {line : Nat} {name? : Option Node}
    {text : Option String} (hname : n.declaredName?.result = .ok name?)
    (htext : (nameText? name?).result = .ok text) :
    (n.rejectStatement scope e line).result = .ok [] := by
  unfold rejectStatement
  exact result_bind_eq_ok.2 ⟨name?, hname, result_bind_eq_ok.2 ⟨(), rfl,
    result_bind_eq_ok.2 ⟨text, htext, rfl⟩⟩⟩

/-- Leaving a statement out fails just if its name cannot be read. -/
theorem result_rejectStatement (n : Node) (e : Fault) (line : Nat) :
    (n.rejectStatement scope e line).result =
      (n.declaredName? >>= nameText?).result >>= fun _ => .ok [] := by
  unfold rejectStatement
  simp only [result_bind]
  cases n.declaredName?.result with
  | error e' => rfl
  | ok name? => rfl

/-- Nothing is recorded for a statement whose name cannot be read. -/
theorem rejections_rejectStatement_of_error {e e' : Fault} {line : Nat}
    (h : (n.rejectStatement scope e line).result = .error e') :
    (n.rejectStatement scope e line).rejections = [] := by
  cases hname : n.declaredName?.result with
  | error _ =>
    rw [rejectStatement, rejections_bind_error hname]
    exact n.silent_declaredName?
  | ok name? =>
    cases htext : (nameText? name?).result with
    | error _ =>
      rw [rejectStatement, rejections_bind_ok hname, rejections_bind_ok rfl,
        rejections_bind_error htext, silent_nameText? name?, n.silent_declaredName?]
      rfl
    | ok text => cases h.symm.trans (rejectStatement_of_name hname htext)

/-- The text of the name that a statement declares. -/
def declaredText? (n : Node) : Option String :=
  match n.declaredName?.result with
  | .ok name? => name?.bind (·.text)
  | .error _ => none

theorem declaredText?_of_child? {name : Node} {text : String} (named : n.child? .name = some name)
    (written : name.text = some text) : n.declaredText? = some text := by
  have legible : name.isLegible = true := by simp [isLegible, written]
  have declared : n.declaredName?.result = .ok (some name) := by
    rw [declaredName?_eq, named, show reach? (some name) = reach name from rfl,
      reach_of_isLegible legible]
    rfl
  rw [declaredText?, declared]
  exact written

/-- The entry for a statement that is left out because of a fault at a line. -/
def rejection (n : Node) (e : Fault) (line : Nat) : Rejection where
  name := n.declaredText?
  nodeType := n.type
  line := line
  error := e.message

/-- Leaving a statement out gives no declaration and records the entry for it. -/
theorem rejectStatement_eq_ok {e : Fault} {line : Nat} {ds : List Declaration}
    (h : (n.rejectStatement scope e line).result = .ok ds) :
    ds = [] ∧ (n.rejectStatement scope e line).rejections = [n.rejection e line] := by
  unfold rejectStatement at h ⊢
  obtain ⟨name?, hname, h⟩ := result_bind_eq_ok.1 h
  obtain ⟨_, _, h⟩ := result_bind_eq_ok.1 h
  obtain ⟨text, htext, h⟩ := result_bind_eq_ok.1 h
  cases h
  have declared : n.declaredText? = text := by
    rw [declaredText?, hname, nameText?_eq_ok htext]
  refine ⟨rfl, ?_⟩
  rw [rejections_bind_ok hname, rejections_bind_ok rfl, rejections_bind_ok htext,
    silent_nameText? name?, n.silent_declaredName?, rejection, declared]
  rfl

/-- A statement that is left out gives nothing, and its entry is recorded last. -/
theorem scanned_of_error {e : Fault} {line : Nat} (failed : (n.statement σ scope).result = .error e)
    (recoverable : e.line? = some line) (done : ¬ (n.scanned σ scope).Aborts) :
    (n.scanned σ scope).result = .ok [] ∧ (n.scanned σ scope).rejections =
      (n.statement σ scope).rejections ++ [n.rejection e line] := by
  rw [scanned, isolated, rescue_line failed recoverable] at done ⊢
  obtain ⟨ds, hds⟩ := (decisive_rejectStatement n e line).ok done
  obtain ⟨rfl, recorded⟩ := rejectStatement_eq_ok hds
  exact ⟨hds, congrArg (_ ++ ·) recorded⟩

/-- Unless the file is aborted, a scan gives what the statement gives. -/
theorem result_scanned (done : ¬ (n.scanned σ scope).Aborts) :
    (n.scanned σ scope).result = .ok (n.statement σ scope).given := by
  rcases (n.statement σ scope).ok_or_aborts_or_line with ⟨ds, hds⟩ | aborts | ⟨e, line, he, hl⟩
  · rw [scanned, isolated, rescue_ok hds, given_ok hds, hds]
  · exact absurd aborts (not_aborts_of_scanned done)
  · rw [given_error he]
    exact (scanned_of_error he hl done).1

/-- Unless the file is aborted, the scan of a list gives what its statements give. -/
theorem result_collect_scanned {ns : List Node}
    (done : ¬ (collect (scanned σ scope) ns).Aborts) :
    (∀ n ∈ ns, ¬ (n.statement σ scope).Aborts) ∧ (collect (scanned σ scope) ns).result =
      .ok (ns.flatMap fun n => (n.statement σ scope).given) := by
  induction ns with
  | nil => exact ⟨fun n hn => absurd hn List.not_mem_nil, rfl⟩
  | cons n ns ih =>
    rw [collect_cons] at done ⊢
    obtain ⟨first, hfirst, done⟩ := n.decisive_scanned.ok_of_bind done
    have doneFirst := not_aborts_of_ok hfirst
    obtain ⟨each, others⟩ := ih fun aborts => done aborts.bind
    constructor
    · intro m hm
      rcases List.mem_cons.1 hm with rfl | hm
      · exact not_aborts_of_scanned doneFirst
      · exact each m hm
    · rw [result_bind, result_scanned doneFirst]
      exact result_bind_eq_ok.2 ⟨_, others, rfl⟩

/-! ## Files -/

theorem scanFile_eq (path : String) (root : Node) :
    root.scanFile σ path = (do
      reach root
      reachAll root.namedParts
      collect (scanned σ { path := path }) root.namedParts) := by
  rw [scanFile, scan_eq_collect]

end Node

/-- A file is translated just if its scan succeeds; it holds what the scan gives and records. -/
theorem translate_eq_ok {σ : Settings} {path : String} {root : Node} {file : TranslatedFile} :
    translate σ path root = .ok file ↔
      (root.scanFile σ path).result = .ok file.declarations ∧ file.path = path ∧
        file.rejections = (root.scanFile σ path).rejections := by
  rcases file with ⟨filePath, declarations, rejections⟩
  unfold translate
  cases h : (root.scanFile σ path).result with
  | error e => simp [h, Except.map]
  | ok ds =>
    simp only [h, Except.map, Except.ok.injEq, TranslatedFile.mk.injEq]
    constructor
    · rintro ⟨rfl, rfl, rfl⟩
      exact ⟨rfl, rfl, rfl⟩
    · rintro ⟨rfl, rfl, rfl⟩
      exact ⟨rfl, rfl, rfl⟩

theorem translate_eq_error {σ : Settings} {path : String} {root : Node} {e : Fault} :
    translate σ path root = .error e ↔ (root.scanFile σ path).result = .error e := by
  unfold translate
  cases h : (root.scanFile σ path).result with
  | error e' => simp [h, Except.map]
  | ok ds => simp [h, Except.map]

end KotlinStubs
