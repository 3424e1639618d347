import KotlinStubs.Proofs.Faults
import KotlinStubs.Proofs.Isolation
import KotlinStubs.Proofs.Namespaces

/-!
# Statements left out

A scan leaves out the statements that hold a rest parameter of the wrong shape.  For each of them it
notes a warning and records a rejection, and it does neither for anything else; so the warnings in
the log and the rejections belong to the same statements, in the same order.

`x.Accounts scope F` says this of a translation, for statements that satisfy `F`, unless the file is
aborted; and that a fault has its cause in the tree.

* `Accounts.bind`, `Accounts.collect`, `accounts_scanned`: composite translations.
* `Node.statement_accounts`: statements, at every depth.
* `translate_account`: the warnings and rejections of a file.
* `translate_cause`: what aborts a file.
* `translate_faults`: how faults are treated in a file.
-/

namespace KotlinStubs

open Translation

/-- A statement that a scan leaves out: the names of the namespaces around it, the outermost first,
its node, and the fault that ended it with its line. -/
structure LeftOut where
  names : List String
  statement : Node
  fault : Fault
  line : Nat

namespace LeftOut

/-- What is left out inside a namespace with a given name. -/
def inside (name : String) (l : LeftOut) : LeftOut := { l with names := name :: l.names }

/-- The warning for a statement that is left out in a scope. -/
def warning (scope : Scope) (l : LeftOut) : Event :=
  .rejected scope.path (scope.within l.names).qualifier l.statement.type l.statement.line
    l.fault.message

/-- The entry for a statement that is left out. -/
def rejection (l : LeftOut) : Rejection := l.statement.rejection l.fault l.line

theorem map_warning_enter (scope : Scope) (name : String) (ls : List LeftOut) :
    ls.map (warning (scope.enter name)) = (ls.map (inside name)).map (warning scope) := by
  rw [List.map_map]
  rfl

theorem map_rejection_inside (name : String) (ls : List LeftOut) :
    (ls.map (inside name)).map rejection = ls.map rejection := by
  rw [List.map_map]
  rfl

/-- The fault of the statement, where it stands. -/
def IsFaulty (σ : Settings) (scope : Scope) (l : LeftOut) : Prop :=
  (l.statement.statement σ (scope.within l.names)).result = .error l.fault ∧
    l.fault.line? = some l.line

end LeftOut

namespace Translation

variable {α β : Type} {root : Node} {scope : Scope} {F G : LeftOut → Prop}

/-- The warnings among the events noted. -/
def warnings (x : Translation α) : List Event := x.log.filter (·.level = .warning)

theorem warnings_bind_ok {x : Translation α} {f : α → Translation β} {a : α}
    (h : x.result = .ok a) : (x >>= f).warnings = x.warnings ++ (f a).warnings := by
  rw [bind_ok h]
  exact List.filter_append ..

theorem OnlyFails.warnings_eq_nil {x : Translation α} {P : Fault → Prop} (h : x.OnlyFails P) :
    x.warnings = [] := by
  refine List.filter_eq_nil_iff.2 fun e he => ?_
  have remark := h.remarks e he
  rw [remark]
  decide

/-- A fault has its cause in the tree; and unless it ends the file, the warnings and the rejections
are those for one list of statements, each of which satisfies `F`. -/
structure Accounts (root : Node) (scope : Scope) (F : LeftOut → Prop) (x : Translation α) :
    Prop where
  fault : ∀ e, x.result = .error e → e.HasCause root
  account : ¬ x.Aborts → ∃ ls : List LeftOut, (∀ l ∈ ls, F l) ∧
    x.warnings = ls.map (LeftOut.warning scope) ∧ x.rejections = ls.map LeftOut.rejection

theorem OnlyFails.accounts {x : Translation α} (h : x.OnlyFails (Fault.HasCause root)) :
    x.Accounts root scope F where
  fault := h.fault
  account := fun _ => ⟨[], nofun, h.warnings_eq_nil, h.silent⟩

theorem accounts_pure (a : α) : (pure a : Translation α).Accounts root scope F :=
  (onlyFails_pure a).accounts

theorem Accounts.imp {x : Translation α} (h : x.Accounts root scope F) (imp : ∀ l, F l → G l) :
    x.Accounts root scope G := by
  refine ⟨h.fault, fun done => ?_⟩
  obtain ⟨ls, each, warned, recorded⟩ := h.account done
  exact ⟨ls, fun l hl => imp l (each l hl), warned, recorded⟩

/-- What a composite translation leaves out is what its parts do, in their order. -/
theorem Accounts.bind {x : Translation α} {f : α → Translation β} (hx : x.Accounts root scope F)
    (hf : ∀ a, x.result = .ok a → (f a).Accounts root scope F) :
    (x >>= f).Accounts root scope F := by
  cases h : x.result with
  | error e =>
    rw [bind_error h]
    constructor
    · rintro _ ⟨⟩
      exact hx.fault e h
    · intro done
      apply hx.account
      rintro ⟨e', he', ends⟩
      cases h.symm.trans he'
      exact done ⟨e, rfl, ends⟩
  | ok a =>
    have rest := hf a h
    constructor
    · intro e he
      rw [bind_ok h] at he
      exact rest.fault e he
    · intro done
      obtain ⟨ls, each, warned, recorded⟩ := hx.account (not_aborts_of_ok h)
      obtain ⟨ls', each', warned', recorded'⟩ :=
        rest.account fun aborts => done ((aborts_of_bind h).2 aborts)
      refine ⟨ls ++ ls', ?_, ?_, ?_⟩
      · intro l hl
        rcases List.mem_append.1 hl with hl | hl
        · exact each l hl
        · exact each' l hl
      · rw [warnings_bind_ok h, warned, warned', List.map_append]
      · rw [rejections_bind_ok h, recorded, recorded', List.map_append]

theorem Accounts.collect {f : α → Translation (List β)} {as : List α}
    (h : ∀ a ∈ as, (f a).Accounts root scope F) : (collect f as).Accounts root scope F := by
  induction as with
  | nil => exact accounts_pure []
  | cons a as ih =>
    have first := h a List.mem_cons_self
    have others := ih fun b hb => h b (List.mem_cons_of_mem a hb)
    rw [collect_cons]
    exact first.bind fun _ _ => others.bind fun _ _ => accounts_pure _

/-- What is left out inside a namespace. -/
theorem Accounts.leave {x : Translation α} {name : String}
    (h : x.Accounts root (scope.enter name) F) :
    x.Accounts root scope fun l => ∃ l', F l' ∧ l = l'.inside name := by
  refine ⟨h.fault, fun done => ?_⟩
  obtain ⟨ls, each, warned, recorded⟩ := h.account done
  refine ⟨ls.map (LeftOut.inside name), ?_, ?_, ?_⟩
  · intro l hl
    obtain ⟨l', hl', rfl⟩ := List.mem_map.1 hl
    exact ⟨l', each l' hl', rfl⟩
  · rw [warned, LeftOut.map_warning_enter]
  · rw [recorded, LeftOut.map_rejection_inside]

end Translation

namespace Node

/-! ## Rejections -/

section

variable {σ : Settings} {root n : Node} {scope : Scope}

/-- Finding what names a statement only reads the tree. -/
theorem reads_declaredName? (hn : n ∈ root.preorder) : root.Reads n.declaredName? := by
  induction n using sizeInduction with
  | step n ih =>
    rw [declaredName?_eq]
    refine (reads_reachChild hn _).bind fun _ _ => ?_
    split
    · exact onlyFails_pure _
    · split
      · refine (reads_reachChild hn _).bind fun _ _ => ?_
        split
        · next inner found => exact ih inner (sizeOf_lt_of_child? found) (mem_of_child? hn found)
        · refine (reads_reachFirstNamed hn).bind fun _ _ => ?_
          split
          · next inner found =>
            exact ih inner (sizeOf_lt_of_firstNamed? found) (mem_of_firstNamed? hn found)
          · exact onlyFails_pure none
      · exact onlyFails_pure none

/-- The node that names a statement is a node of the tree. -/
theorem mem_of_declaredName? {name : Node} (hn : n ∈ root.preorder)
    (h : n.declaredName?.result = .ok (some name)) : name ∈ root.preorder := by
  induction n using sizeInduction with
  | step n ih =>
    rw [declaredName?_eq] at h
    obtain ⟨_, _, h⟩ := result_bind_eq_ok.1 h
    split at h
    · next name found =>
      cases h
      exact mem_of_child? hn found
    · split at h
      · obtain ⟨_, _, h⟩ := result_bind_eq_ok.1 h
        split at h
        · next inner found =>
          exact ih inner (sizeOf_lt_of_child? found) (mem_of_child? hn found) h
        · obtain ⟨_, _, h⟩ := result_bind_eq_ok.1 h
          split at h
          · next inner found =>
            exact ih inner (sizeOf_lt_of_firstNamed? found) (mem_of_firstNamed? hn found) h
          · cases h
      · cases h

/-- What names a statement is read in its tree. -/
theorem reads_nameText? {name? : Option Node} (hn : n ∈ root.preorder)
    (h : n.declaredName?.result = .ok name?) : root.Reads (nameText? name?) := by
  cases name? with
  | none => exact onlyFails_pure none
  | some name => exact (reads_read (mem_of_declaredName? hn h)).map _

/-- Leaving a statement out notes one warning and records one rejection, those for it. -/
theorem rejectStatement_accounts (hn : n ∈ root.preorder) (scope : Scope) (e : Fault)
    (line : Nat) :
    (∀ e', (n.rejectStatement scope e line).result = .error e' → e'.HasCause root) ∧
      (¬ (n.rejectStatement scope e line).Aborts →
        (n.rejectStatement scope e line).warnings = [LeftOut.warning scope ⟨[], n, e, line⟩] ∧
        (n.rejectStatement scope e line).rejections = [n.rejection e line]) := by
  have declared := reads_declaredName? hn
  constructor
  · intro e' he'
    unfold rejectStatement at he'
    cases h : n.declaredName?.result with
    | error e₁ =>
      rw [bind_error h] at he'
      cases he'
      exact declared.sound.fault _ h
    | ok name? =>
      rw [bind_ok h] at he'
      cases h' : (nameText? name?).result with
      | error e₂ =>
        rw [bind_error h'] at he'
        cases he'
        exact (reads_nameText? hn h).sound.fault _ h'
      | ok text =>
        rw [bind_ok h'] at he'
        cases he'
  · intro done
    obtain ⟨ds, hds⟩ := (decisive_rejectStatement n e line).ok done
    refine ⟨?_, (rejectStatement_eq_ok hds).2⟩
    unfold rejectStatement at hds ⊢
    obtain ⟨name?, h, hds⟩ := result_bind_eq_ok.1 hds
    obtain ⟨_, _, hds⟩ := result_bind_eq_ok.1 hds
    obtain ⟨text, h', _⟩ := result_bind_eq_ok.1 hds
    rw [warnings_bind_ok h, warnings_bind_ok rfl, warnings_bind_ok h', declared.warnings_eq_nil,
      (reads_nameText? hn h).warnings_eq_nil]
    rfl

end

/-! ## Statements -/

/-- What the scan of a body leaves out, in it or in the body of a namespace that it gets to. -/
def LeavesOut (σ : Settings) (scope : Scope) (b : Node) (l : LeftOut) : Prop :=
  ∃ p b', Scans (fun _ _ => True) scope b p l.names b' ∧ l.statement ∈ b'.namedParts ∧
    l.IsFaulty σ scope

/-- What is left out in the namespaces that a statement leads to. -/
def LeavesOutInside (σ : Settings) (scope : Scope) (n : Node) (l : LeftOut) : Prop :=
  ∃ q m name i body, LeadsTo (fun _ => True) n q m ∧ m.IsNamespace name i body ∧
    ∃ l', LeavesOut σ (scope.enter name) body l' ∧ l = l'.inside name

section

variable {σ : Settings} {root n c : Node} {scope : Scope} {i : Nat} {l : LeftOut}

theorem LeavesOutInside.wrap (wraps : n.Wraps i c) (h : c.LeavesOutInside σ scope l) :
    n.LeavesOutInside σ scope l := by
  obtain ⟨q, m, name, j, body, way, inner, left⟩ := h
  exact ⟨i :: q, m, name, j, body, .inside wraps (fun _ _ _ _ => trivial) way, inner, left⟩

/-- A statement of a body leaves out itself or something inside. -/
theorem leavesOut_of_mem {b : Node} (hc : c ∈ b.namedParts)
    (h : c.LeavesOutInside σ scope l ∨ l.statement = c ∧ l.names = [] ∧ l.IsFaulty σ scope) :
    b.LeavesOut σ scope l := by
  rcases h with ⟨q, m, name, i, body, way, inner, l', ⟨p, b', scans, member, faulty⟩, rfl⟩ |
    ⟨rfl, outermost, faulty⟩
  · obtain ⟨j, at_j, part⟩ := mem_namedParts_iff.1 hc
    exact ⟨_, b', .inside at_j part way inner scans, member, faulty⟩
  · exact ⟨[], b, outermost ▸ .here, hc, faulty⟩

/-- A scan accounts for what a statement accounts for and for the statement itself. -/
theorem accounts_scanned (hn : n ∈ root.preorder)
    (h : (n.statement σ scope).Accounts root scope (n.LeavesOutInside σ scope)) :
    (n.scanned σ scope).Accounts root scope fun l =>
      n.LeavesOutInside σ scope l ∨ l.statement = n ∧ l.names = [] ∧ l.IsFaulty σ scope := by
  have inner : (n.statement σ scope).Accounts root scope fun l =>
      n.LeavesOutInside σ scope l ∨ l.statement = n ∧ l.names = [] ∧ l.IsFaulty σ scope :=
    h.imp fun _ hl => Or.inl hl
  rw [scanned, isolated]
  rcases (n.statement σ scope).ok_or_aborts_or_line with ⟨ds, hds⟩ | aborts | ⟨e, line, he, hl⟩
  · rw [rescue_ok hds]
    exact inner
  · rw [rescue_aborts aborts]
    exact inner
  · have left := rejectStatement_accounts hn scope e line
    rw [rescue_line he hl]
    refine ⟨left.1, fun done => ?_⟩
    have notAborted : ¬ (n.statement σ scope).Aborts := by
      rintro ⟨e', he', ends⟩
      cases he.symm.trans he'
      cases hl.symm.trans ends
    obtain ⟨ls, each, warned, recorded⟩ := inner.account notAborted
    obtain ⟨warning, rejection⟩ := left.2 done
    refine ⟨ls ++ [⟨[], n, e, line⟩], ?_, ?_, ?_⟩
    · intro l hl'
      rcases List.mem_append.1 hl' with hl' | hl'
      · exact each l hl'
      · rw [List.mem_singleton.1 hl']
        exact Or.inr ⟨rfl, rfl, he, hl⟩
    · rw [List.map_append, ← warned]
      exact (List.filter_append ..).trans (congrArg _ warning)
    · rw [List.map_append, ← recorded]
      exact congrArg _ rejection

/-- A namespace accounts for what the scan of its body leaves out, if its statements do. -/
theorem namespaceStatement_accounts (hn : n ∈ root.preorder)
    (form : StatementForm.ofType n.type = .namespaceBlock)
    (ih : ∀ m : Node, sizeOf m < sizeOf n → m ∈ root.preorder → ∀ scope,
      (m.statement σ scope).Accounts root scope (m.LeavesOutInside σ scope)) :
    (n.namespaceStatement σ scope).Accounts root scope (n.LeavesOutInside σ scope) := by
  rw [namespaceStatement_eq]
  refine (reads_reachChild hn _).sound.accounts.bind fun _ _ => ?_
  refine (reads_reachChild hn _).sound.accounts.bind fun _ _ => ?_
  split
  · next head body hname hbody =>
    have headInTree := mem_of_child? hn hname
    have bodyInTree := mem_of_child? hn hbody
    split
    · have remark : root.Sound (do
          note (.externalModule (← read head) n.line)
          pure [] : Translation (List Declaration)) :=
        (reads_read headInTree).sound.bind fun _ _ =>
          (onlyFails_note rfl).bind fun _ _ => onlyFails_pure []
      exact remark.accounts
    · next kind =>
      refine (reads_read headInTree).sound.accounts.bind fun name hread => ?_
      refine (reads_reachNamedParts bodyInTree).sound.accounts.bind fun _ _ => ?_
      obtain ⟨i, first⟩ := exists_firstAt hbody
      have inner : n.IsNamespace name i body :=
        ⟨form, ⟨head, hname, kind, text_of_read hread⟩, first⟩
      have scans : (collect (scanned σ (scope.enter name)) body.namedParts).Accounts root
          (scope.enter name) (body.LeavesOut σ (scope.enter name)) := by
        refine Accounts.collect fun m hm => ?_
        have mInTree := mem_of_namedParts bodyInTree hm
        have smaller := Nat.lt_trans (sizeOf_lt_of_mem_namedParts hm) (sizeOf_lt_of_child? hbody)
        exact (accounts_scanned mInTree (ih m smaller mInTree _)).imp fun l hl =>
          leavesOut_of_mem hm hl
      refine (scans.leave.imp ?_).bind fun _ _ => accounts_pure _
      exact fun l left => ⟨[], n, name, i, body, .here, inner, left⟩
  · exact accounts_pure []

/-- Every statement accounts for what is left out in it. -/
theorem statement_accounts (n : Node) (hn : n ∈ root.preorder) (scope : Scope) :
    (n.statement σ scope).Accounts root scope (n.LeavesOutInside σ scope) := by
  induction n using sizeInduction generalizing scope with
  | step n ih =>
    have remark (e : Event) (h : e.level = .debug) :
        root.Sound (do note e; pure [] : Translation (List Declaration)) :=
      (onlyFails_note h).bind fun _ _ => onlyFails_pure []
    cases form : StatementForm.ofType n.type with
    | exported =>
      rw [statement_exported form]
      refine (reads_reachChild hn _).sound.accounts.bind fun _ _ => ?_
      split
      · next inner found =>
        obtain ⟨i, first⟩ := exists_firstAt found
        have smaller := sizeOf_lt_of_child? found
        exact (ih inner smaller (mem_of_child? hn found) scope).imp fun _ h =>
          h.wrap (.exported form first)
      · exact (remark _ rfl).accounts
    | ambient =>
      rw [statement_ambient form]
      refine (reads_reachNamedParts hn).sound.accounts.bind fun _ _ => ?_
      refine Accounts.collect fun m hm => ?_
      obtain ⟨i, at_i, part⟩ := mem_namedParts_iff.1 hm
      have smaller := sizeOf_lt_of_mem_namedParts hm
      exact (ih m smaller (mem_of_namedParts hn hm) scope).imp fun _ h =>
        h.wrap (.ambient form at_i part)
    | expression =>
      rw [statement_expression form]
      refine (reads_reachFirstNamed hn).sound.accounts.bind fun _ _ => ?_
      split
      · next inner found =>
        split
        · next type =>
          have smaller := sizeOf_lt_of_firstNamed? found
          have inTree := mem_of_firstNamed? hn found
          rw [firstNamed?_eq] at found
          obtain ⟨i, first⟩ := exists_firstAt found
          exact (ih inner smaller inTree scope).imp fun _ h =>
            h.wrap (.expression form first type)
        · exact (remark _ rfl).accounts
      · exact (remark _ rfl).accounts
    | function | declarators | interfaceBlock | classBlock =>
      obtain ⟨x, plain⟩ := exists_plainStatement σ (n := n) (by rw [form]; decide)
      rw [statement_plain plain]
      exact (sound_plainStatement hn plain).accounts
    | namespaceBlock =>
      rw [statement_namespace form]
      exact namespaceStatement_accounts hn form ih
    | other =>
      rw [statement_other form]
      refine OnlyFails.accounts ((reads_read hn).sound.bind fun text _ => ?_)
      exact remark (.untranslatedNode n.type n.line _) rfl

/-- A file accounts for what its scan leaves out. -/
theorem scanFile_accounts (root : Node) (path : String) :
    (root.scanFile σ path).Accounts root { path := path } (root.LeavesOut σ { path := path }) := by
  have inTree := root.mem_preorder_self
  rw [scanFile_eq]
  refine (reads_reach inTree).sound.accounts.bind fun _ _ => ?_
  refine (reads_reachNamedParts inTree).sound.accounts.bind fun _ _ => ?_
  refine Accounts.collect fun m hm => ?_
  have mInTree := mem_of_namedParts inTree hm
  exact (accounts_scanned mInTree (statement_accounts m mInTree _)).imp fun l hl =>
    leavesOut_of_mem hm hl

theorem decisive_scanFile (root : Node) (path : String) : (root.scanFile σ path).Decisive := by
  rw [scanFile_eq]
  exact (decisive_reach _).bind fun _ _ => (decisive_reachAll _).bind fun _ _ =>
    Decisive.collect decisive_scanned _

end

end Node

/-! ## Files -/

section

variable {σ : Settings} {path : String} {root : Node}

/-- No fault of a single statement ends a file. -/
theorem translate_ne_restShape (nodeType : String) (line : Nat) :
    translate σ path root ≠ .error (.restShape nodeType line) := by
  intro ends
  have scan := translate_eq_error.1 ends
  have recoverable : (Fault.restShape nodeType line).line? = none :=
    (Node.decisive_scanFile root path).line?_eq_none scan
  cases recoverable

/-- The warnings and the rejections of a file are those for the statements left out. -/
theorem translate_account {file : TranslatedFile} (done : translate σ path root = .ok file) :
    ∃ ls : List LeftOut, (∀ l ∈ ls, root.LeavesOut σ { path := path } l) ∧
      (root.scanFile σ path).warnings = ls.map (LeftOut.warning { path := path }) ∧
      file.rejections = ls.map LeftOut.rejection := by
  obtain ⟨scan, -, recorded⟩ := translate_eq_ok.1 done
  rw [recorded]
  exact (Node.scanFile_accounts root path).account (not_aborts_of_ok scan)

/-- A file whose texts can all be read is aborted because of an `Array` with a number of arguments
other than one, as the type of a rest parameter, or of an entry of a variable declaration that is no
declarator. -/
theorem translate_cause {e : Fault} (readable : ∀ n ∈ root.preorder, n.text ≠ none)
    (ends : translate σ path root = .error e) :
    (∃ p count, e = .arrayArity count ∧
      root.HoldsParameter p ∧ p.IsRestOfArray count ∧ count ≠ 1) ∨
    (∃ n entry, e = .wrongEntry .variableDeclarator entry.type ∧ n ∈ root.preorder ∧
      (n.type = "lexical_declaration" ∨ n.type = "variable_declaration") ∧
      entry ∈ n.payloads declaratorDelimiters ∧ entry.type ≠ "variable_declarator") := by
  have cause := (Node.scanFile_accounts root path).fault e (translate_eq_error.1 ends)
  cases cause with
  | restShape => exact absurd ends (translate_ne_restShape _ _)
  | @arrayArity p count held rest arity => exact Or.inl ⟨p, count, rfl, held, rest, arity⟩
  | @wrongEntry n entry inTree form member other =>
    have type := StatementForm.ofType_eq_declarators.1 form
    have otherType : entry.type ≠ "variable_declarator" := by
      intro same
      apply other
      rw [Node.kind, same]
      rfl
    exact Or.inr ⟨n, entry, rfl, inTree, type, member, otherType⟩
  | undecodable inTree unread => exact absurd unread (readable _ inTree)

end

/-- **Faults in a file.** No fault of a single statement ends a file.  The warnings and the
rejections of a file are those for the same statements, each left out in the namespace that the
warning names.  If all texts can be read, what aborts a file is an `Array` of the wrong arity or an
entry that is no declarator; and the resolution of a type never is short of names and ends with one
name. -/
theorem translate_faults (σ : Settings) (path : String) (root : Node) :
    (∀ nodeType line, translate σ path root ≠ .error (.restShape nodeType line)) ∧
    (∀ file, translate σ path root = .ok file → ∃ ls : List LeftOut,
      (root.scanFile σ path).warnings = ls.map (LeftOut.warning { path := path }) ∧
      file.rejections = ls.map LeftOut.rejection ∧
      ∀ l ∈ ls, root.LeavesOut σ { path := path } l ∧
        ((∀ a ∈ l.names, a ≠ "") → (Scope.within { path := path } l.names).qualifier =
          if l.names = [] then none else some (Text.join "." l.names))) ∧
    ((∀ n ∈ root.preorder, n.text ≠ none) → ∀ e, translate σ path root = .error e →
      (∃ p count, e = .arrayArity count ∧
        root.HoldsParameter p ∧ p.IsRestOfArray count ∧ count ≠ 1) ∨
      (∃ n entry, e = .wrongEntry .variableDeclarator entry.type ∧ n ∈ root.preorder ∧
        (n.type = "lexical_declaration" ∨ n.type = "variable_declaration") ∧
        entry ∈ n.payloads declaratorDelimiters ∧ entry.type ≠ "variable_declarator")) ∧
    (∀ n m, Machine.Reached n m → Machine.Serves m.names.length m.tasks) ∧
    (∀ n names, (Machine.run ⟨[.operand (.node n)], []⟩).result = .ok names →
      ∃ text, names = [text]) := by
  refine ⟨translate_ne_restShape, ?_, fun readable _ => translate_cause readable,
    fun _ _ => Machine.Reached.serves, fun _ _ => Machine.names_of_run⟩
  intro file done
  obtain ⟨ls, left, warned, recorded⟩ := translate_account done
  exact ⟨ls, warned, recorded, fun l hl => ⟨left l hl, Scope.qualifier_within⟩⟩

namespace Node

/-- In `rejectedInNamespace` the file itself and the namespace are scanned, and no other body. -/
theorem Scans.eq_rejectedInNamespace {passes : Scope → Node → Prop} {scope : Scope} {p : List Nat}
    {names : List String} {b : Node} (scans : Scans passes scope rejectedInNamespace p names b) :
    (names = [] ∧ b = rejectedInNamespace) ∨
      (names = ["N"] ∧ b = bodyOf [leaf "empty_statement" ";" [], restOfNoArray]) := by
  cases scans with
  | here => exact .inl ⟨rfl, rfl⟩
  | inside at_j part way inner scans =>
    obtain rfl := List.mem_singleton.1 (mem_namedParts_iff.2 ⟨_, at_j, part⟩)
    cases way with
    | here => cases inner.form
    | inside wraps _ way =>
      obtain rfl := List.mem_singleton.1 (mem_namedParts_iff.2 ⟨_, (wraps_ambient rfl).1 wraps⟩)
      cases way with
      | inside wraps => exact absurd rfl wraps.form_ne_namespaceBlock
      | here =>
        obtain ⟨rfl, rfl, rfl⟩ := (isNamespace_moduleOf "N" _).unique inner
        cases scans with
        | here => exact .inr ⟨rfl, rfl⟩
        | inside at_k part way inner =>
          -- neither of the statements in the namespace leads to another one
          have statement := mem_namedParts_iff.2 ⟨_, at_k, part⟩
          rw [namedParts_bodyOf (by decide), List.mem_pair] at statement
          rcases statement with rfl | rfl
          · exact absurd (way.form inner) (by decide)
          · exact absurd (way.form inner) (by decide)

/-- What is left out in `rejectedInNamespace` is the function in the namespace. -/
theorem LeavesOut.eq_rejectedInNamespace {path : String} {l : LeftOut}
    (left : rejectedInNamespace.LeavesOut {} { path := path } l) :
    l = ⟨["N"], restOfNoArray, .restShape "required_parameter" 1, 1⟩ := by
  obtain ⟨p, b, scans, member, faulty, line⟩ := left
  obtain ⟨names, statement, fault, at_line⟩ := l
  dsimp only at scans member faulty line
  rcases scans.eq_rejectedInNamespace with ⟨rfl, rfl⟩ | ⟨rfl, rfl⟩
  · -- the namespace as a whole is translated
    obtain rfl := List.mem_singleton.1 member
    rw [statement_ambientModule "N" (by decide) (by decide), collect_cons, collect_singleton,
      scanned_restOfNoArray, scanned, isolated, statement_other rfl] at faulty
    cases faulty
  · rw [namedParts_bodyOf (by decide), List.mem_pair] at member
    rcases member with rfl | rfl
    · rw [statement_other rfl] at faulty
      cases faulty
    · rw [statement_restOfNoArray] at faulty
      cases faulty
      cases line
      rfl

/-- `...a: b`, for a type node `b` -/
def restParameter (declared : Node) : Node :=
  branch "required_parameter" "...a" [] [
    branch "rest_pattern" "...a" [.pattern] [token "...", leaf "identifier" "a" []],
    branch "type_annotation" ":" [.type] [token ":", declared]]

/-- `Array<>`, an array without arguments -/
def arrayOfNothing : Node :=
  branch "generic_type" "Array<>" [] [
    leaf "type_identifier" "Array" [.name],
    branch "type_arguments" "<>" [.typeArguments] [token "<", token ">"]]

/-- `function g(...a: Array<>)` -/
def restOfNothing : Node :=
  branch "program" "function" [] [
    branch "function_signature" "function g(...a: Array<>)" [] [
      token "function",
      leaf "identifier" "g" [.name],
      branch "formal_parameters" "(...a: Array<>)" [.parameters] [
        token "(", restParameter arrayOfNothing, token ")"]]]

theorem translate_restOfNothing (path : String) :
    translate {} path restOfNothing = .error (.arrayArity 0) := by
  rw [translate_eq_error, scanFile_eq, show restOfNothing.namedParts = [_] from rfl,
    collect_singleton, scanned, isolated, statement_plain rfl]
  rfl

/-- One function is left out of a namespace, and one ends the file. -/
theorem translate_faults_rejectedInNamespace :
    (translate {} "n.d.ts" rejectedInNamespace = .ok rejectedInNamespaceFile ∧
      rejectedInNamespaceFile.rejections = [{
        name := some "g"
        nodeType := "function_signature"
        line := 1
        error := "rest parameter must be an array type" }] ∧
      (rejectedInNamespace.scanFile {} "n.d.ts").warnings = [
        .rejected "n.d.ts" (some "N") "function_signature" 1
          "rest parameter must be an array type"] ∧
      rejectedInNamespace.LeavesOut {} { path := "n.d.ts" }
        ⟨["N"], restOfNoArray, .restShape "required_parameter" 1, 1⟩) ∧
    ((∀ n ∈ restOfNothing.preorder, n.text ≠ none) ∧
      translate {} "a.d.ts" restOfNothing = .error (.arrayArity 0) ∧
      ∃ p, restOfNothing.HoldsParameter p ∧ p.IsRestOfArray 0) := by
  constructor
  · obtain ⟨ls, warned, recorded, each⟩ :=
      (translate_faults {} "n.d.ts" rejectedInNamespace).2.1 _ translate_rejectedInNamespace
    obtain ⟨l, rfl⟩ : ∃ l, ls = [l] := by
      rw [← List.length_eq_one_iff, ← ls.length_map (f := LeftOut.rejection), ← recorded]
      rfl
    obtain ⟨left, -⟩ := each l List.mem_cons_self
    obtain rfl := left.eq_rejectedInNamespace
    exact ⟨translate_rejectedInNamespace, rfl, warned, left⟩
  · have readable : ∀ n ∈ restOfNothing.preorder, n.text ≠ none := by decide
    have ends := translate_restOfNothing "a.d.ts"
    obtain ⟨p, count, same, held, rest, -⟩ | ⟨_, _, other, -⟩ :=
      (translate_faults {} "a.d.ts" restOfNothing).2.2.1 readable _ ends
    · cases same
      exact ⟨readable, ends, p, held, rest⟩
    · cases other

end Node

end KotlinStubs
