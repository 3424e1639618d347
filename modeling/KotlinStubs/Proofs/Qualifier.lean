import KotlinStubs.Proofs.LeftOut

/-!
# Bodies under a qualifier

A body means the same wherever its namespace is nested.  Put under one more qualifier, a scan has the
same outcome: only the names of namespaces and the places named by warnings get the qualifier in
front.  What stands below a statement does not see the qualifier at all.

`x.relabel g f` is the translation `x` with `g` applied to its events and `f` to its result.

* `relabel_bind`, `relabel_collect`, `relabel_rescue`: composite translations.
* `Scope.enter_under`: a namespace can be entered before or after the qualifier is put in front.
* `Node.statement_under`: statements, at every depth.
* `scan_under_qualifier`: lists of statements.
-/

namespace KotlinStubs

open Translation

namespace Translation

variable {α α' β β' : Type} {g : Event → Event}

/-- The translation with its events and its result changed. -/
def relabel (g : Event → Event) (f : α → β) (x : Translation α) : Translation β :=
  ⟨x.log.map g, x.rejections, x.result.map f⟩

@[simp] theorem relabel_pure (f : α → β) (a : α) : (pure a : Translation α).relabel g f = pure (f a) :=
  rfl

/-- A translation that notes and gives what is left alone. -/
theorem relabel_eq_self {f : α → α} {x : Translation α} (log : ∀ e ∈ x.log, g e = e)
    (result : x.Gives fun a => f a = a) : x.relabel g f = x := by
  have sameLog : x.log.map g = x.log := (List.map_congr_left log).trans x.log.map_id
  have sameResult : x.result.map f = x.result := by
    cases h : x.result with
    | error e => rfl
    | ok a => rw [Except.map, result a h]
  rw [relabel, sameLog, sameResult]

theorem relabel_bind {f : β → β'} {h : α → α'} {x : Translation α} {k : α → Translation β}
    {k' : α' → Translation β'} (hk : ∀ a, x.result = .ok a → (k a).relabel g f = k' (h a)) :
    (x >>= k).relabel g f = x.relabel g h >>= k' := by
  cases hx : x.result with
  | error e =>
    have result : (x.relabel g h).result = .error e := by rw [relabel, hx]; rfl
    rw [bind_error hx, bind_error result]
    rfl
  | ok a =>
    have result : (x.relabel g h).result = .ok (h a) := by rw [relabel, hx]; rfl
    rw [bind_ok hx, bind_ok result, ← hk a hx]
    simp only [relabel, after, List.map_append]

/-- What follows a translation that is left alone. -/
theorem relabel_bind_same {f : β → β'} {x : Translation α} {k : α → Translation β}
    {k' : α → Translation β'} (hx : x.relabel g id = x)
    (hk : ∀ a, x.result = .ok a → (k a).relabel g f = k' a) :
    (x >>= k).relabel g f = x >>= k' := by
  rw [relabel_bind (h := id) hk, hx]

theorem relabel_note_bind {f : β → β'} {e : Event} {k : Unit → Translation β}
    {k' : Unit → Translation β'} (hk : (k ()).relabel g f = k' ()) :
    (note e >>= k).relabel g f = note (g e) >>= k' :=
  relabel_bind (h := id) fun _ _ => hk

theorem relabel_collect {f : β → β'} {k : α → Translation (List β)}
    {k' : α → Translation (List β')} {as : List α}
    (hk : ∀ a ∈ as, (k a).relabel g (List.map f) = k' a) :
    (collect k as).relabel g (List.map f) = collect k' as := by
  induction as with
  | nil => rfl
  | cons a as ih =>
    rw [collect_cons, collect_cons, ← hk a List.mem_cons_self,
      ← ih fun b hb => hk b (List.mem_cons_of_mem a hb)]
    refine relabel_bind fun first _ => relabel_bind fun others _ => ?_
    rw [relabel_pure, List.map_append]

theorem relabel_rescue {f : α → β} {x : Translation α} {recover : Fault → Nat → Translation α}
    {recover' : Fault → Nat → Translation β}
    (hr : ∀ e line, (recover e line).relabel g f = recover' e line) :
    (x.rescue recover).relabel g f = (x.relabel g f).rescue recover' := by
  have error {e : Fault} (h : x.result = .error e) : (x.relabel g f).result = .error e := by
    rw [relabel, h]
    rfl
  rcases x.ok_or_aborts_or_line with ⟨a, ha⟩ | ⟨e, he, ends⟩ | ⟨e, line, he, hl⟩
  · have result : (x.relabel g f).result = .ok (f a) := by rw [relabel, ha]; rfl
    rw [rescue_ok ha, rescue_ok result]
  · rw [rescue_aborts ⟨e, he, ends⟩, rescue_aborts ⟨e, error he, ends⟩]
  · rw [rescue_line he hl, rescue_line (error he) hl, ← hr]
    simp only [relabel, after, List.map_append]

end Translation

/-! ## One more qualifier -/

/-- A qualifier in front of another, if there is one. -/
def qualifierUnder (q : String) : Option String → String
  | some m => q ++ "." ++ m
  | none => q

/-- The scope with a qualifier in front of its own. -/
def Scope.under (q : String) (scope : Scope) : Scope :=
  { scope with qualifier := some (qualifierUnder q scope.qualifier) }

/-- The event with a qualifier in front of the place that it names, if it is a warning. -/
def Event.under (q : String) : Event → Event
  | rejected path qualifier nodeType line error =>
    rejected path (some (qualifierUnder q qualifier)) nodeType line error
  | e => e

/-- The declaration with a qualifier in front of its name, if it is a namespace. -/
def Declaration.under (q : String) (d : Declaration) : Declaration :=
  if d.kind = .nameSpace then { d with name := q ++ "." ++ d.name } else d

theorem Event.under_of_debug {q : String} {e : Event} (h : e.level = .debug) : e.under q = e := by
  cases e with
  | rejected => cases h
  | _ => rfl

theorem Declaration.kind_under (q : String) (d : Declaration) : (d.under q).kind = d.kind := by
  unfold under
  split <;> rfl

theorem Declaration.under_of_ne {q : String} {d : Declaration} (h : d.kind ≠ .nameSpace) :
    d.under q = d :=
  if_neg h

theorem map_under_of_no_namespace {q : String} {ds : List Declaration}
    (h : ∀ d ∈ ds, d.kind ≠ .nameSpace) : ds.map (Declaration.under q) = ds :=
  (List.map_congr_left fun d hd => Declaration.under_of_ne (h d hd)).trans ds.map_id

/-- If a scope has a qualifier, that is not empty. -/
def Scope.IsNamed (scope : Scope) : Prop := scope.qualifier ≠ some ""

theorem Scope.isNamed_enter (scope : Scope) {name : String} (named : name ≠ "") :
    (scope.enter name).IsNamed := by
  intro empty
  have qualified : scope.qualify name = "" := Option.some.inj empty
  unfold qualify at qualified
  split at qualified
  · split at qualified
    · exact named qualified
    · rw [String.append_eq_empty_iff] at qualified
      exact named qualified.2
  · exact named qualified

/-- Under a qualifier a namespace has the name that it has without, behind the qualifier. -/
theorem Scope.qualify_under {q : String} (hq : q ≠ "") {scope : Scope} (h : scope.IsNamed)
    (name : String) : (scope.under q).qualify name = q ++ "." ++ scope.qualify name := by
  have notEmpty {s : String} (hs : s ≠ "") : s.isEmpty = false := by simpa using hs
  rcases scope with ⟨path, _ | m⟩
  · simp only [under, qualifierUnder, qualify, notEmpty hq, Bool.false_eq_true, if_false]
  · have inner : m ≠ "" := fun empty => h (congrArg some empty)
    have outer : q ++ "." ++ m ≠ "" := by
      intro empty
      rw [String.append_eq_empty_iff] at empty
      exact inner empty.2
    simp only [under, qualifierUnder, qualify, notEmpty inner, notEmpty outer,
      Bool.false_eq_true, if_false]
    simp only [String.append_assoc]

theorem Scope.enter_under {q : String} (hq : q ≠ "") {scope : Scope} (h : scope.IsNamed)
    (name : String) : (scope.under q).enter name = (scope.enter name).under q := by
  rw [enter, qualify_under hq h]
  rfl

/-- A qualifier is put in front of namespaces before or after they are told from other
declarations. -/
theorem map_under_namespaceOf (q name : String) (line : Nat) (body : List Declaration) :
    (Node.namespaceOf name line body).map (Declaration.under q) =
      Node.namespaceOf (q ++ "." ++ name) line (body.map (Declaration.under q)) := by
  have kinds (p : DeclarationKind → Bool) :
      (body.map (Declaration.under q)).filter (fun d => p d.kind) =
        (body.filter fun d => p d.kind).map (Declaration.under q) := by
    rw [List.filter_map]
    simp only [Function.comp_def, Declaration.kind_under]
  have own : (body.filter (·.kind != .nameSpace)).map (Declaration.under q) =
      body.filter (·.kind != .nameSpace) := by
    refine map_under_of_no_namespace fun d hd => ?_
    simpa using (List.mem_filter.1 hd).2
  rw [Node.namespaceOf, Node.namespaceOf, kinds (· != .nameSpace), kinds (· == .nameSpace), own]
  rfl

namespace Node

/-! ## Statements under a qualifier -/

variable {σ : Settings} {q : String} {scope : Scope} {n : Node}

/-- No namespace in a tree has an empty name. -/
def NamesNamespaces (n : Node) : Prop :=
  ∀ m ∈ n.preorder, ∀ name i body, m.IsNamespace name i body → name ≠ ""

theorem NamesNamespaces.child {c : Node} (h : n.NamesNamespaces) (hc : c ∈ n.children) :
    c.NamesNamespaces :=
  fun m hm => h m (mem_preorder_of_child hc hm)

/-- The names of namespaces are texts of children. -/
theorem namesNamespaces_of_texts
    (texts : ∀ m ∈ n.preorder, (m.child? .name).bind (·.text) ≠ some "") : n.NamesNamespaces := by
  rintro m hm name i body inner rfl
  obtain ⟨head, named, -, text⟩ := inner.named
  refine texts m hm ?_
  rw [named, Option.bind_some, text]

/-- What notes remarks only does not see the qualifier. -/
theorem relabel_of_onlyFails {α : Type} {P : Fault → Prop} {x : Translation α}
    (h : x.OnlyFails P) : x.relabel (Event.under q) id = x :=
  relabel_eq_self (fun e he => Event.under_of_debug (h.remarks e he)) fun _ _ => rfl

theorem relabel_plain {x : Translation (List Declaration)} (h : n.plainStatement? σ = some x) :
    x.relabel (Event.under q) (List.map (Declaration.under q)) = x := by
  have remarks := (sound_plainStatement n.mem_preorder_self h).remarks
  refine relabel_eq_self (fun e he => Event.under_of_debug (remarks e he)) fun ds hds => ?_
  exact map_under_of_no_namespace fun d hd => (plainStatement_gives h ds hds d hd).not_nameSpace

theorem rejectStatement_under (q : String) (scope : Scope) (n : Node) (e : Fault) (line : Nat) :
    (n.rejectStatement scope e line).relabel (Event.under q) (List.map (Declaration.under q)) =
      n.rejectStatement (scope.under q) e line := by
  have inTree := n.mem_preorder_self
  unfold rejectStatement
  refine relabel_bind_same (relabel_of_onlyFails (reads_declaredName? inTree)) fun name? found => ?_
  have name := reads_nameText? inTree found
  refine relabel_note_bind ?_
  exact relabel_bind_same (relabel_of_onlyFails name) fun _ _ => rfl

theorem scanned_under (h : (n.statement σ scope).relabel (Event.under q)
      (List.map (Declaration.under q)) = n.statement σ (scope.under q)) :
    (n.scanned σ scope).relabel (Event.under q) (List.map (Declaration.under q)) =
      n.scanned σ (scope.under q) := by
  rw [scanned, scanned, isolated, isolated, ← h]
  exact relabel_rescue (rejectStatement_under q scope n)

/-- A namespace under a qualifier gives what it gives without, with the qualifier in front of its
name, if its statements do. -/
theorem namespaceStatement_under (hq : q ≠ "") (hs : scope.IsNamed)
    (form : StatementForm.ofType n.type = .namespaceBlock) (hn : n.NamesNamespaces)
    (ih : ∀ m : Node, sizeOf m < sizeOf n → m.NamesNamespaces → ∀ scope : Scope, scope.IsNamed →
      (m.statement σ scope).relabel (Event.under q) (List.map (Declaration.under q)) =
        m.statement σ (scope.under q)) :
    (n.namespaceStatement σ scope).relabel (Event.under q) (List.map (Declaration.under q)) =
      n.namespaceStatement σ (scope.under q) := by
  have inTree := n.mem_preorder_self
  rw [namespaceStatement_eq, namespaceStatement_eq]
  refine relabel_bind_same (relabel_of_onlyFails (reads_reachChild inTree _)) fun _ _ => ?_
  refine relabel_bind_same (relabel_of_onlyFails (reads_reachChild inTree _)) fun _ _ => ?_
  split
  · next head body hname hbody =>
    have headInTree := mem_of_child? inTree hname
    have bodyInTree := mem_of_child? inTree hbody
    split
    · refine relabel_bind_same (relabel_of_onlyFails (reads_read headInTree)) fun _ _ => ?_
      exact relabel_note_bind rfl
    · next kind =>
      refine relabel_bind_same (relabel_of_onlyFails (reads_read headInTree)) fun name hread => ?_
      refine relabel_bind_same (relabel_of_onlyFails (reads_reachNamedParts bodyInTree))
        fun _ _ => ?_
      obtain ⟨i, first⟩ := exists_firstAt hbody
      have inner : n.IsNamespace name i body :=
        ⟨form, ⟨head, hname, kind, text_of_read hread⟩, first⟩
      have named : name ≠ "" := hn n inTree name i body inner
      have scans : (collect (scanned σ (scope.enter name)) body.namedParts).relabel (Event.under q)
          (List.map (Declaration.under q)) =
          collect (scanned σ ((scope.under q).enter name)) body.namedParts := by
        rw [Scope.enter_under hq hs]
        refine relabel_collect fun m hm => scanned_under ?_
        have child := mem_children_of_mem_parts (mem_parts_of_mem_namedParts hm)
        refine ih m ?_ ((hn.child (mem_children_of_child? hbody)).child child) _
          (scope.isNamed_enter named)
        exact Nat.lt_trans (sizeOf_lt_of_mem_children child) (sizeOf_lt_of_child? hbody)
      rw [← scans]
      refine relabel_bind fun ds _ => ?_
      rw [relabel_pure, map_under_namespaceOf, Scope.qualify_under hq hs]
  · rfl

/-- A statement under one more qualifier. -/
theorem statement_under (hq : q ≠ "") (n : Node) (hn : n.NamesNamespaces) (scope : Scope)
    (hs : scope.IsNamed) :
    (n.statement σ scope).relabel (Event.under q) (List.map (Declaration.under q)) =
      n.statement σ (scope.under q) := by
  induction n using sizeInduction generalizing scope with
  | step n ih =>
    have inTree := n.mem_preorder_self
    cases form : StatementForm.ofType n.type with
    | exported =>
      rw [statement_exported form, statement_exported form]
      refine relabel_bind_same (relabel_of_onlyFails (reads_reachChild inTree _)) fun _ _ => ?_
      split
      · next inner found =>
        exact ih inner (sizeOf_lt_of_child? found) (hn.child (mem_children_of_child? found)) scope hs
      · exact relabel_note_bind rfl
    | ambient =>
      rw [statement_ambient form, statement_ambient form]
      refine relabel_bind_same (relabel_of_onlyFails (reads_reachNamedParts inTree)) fun _ _ => ?_
      refine relabel_collect fun m hm => ?_
      have child := mem_children_of_mem_parts (mem_parts_of_mem_namedParts hm)
      exact ih m (sizeOf_lt_of_mem_children child) (hn.child child) scope hs
    | expression =>
      rw [statement_expression form, statement_expression form]
      refine relabel_bind_same (relabel_of_onlyFails (reads_reachFirstNamed inTree)) fun _ _ => ?_
      split
      · next inner found =>
        have child := mem_children_of_firstNamed? found
        split
        · exact ih inner (sizeOf_lt_of_mem_children child) (hn.child child) scope hs
        · exact relabel_note_bind rfl
      · exact relabel_note_bind rfl
    | function | declarators | interfaceBlock | classBlock =>
      obtain ⟨x, plain⟩ := exists_plainStatement σ (n := n) (by rw [form]; decide)
      rw [statement_plain plain, statement_plain plain]
      exact relabel_plain plain
    | namespaceBlock =>
      rw [statement_namespace form, statement_namespace form]
      exact namespaceStatement_under hq hs form hn ih
    | other =>
      rw [statement_other form, statement_other form]
      refine relabel_bind_same (relabel_of_onlyFails (reads_read inTree)) fun _ _ => ?_
      exact relabel_note_bind rfl

end Node

/-- **Nesting.** A list of statements scanned under a qualifier gives, records and notes what it does
without, with the qualifier in front of the names of namespaces and of the places of warnings; it
aborts with the same fault, if it does. -/
theorem scan_under_qualifier (σ : Settings) (path : String) {q : String} (qualified : q ≠ "")
    {ns : List Node}
    (names : ∀ n ∈ ns, ∀ m ∈ n.preorder, ∀ name i body, m.IsNamespace name i body → name ≠ "") :
    (Node.scan σ { path := path, qualifier := some q } ns).result =
        (Node.scan σ { path := path } ns).result.map (List.map (Declaration.under q)) ∧
      (Node.scan σ { path := path, qualifier := some q } ns).rejections =
        (Node.scan σ { path := path } ns).rejections ∧
      (Node.scan σ { path := path, qualifier := some q } ns).log =
        (Node.scan σ { path := path } ns).log.map (Event.under q) := by
  have outermost : Scope.IsNamed { path := path } := nofun
  have scans : (Node.scan σ { path := path } ns).relabel (Event.under q)
      (List.map (Declaration.under q)) = Node.scan σ { path := path, qualifier := some q } ns := by
    rw [Node.scan_eq_collect, Node.scan_eq_collect]
    refine relabel_collect fun n hn => Node.scanned_under ?_
    exact Node.statement_under qualified n (names n hn) _ outermost
  rw [← scans]
  exact ⟨rfl, rfl, rfl⟩

namespace Node

/-- `declare namespace A { declare namespace B { function g(...a: b) } }` and `function g(...a: b)`,
where `b` is no array type. -/
def rejectedAtDepths : List Node :=
  [ambientModule "A" [ambientModule "B" [restOfNoArray]], restOfNoArray]

/-- The same function is rejected two namespaces below the qualifier and right below it. -/
theorem scan_under_qualifier_rejectedAtDepths :
    "Q" ≠ "" ∧
      (∀ n ∈ rejectedAtDepths, ∀ m ∈ n.preorder, ∀ name i body,
        m.IsNamespace name i body → name ≠ "") ∧
      (scan {} { path := "n.d.ts", qualifier := some "Q" } rejectedAtDepths).result =
        (scan {} { path := "n.d.ts" } rejectedAtDepths).result.map
          (List.map (Declaration.under "Q")) ∧
      (scan {} { path := "n.d.ts", qualifier := some "Q" } rejectedAtDepths).rejections =
        (scan {} { path := "n.d.ts" } rejectedAtDepths).rejections ∧
      (scan {} { path := "n.d.ts", qualifier := some "Q" } rejectedAtDepths).log =
        (scan {} { path := "n.d.ts" } rejectedAtDepths).log.map (Event.under "Q") := by
  have qualified : "Q" ≠ "" := by decide
  have texts : ∀ n ∈ rejectedAtDepths, ∀ m ∈ n.preorder,
      (m.child? .name).bind (·.text) ≠ some "" := by
    decide +kernel
  have names : ∀ n ∈ rejectedAtDepths, n.NamesNamespaces :=
    fun n hn => namesNamespaces_of_texts (texts n hn)
  exact ⟨qualified, names, scan_under_qualifier {} "n.d.ts" qualified names⟩

end Node

end KotlinStubs
