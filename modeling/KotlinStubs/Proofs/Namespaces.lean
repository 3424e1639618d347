import Mathlib.Data.List.Induction
import KotlinStubs.Proofs.DocumentOrder
import KotlinStubs.Proofs.Shape

/-!
# Namespaces of a file

A file lists each namespace that its scan gets to once, in the order of the document, under its
qualified name and with the declarations of the statements directly in its body.  What a statement
declares itself does not depend on where it stands (`Node.ownDeclarations`).

The proof goes along the statements: `Node.Flattens` says what a statement reaches and gives, with
one lemma for each form of statement.

* `Scope.qualify_within`: the qualified name of a namespace.
* `Flattened.enter`: what is flattened in a body is flattened around the namespace.
* `Node.exists_flattens`: a statement gives the namespaces that it reaches and its own declarations.
* `translate_namespaces`: so does a file.
-/

namespace KotlinStubs

open Translation

namespace Node

/-- The declarations of a statement itself, without those of the namespaces in it. -/
def ownDeclarations (σ : Settings) (n : Node) : List Declaration :=
  match StatementForm.ofType n.type with
  | .exported =>
    match _h : n.child? .declaration with
    | some inner => inner.ownDeclarations σ
    | none => []
  | .ambient =>
    match _h : n.firstNamed? with
    | some inner => inner.ownDeclarations σ
    | none => []
  | _ =>
    match n.plainStatement? σ with
    | some x => x.given
    | none => []
termination_by sizeOf n
decreasing_by
  · exact sizeOf_lt_of_child? _h
  · exact sizeOf_lt_of_firstNamed? _h

end Node

/-- The declaration of a namespace that is reached: its qualified name, and the declarations of the
statements directly in its body. -/
def Reached.declaration (σ : Settings) (r : Reached) : Declaration where
  kind := .nameSpace
  name := Text.join "." (r.outer ++ [r.name])
  line := r.node.line
  members := r.body.namedParts.flatMap (Node.ownDeclarations σ)

/-! ## Qualified names -/

theorem Scope.within_concat (scope : Scope) (names : List String) (name : String) :
    scope.within (names ++ [name]) = (scope.within names).enter name := by
  rw [Scope.within, List.foldl_append]
  rfl

/-- Inside namespaces with names, a name is qualified by all of them. -/
theorem Scope.qualify_within {path name : String} {outer : List String}
    (named : ∀ a ∈ outer, a ≠ "") :
    (Scope.within { path := path } outer).qualify name = Text.join "." (outer ++ [name]) := by
  induction outer using List.reverseRecOn generalizing name with
  | nil => rfl
  | append_singleton outer a ih =>
    have nonempty : outer ++ [a] ≠ [] :=
      List.append_ne_nil_of_right_ne_nil outer (List.cons_ne_nil a [])
    have inner : (Scope.within { path := path } outer).qualify a = Text.join "." (outer ++ [a]) :=
      ih fun b hb => named b (List.mem_append_left _ hb)
    have qualifier : (Scope.within { path := path } (outer ++ [a])).qualifier =
        some (Text.join "." (outer ++ [a])) := by
      rw [Scope.within_concat, Scope.enter, inner]
    have notEmpty := Text.join_ne_empty "." nonempty named
    rw [Scope.qualify, qualifier]
    dsimp only
    rw [if_neg (by simpa using notEmpty), Text.join_concat _ _ nonempty]

/-- Inside namespaces with names, the qualifier is made of all of them. -/
theorem Scope.qualifier_within {path : String} {names : List String} (named : ∀ a ∈ names, a ≠ "") :
    (Scope.within { path := path } names).qualifier =
      if names = [] then none else some (Text.join "." names) := by
  rcases names.eq_nil_or_concat' with rfl | ⟨outer, a, rfl⟩
  · rfl
  · have inner : ∀ b ∈ outer, b ≠ "" := fun b hb => named b (List.mem_append_left _ hb)
    have nonempty : outer ++ [a] ≠ [] :=
      List.append_ne_nil_of_right_ne_nil outer (List.cons_ne_nil a [])
    rw [if_neg nonempty, Scope.within_concat, Scope.enter, Scope.qualify_within inner]

/-! ## Flattened declarations -/

/-- Among the declarations, the namespaces are those that are reached, inside namespaces with the
names given, and the others are `own`. -/
structure Flattened (σ : Settings) (outer : List String) (ds : List Declaration)
    (rs : List Reached) (own : List Declaration) : Prop where
  namespaces : ds.filter (·.kind == .nameSpace) = rs.map fun r => (r.within outer).declaration σ
  others : ds.filter (·.kind != .nameSpace) = own

namespace Flattened

variable {σ : Settings} {outer : List String} {ds ds' own own' : List Declaration}
  {rs rs' : List Reached}

theorem nil : Flattened σ outer [] [] [] := ⟨rfl, rfl⟩

theorem append (h : Flattened σ outer ds rs own) (h' : Flattened σ outer ds' rs' own') :
    Flattened σ outer (ds ++ ds') (rs ++ rs') (own ++ own') := by
  constructor
  · rw [List.filter_append, h.namespaces, h'.namespaces, List.map_append]
  · rw [List.filter_append, h.others, h'.others]

/-- A namespace is declared without regard to its position. -/
theorem below (h : Flattened σ outer ds rs own) (i : Nat) :
    Flattened σ outer ds (rs.map (Reached.below i)) own := by
  constructor
  · rw [h.namespaces, List.map_map]
    rfl
  · exact h.others

theorem of_no_namespace (h : ∀ d ∈ ds, d.kind ≠ .nameSpace) : Flattened σ outer ds [] ds := by
  constructor
  · refine List.filter_eq_nil_iff.2 fun d hd => ?_
    simpa using h d hd
  · refine List.filter_eq_self.2 fun d hd => ?_
    simpa using h d hd

/-- What is flattened in the body of a namespace is flattened around it: the namespace takes the
declarations that are no namespaces, and the others follow it. -/
theorem enter {name : String} {n body : Node}
    (h : Flattened σ (outer ++ [name]) ds rs (body.namedParts.flatMap (Node.ownDeclarations σ)))
    (i : Nat) :
    Flattened σ outer (Node.namespaceOf (Text.join "." (outer ++ [name])) n.line ds)
      (⟨[], [], name, n, body⟩ :: rs.map fun r => (r.within [name]).below i) [] := by
  have inner : (ds.filter (·.kind == .nameSpace)).filter (·.kind == .nameSpace) =
      (rs.map fun r => (r.within [name]).below i).map fun r => (r.within outer).declaration σ := by
    rw [List.filter_filter, List.map_map]
    simp only [Bool.and_self, h.namespaces]
    refine List.map_congr_left fun r _ => ?_
    simp only [Reached.within, List.append_assoc]
    rfl
  have none : (ds.filter (·.kind == .nameSpace)).filter (·.kind != .nameSpace) = [] := by
    refine List.filter_eq_nil_iff.2 fun d hd => ?_
    obtain ⟨-, kind⟩ := List.mem_filter.1 hd
    simpa using kind
  constructor
  · rw [Node.namespaceOf, List.filter_cons_of_pos rfl, inner, h.others, List.map_cons]
    simp [Reached.within, Reached.declaration]
  · rw [Node.namespaceOf, List.filter_cons_of_neg (by simp), none]

end Flattened

namespace Node

/-! ## Own declarations -/

variable {σ : Settings} {path : String} {n c body : Node} {name : String} {i : Nat}
  {rs : List Reached}

theorem ownDeclarations_exported (form : StatementForm.ofType n.type = .exported) :
    n.ownDeclarations σ =
      match n.child? .declaration with
      | some inner => inner.ownDeclarations σ
      | none => [] := by
  rw [ownDeclarations, form]
  dsimp only
  split <;> rename_i h <;> rw [h]

theorem ownDeclarations_ambient (form : StatementForm.ofType n.type = .ambient) :
    n.ownDeclarations σ =
      match n.firstNamed? with
      | some inner => inner.ownDeclarations σ
      | none => [] := by
  rw [ownDeclarations, form]
  dsimp only
  split <;> rename_i h <;> rw [h]

theorem ownDeclarations_plain {x : Translation (List Declaration)}
    (h : n.plainStatement? σ = some x) : n.ownDeclarations σ = x.given := by
  rw [ownDeclarations, h]
  cases form : StatementForm.ofType n.type <;> simp [plainStatement?, form] at h <;> rfl

theorem ownDeclarations_other
    (form : StatementForm.ofType n.type ∈ [.expression, .namespaceBlock, .other]) :
    n.ownDeclarations σ = [] := by
  simp only [List.mem_cons, List.not_mem_nil, or_false] at form
  rcases form with form | form | form <;> rw [ownDeclarations, plainStatement?, form]

/-! ## Statements -/

/-- What a statement reaches, and what it gives in whatever namespaces with names it stands. -/
structure Flattens (σ : Settings) (path : String) (n : Node) (rs : List Reached) : Prop where
  reached : Enumerates n.StatementReaches rs
  given : ∀ outer : List String, (∀ a ∈ outer, a ≠ "") →
    ¬ (n.statement σ (Scope.within { path := path } outer)).Aborts →
    Flattened σ outer (n.statement σ (Scope.within { path := path } outer)).given rs
      (n.ownDeclarations σ)

/-- The same of the statements in a list that begins at place `k`. -/
structure ChildrenFlatten (σ : Settings) (path : String) (k : Nat) (cs : List Node)
    (rs : List Reached) : Prop where
  reached : Enumerates (ChildReaches k cs) rs
  given : ∀ outer : List String, (∀ a ∈ outer, a ≠ "") →
    (∀ c ∈ cs.filter isNamedPart,
      ¬ (c.statement σ (Scope.within { path := path } outer)).Aborts) →
    Flattened σ outer
      ((cs.filter isNamedPart).flatMap fun c =>
        (c.statement σ (Scope.within { path := path } outer)).given)
      rs ((cs.filter isNamedPart).flatMap (ownDeclarations σ))

/-- A list of statements reaches what each of them does, in their order. -/
theorem exists_childrenFlatten {cs : List Node}
    (each : ∀ c ∈ cs, c.isNamedPart = true → ∃ rs, c.Flattens σ path rs) (k : Nat) :
    ∃ rs, ChildrenFlatten σ path k cs rs := by
  induction cs generalizing k with
  | nil => exact ⟨[], .nil (not_childReaches_nil k), fun _ _ _ => .nil⟩
  | cons c cs ih =>
    obtain ⟨rs', others⟩ := ih (fun d hd => each d (List.mem_cons_of_mem c hd)) (k + 1)
    cases part : c.isNamedPart with
    | true =>
      obtain ⟨rs, first⟩ := each c List.mem_cons_self part
      have reached := enumerates_cons first.reached others.reached part
      refine ⟨rs.map (Reached.below k) ++ rs', reached, ?_⟩
      intro outer named done
      rw [List.filter_cons_of_pos part] at done ⊢
      have doneFirst := done c List.mem_cons_self
      have doneOthers := fun d hd => done d (List.mem_cons_of_mem c hd)
      exact ((first.given outer named doneFirst).below k).append
        (others.given outer named doneOthers)
    | false =>
      refine ⟨rs', enumerates_cons_other others.reached part, ?_⟩
      intro outer named done
      rw [List.filter_cons_of_neg (by rw [part]; exact Bool.false_ne_true)] at done ⊢
      exact others.given outer named done

/-- A statement that reaches nothing and gives nothing. -/
theorem Flattens.nothing (unreached : ∀ r, ¬ n.StatementReaches r)
    (none : ∀ scope, (n.statement σ scope).Gives (· = [])) (own : n.ownDeclarations σ = []) :
    n.Flattens σ path [] := by
  refine ⟨.nil unreached, ?_⟩
  intro outer _ _
  rw [(none _).given_eq_nil, own]
  exact .nil

/-- A statement that wraps one other statement reaches and gives what that does. -/
theorem Flattens.wrapper (wraps : n.Wraps i c) (only : ∀ j d, n.Wraps j d → j = i ∧ d = c)
    (h : c.Flattens σ path rs)
    (same : ∀ scope, ¬ (n.statement σ scope).Aborts → ¬ (c.statement σ scope).Aborts ∧
      (n.statement σ scope).given = (c.statement σ scope).given)
    (own : n.ownDeclarations σ = c.ownDeclarations σ) :
    n.Flattens σ path (rs.map (Reached.below i)) := by
  constructor
  · refine (h.reached.below i).congr fun r => ?_
    rw [statementReaches_iff_wraps wraps.form_ne_namespaceBlock]
    constructor
    · rintro ⟨j, d, r', wraps', reached, rfl⟩
      obtain ⟨rfl, rfl⟩ := only j d wraps'
      exact ⟨r', reached, rfl⟩
    · rintro ⟨r', reached, rfl⟩
      exact ⟨i, c, r', wraps, reached, rfl⟩
  · intro outer named done
    obtain ⟨done, given⟩ := same _ done
    rw [given, own]
    exact (h.given outer named done).below i

/-- An export reaches what its declaration does, and nothing if it has none. -/
theorem flattens_exported (form : StatementForm.ofType n.type = .exported)
    (inner : ∀ i c, n.Wraps i c → ∃ rs, c.Flattens σ path rs) : ∃ rs, n.Flattens σ path rs := by
  cases child : n.child? .declaration with
  | none =>
    refine ⟨[], .nothing (fun r h => ?_) (fun scope => ?_) ?_⟩
    · obtain ⟨i, c, _, wraps, -⟩ := (statementReaches_iff_wraps (by rw [form]; nofun)).1 h
      cases child.symm.trans ((wraps_exported form).1 wraps).child?
    · rw [statement_exported form, child]
      exact gives_bind fun _ => gives_bind fun _ => gives_pure rfl
    · rw [ownDeclarations_exported form, child]
  | some c =>
    obtain ⟨i, first⟩ := exists_firstAt child
    obtain ⟨rs, hc⟩ := inner i c (.exported form first)
    refine ⟨_, hc.wrapper (.exported form first) (fun j d wraps => ?_) (fun scope done => ?_) ?_⟩
    · exact first.unique ((wraps_exported form).1 wraps)
    · rw [statement_exported form, child] at done ⊢
      obtain ⟨_, reached, done⟩ := (decisive_reach? _).ok_of_bind done
      exact ⟨done, given_bind reached⟩
    · rw [ownDeclarations_exported form, child]

/-- An expression reaches what it does if it is a namespace, and nothing otherwise. -/
theorem flattens_expression (form : StatementForm.ofType n.type = .expression)
    (inner : ∀ i c, n.Wraps i c → ∃ rs, c.Flattens σ path rs) : ∃ rs, n.Flattens σ path rs := by
  have own : n.ownDeclarations σ = [] := ownDeclarations_other (by rw [form]; decide)
  by_cases wraps : ∃ i c, n.Wraps i c
  · obtain ⟨i, c, wraps⟩ := wraps
    obtain ⟨first, type⟩ := (wraps_expression form).1 wraps
    obtain ⟨rs, hc⟩ := inner i c wraps
    refine ⟨_, hc.wrapper wraps (fun j d wraps' => ?_) (fun scope done => ?_) ?_⟩
    · exact first.unique ((wraps_expression form).1 wraps').1
    · rw [statement_expression form, first.firstNamed?] at done ⊢
      simp only [if_pos type] at done ⊢
      obtain ⟨_, reached, done⟩ := (decisive_reach? _).ok_of_bind done
      exact ⟨done, given_bind reached⟩
    · rw [own, ownDeclarations_other (by rw [type]; decide)]
  · refine ⟨[], .nothing (fun r h => ?_) (fun scope => ?_) own⟩
    · obtain ⟨i, c, _, wraps', -⟩ := (statementReaches_iff_wraps (by rw [form]; nofun)).1 h
      exact wraps ⟨i, c, wraps'⟩
    · rw [statement_expression form]
      refine gives_bind fun _ => ?_
      split
      · next c hc =>
        split
        · next type =>
          rw [firstNamed?_eq] at hc
          obtain ⟨i, first⟩ := exists_firstAt hc
          exact absurd ⟨i, c, .expression form first type⟩ wraps
        · exact gives_bind fun _ => gives_pure rfl
      · exact gives_bind fun _ => gives_pure rfl

/-- An ambient declaration of at most one part reaches what this part does. -/
theorem flattens_ambient (form : StatementForm.ofType n.type = .ambient)
    (single : n.namedParts.length ≤ 1)
    (inner : ∀ i c, n.Wraps i c → ∃ rs, c.Flattens σ path rs) : ∃ rs, n.Flattens σ path rs := by
  have each : ∀ c ∈ n.children, c.isNamedPart = true → ∃ rs, c.Flattens σ path rs := by
    intro c hc part
    obtain ⟨i, at_i⟩ := List.mem_iff_getElem?.1 hc
    exact inner i c (.ambient form at_i part)
  obtain ⟨rs, h⟩ := exists_childrenFlatten each 0
  refine ⟨rs, h.reached.congr fun r => ?_, ?_⟩
  · rw [statementReaches_iff_wraps (by rw [form]; nofun)]
    constructor
    · rintro ⟨i, c, r', wraps, reached, rfl⟩
      obtain ⟨at_i, part⟩ := (wraps_ambient form).1 wraps
      exact ⟨i, c, r', at_i, part, reached, by rw [Nat.zero_add]⟩
    · rintro ⟨i, c, r', at_i, part, reached, rfl⟩
      exact ⟨i, c, r', .ambient form at_i part, reached, by rw [Nat.zero_add]⟩
  · intro outer named done
    have parts := h.given outer named
    rw [← namedParts_eq] at parts
    rw [statement_ambient form] at done ⊢
    obtain ⟨_, reached, done⟩ := (decisive_reachAll _).ok_of_bind done
    rw [given_bind reached, ownDeclarations_ambient form, firstNamed?]
    rcases hparts : n.namedParts with _ | ⟨c, _ | ⟨d, ds⟩⟩
    · rw [hparts] at parts
      exact parts fun d hd => absurd hd List.not_mem_nil
    · rw [hparts] at parts done
      rw [collect_singleton] at done ⊢
      simpa using parts fun d hd => by rw [List.mem_singleton.1 hd]; exact done
    · rw [hparts] at single
      exact absurd single (by simp)

/-- A namespace reaches itself and then what its body does; its own statements become its members.
-/
theorem flattens_namespace (form : StatementForm.ofType n.type = .namespaceBlock)
    (names : ∀ name i body, n.IsNamespace name i body → name ≠ "")
    (inner : ∀ name i body, n.IsNamespace name i body →
      ∀ c ∈ body.children, c.isNamedPart = true → ∃ rs, c.Flattens σ path rs) :
    ∃ rs, n.Flattens σ path rs := by
  have own : n.ownDeclarations σ = [] := ownDeclarations_other (by rw [form]; decide)
  by_cases open? : ∃ name i body, n.IsNamespace name i body
  · obtain ⟨name, i, body, h⟩ := open?
    obtain ⟨rs, hbody⟩ := exists_childrenFlatten (inner name i body h) 0
    have reached := (hbody.reached.congr (reaches_iff body)).enter name n body i
    refine ⟨_, reached.congr fun r => h.statementReaches_iff, ?_⟩
    intro outer named done
    have inside : ∀ a ∈ outer ++ [name], a ≠ "" := by
      intro a ha
      rcases List.mem_append.1 ha with ha | ha
      · exact named a ha
      · rw [List.mem_singleton.1 ha]
        exact names name i body h
    rw [h.statement_eq, ← Scope.within_concat] at done ⊢
    obtain ⟨_, reachedName, done⟩ := (decisive_reach? _).ok_of_bind done
    obtain ⟨_, reachedBody, done⟩ := (decisive_reach _).ok_of_bind done
    obtain ⟨_, reachedParts, done⟩ := (decisive_reachAll _).ok_of_bind done
    obtain ⟨each, result⟩ := result_collect_scanned fun aborts => done aborts.bind
    rw [given_bind reachedName, given_bind reachedBody, given_bind reachedParts,
      given_bind result, own, Scope.qualify_within named]
    rw [namedParts_eq] at each ⊢
    refine .enter ?_ i
    rw [namedParts_eq]
    exact hbody.given (outer ++ [name]) inside each
  · refine ⟨[], .nothing (fun r h => ?_) (fun scope => ?_) own⟩
    · rcases (statementReaches_iff n r).1 h with ⟨name, i, body, h, -⟩ | ⟨i, c, _, wraps, -⟩
      · exact open? ⟨name, i, body, h⟩
      · exact wraps.form_ne_namespaceBlock form
    · exact gives_nil_of_not_isNamespace form fun name i body h => open? ⟨name, i, body, h⟩

/-- A function, variable declaration, interface or class reaches no namespace. -/
theorem flattens_plain {x : Translation (List Declaration)} (h : n.plainStatement? σ = some x) :
    n.Flattens σ path [] := by
  have unreached : ∀ r, ¬ n.StatementReaches r := by
    rintro r ⟨_, _, _, _, _, way, inner, -⟩
    have leads := way.form inner
    unfold plainStatement? at h
    cases form : StatementForm.ofType n.type <;> rw [form] at h leads <;>
      first | exact absurd leads (by decide) | cases h
  refine ⟨.nil unreached, ?_⟩
  intro outer _ _
  rw [statement_plain h, ownDeclarations_plain h]
  refine .of_no_namespace fun d hd => ?_
  cases result : x.result with
  | ok ds =>
    rw [given_ok result] at hd
    exact (plainStatement_gives h ds result d hd).not_nameSpace
  | error e =>
    rw [given_error result] at hd
    cases hd

/-- **Flattening.** What a statement gives are the namespaces that it reaches, in the order of the
document, and its own declarations. -/
theorem exists_flattens
    (single : ∀ m ∈ n.preorder, m.type = "ambient_declaration" → m.namedParts.length ≤ 1)
    (names : ∀ r, n.StatementReaches r → r.name ≠ "") : ∃ rs, n.Flattens σ path rs := by
  induction n using sizeInduction with
  | step n ih =>
    have wrapped : ∀ i c, n.Wraps i c → ∃ rs, c.Flattens σ path rs := by
      intro i c wraps
      have child : c ∈ n.children := List.mem_of_getElem? wraps.getElem?
      refine ih c (sizeOf_lt_of_mem_children child) (fun m hm => ?_) fun r reached => ?_
      · exact single m (mem_preorder_of_child child hm)
      · exact names (r.below i) ((statementReaches_iff n _).2 (.inr ⟨i, c, r, wraps, reached, rfl⟩))
    cases form : StatementForm.ofType n.type with
    | exported => exact flattens_exported form wrapped
    | ambient =>
      refine flattens_ambient form (single n n.mem_preorder_self ?_) wrapped
      exact StatementForm.ofType_eq_ambient.1 form
    | expression => exact flattens_expression form wrapped
    | function | declarators | interfaceBlock | classBlock =>
      obtain ⟨x, plain⟩ := exists_plainStatement σ (n := n) (by rw [form]; decide)
      exact ⟨[], flattens_plain plain⟩
    | namespaceBlock =>
      refine flattens_namespace form (fun name i body h => ?_) fun name i body h c hc part => ?_
      · exact names _ (h.statementReaches_iff.2 (.inl rfl))
      · have child : body ∈ n.children := List.mem_of_getElem? h.body.2
        refine ih c ?_ (fun m hm => ?_) fun r reached => ?_
        · exact Nat.lt_trans (sizeOf_lt_of_mem_children hc) (sizeOf_lt_of_mem_children child)
        · exact single m (mem_preorder_of_child child (mem_preorder_of_child hc hm))
        · obtain ⟨j, at_j⟩ := List.mem_iff_getElem?.1 hc
          have inBody : body.Reaches (r.below j) :=
            (reaches_iff body _).2 ⟨j, c, r, at_j, part, reached, by rw [Nat.zero_add]⟩
          exact names (((r.below j).within [name]).below i)
            (h.statementReaches_iff.2 (.inr ⟨_, inBody, rfl⟩))
    | other =>
      refine ⟨[], .nothing ?_ (fun scope => ?_) ?_⟩
      · rintro r ⟨_, _, _, _, _, way, inner, -⟩
        exact absurd (way.form inner) (by rw [form]; decide)
      · rw [statement_other form]
        exact gives_bind fun _ => gives_bind fun _ => gives_pure rfl
      · exact ownDeclarations_other (by rw [form]; decide)

end Node

/-! ## Files -/

/-- A translated file lists the namespaces that the scan reaches, each once, in the order of the
document, with its qualified name and the declarations of the statements in its body; what else the
file lists are the declarations of its own statements. -/
theorem translate_namespaces {σ : Settings} {path : String} {root : Node} {file : TranslatedFile}
    (done : translate σ path root = .ok file)
    (single : ∀ n ∈ root.preorder, n.type = "ambient_declaration" → n.namedParts.length ≤ 1)
    (names : ∀ r, root.Reaches r → r.name ≠ "") :
    ∃ rs : List Reached,
      (∀ r, r ∈ rs ↔ root.Reaches r) ∧
      (∀ r ∈ rs, root.at? r.position = some r.node) ∧
      rs.Pairwise (fun r r' => r.position < r'.position) ∧
      file.declarations.filter (·.kind == .nameSpace) = rs.map (Reached.declaration σ) ∧
      file.declarations.filter (·.kind != .nameSpace) =
        root.namedParts.flatMap (Node.ownDeclarations σ) := by
  have each : ∀ c ∈ root.children, c.isNamedPart = true → ∃ rs, c.Flattens σ path rs := by
    intro c hc part
    refine Node.exists_flattens (fun m hm => ?_) fun r reached => ?_
    · exact single m (Node.mem_preorder_of_child hc hm)
    · obtain ⟨j, at_j⟩ := List.mem_iff_getElem?.1 hc
      have inRoot : root.Reaches (r.below j) :=
        (Node.reaches_iff root _).2 ⟨j, c, r, at_j, part, reached, by rw [Nat.zero_add]⟩
      exact names (r.below j) inRoot
  obtain ⟨rs, h⟩ := Node.exists_childrenFlatten each 0
  obtain ⟨scan, -, -⟩ := translate_eq_ok.1 done
  rw [Node.scanFile_eq] at scan
  obtain ⟨_, _, scan⟩ := result_bind_eq_ok.1 scan
  obtain ⟨_, _, scan⟩ := result_bind_eq_ok.1 scan
  obtain ⟨each, result⟩ := Node.result_collect_scanned (not_aborts_of_ok scan)
  have listed := Except.ok.inj (result.symm.trans scan)
  rw [Node.namedParts_eq] at each listed ⊢
  have flattened := h.given [] (fun a ha => absurd ha List.not_mem_nil) each
  rw [show Scope.within { path := path } [] = { path := path } from rfl, listed] at flattened
  have reached := h.reached.congr (Node.reaches_iff root)
  refine ⟨rs, reached.mem_iff, fun r hr => ?_, reached.sorted, flattened.namespaces,
    flattened.others⟩
  exact ((reached.mem_iff r).1 hr).at?

namespace Node

/-- `declare namespace A { declare namespace B { function f(); } }` and `function g();` -/
def nestedModules : Node :=
  branch "program" "declare namespace A" [] [
    ambientModule "A" [
      ambientModule "B" [
        branch "function_signature" "function f()" [] [leaf "identifier" "f" [.name]]]],
    branch "function_signature" "function g()" [] [leaf "identifier" "g" [.name]]]

theorem exists_translate_nestedModules :
    ∃ file, translate {} "n.d.ts" nestedModules = .ok file := by
  have scan : ∃ ds, (nestedModules.scanFile {} "n.d.ts").result = .ok ds := by
    rw [scanFile_eq, show nestedModules.namedParts = [ambientModule "A" _, _] from rfl,
      collect_cons, collect_singleton, scanned, isolated,
      statement_ambientModule "A" (by decide) (by decide), collect_singleton, scanned, isolated,
      statement_ambientModule "B" (by decide) (by decide), collect_singleton, scanned, isolated,
      statement_plain rfl, scanned, isolated, statement_plain rfl]
    exact ⟨_, rfl⟩
  obtain ⟨ds, hds⟩ := scan
  exact ⟨⟨"n.d.ts", ds, _⟩, translate_eq_ok.2 ⟨hds, rfl, rfl⟩⟩

/-- `A` and `B` in it are listed one after the other, and the function behind them is in neither. -/
theorem translate_namespaces_nestedModules : ∃ file,
    translate {} "n.d.ts" nestedModules = .ok file ∧
      (∀ n ∈ nestedModules.preorder, n.type = "ambient_declaration" → n.namedParts.length ≤ 1) ∧
      (∀ r, nestedModules.Reaches r → r.name ≠ "") ∧
      ∃ rs : List Reached,
        (∀ r, r ∈ rs ↔ nestedModules.Reaches r) ∧
        (∀ r ∈ rs, nestedModules.at? r.position = some r.node) ∧
        rs.Pairwise (fun r r' => r.position < r'.position) ∧
        file.declarations.filter (·.kind == .nameSpace) = rs.map (Reached.declaration {}) ∧
        file.declarations.filter (·.kind != .nameSpace) =
          nestedModules.namedParts.flatMap (ownDeclarations {}) := by
  obtain ⟨file, done⟩ := exists_translate_nestedModules
  have single : ∀ n ∈ nestedModules.preorder,
      n.type = "ambient_declaration" → n.namedParts.length ≤ 1 := by
    decide +kernel
  have texts : ∀ n ∈ nestedModules.preorder, (n.child? .name).bind (·.text) ≠ some "" := by
    decide +kernel
  have names : ∀ r, nestedModules.Reaches r → r.name ≠ "" := by
    intro r reached empty
    obtain ⟨inTree, i, inner⟩ := reached.node_mem
    obtain ⟨head, named, -, text⟩ := inner.named
    refine texts r.node inTree ?_
    rw [named, Option.bind_some, text, empty]
  exact ⟨file, done, single, names, translate_namespaces done single names⟩

end Node

end KotlinStubs
