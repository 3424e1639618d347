import KotlinStubs.Proofs.LeftOut
import KotlinStubs.Proofs.Traces

/-!
# Wrapped declarations

A declaration can stand in exports and ambient declarations, in any number and order.  The way from
the outermost of them to the declaration is gone twice: by the translation of the statement, and
again by the search for a name when the statement is left out.  Both lead to the same declaration,
so a wrapped declaration is translated as the bare one, and left out under the same name.

* `Node.Tower`: the wrappers over a declaration.
* `Node.Tower.statement_eq`: the way of the translation.
* `Node.Tower.declaredName?_eq`: the way of the search for a name.
* `Node.named_of_line`: only a declaration with a name is left out.
* `scan_tower`: the scan of a wrapped declaration.
-/

namespace KotlinStubs

open Translation

namespace Node

/-! ## Towers -/

/-- The types of the statements that declare something themselves. -/
def declarationTypes : List String :=
  ["function_signature", "function_declaration", "lexical_declaration", "variable_declaration",
    "interface_declaration", "class_declaration", "abstract_class_declaration", "internal_module",
    "module"]

/-- The wrappers over a declaration, down to the declaration itself.  A namespace may stand in an
expression statement, below all other wrappers.  No wrapper has a name. -/
inductive Tower (d : Node) : Node → Prop
  | bare : Tower d d
  | expression {w} :
      w.type = "expression_statement" →
      w.child? .name = none →
      w.firstNamed? = some d →
      d.type = "internal_module" →
      Tower d w
  | exported {w inner} :
      w.type = "export_statement" →
      w.child? .name = none →
      w.child? .declaration = some inner →
      Tower d inner →
      Tower d w
  | ambient {w inner} :
      w.type = "ambient_declaration" →
      w.child? .name = none →
      w.namedParts = [inner] →
      (∀ c ∈ w.children, .declaration ∈ c.fields → c = inner) →
      Tower d inner →
      Tower d w

variable {σ : Settings} {scope : Scope} {n d w : Node}

theorem isLegible_of_type (h : n.type ≠ predefinedType) : n.isLegible = true := by
  unfold isLegible
  rw [bne_iff_ne.2 h, Bool.true_or]

/-- In a wrapper without a name, the name is looked for below. -/
theorem declaredName?_of_wrapper (wraps : (StatementForm.ofType n.type).isWrapper = true)
    (nameless : n.child? .name = none) :
    n.declaredName? = (do
      reach? (n.child? .declaration)
      match n.child? .declaration with
      | some inner => inner.declaredName?
      | none => do
        reach? n.firstNamed?
        match n.firstNamed? with
        | some inner => inner.declaredName?
        | none => pure none) := by
  rw [declaredName?_eq, nameless, show reach? none = pure () from rfl, pure_bind]
  exact if_pos wraps

section

variable (declares : d.type ∈ declarationTypes)
include declares

/-- The kind of each node in a tower is known without its text. -/
theorem Tower.isLegible (h : Tower d w) : w.isLegible = true := by
  apply isLegible_of_type
  cases h with
  | bare =>
    intro predefined
    rw [predefined] at declares
    revert declares
    decide
  | expression type | exported type | ambient type =>
    rw [type]
    decide

/-- The translation of a tower is that of the declaration. -/
theorem Tower.statement_eq (h : Tower d w) : w.statement σ scope = d.statement σ scope := by
  induction h with
  | bare => rfl
  | expression type _ found inner =>
    have reached : reach? (some d) = pure () := reach_of_isLegible (Tower.bare.isLegible declares)
    rw [statement_expression (by rw [type]; rfl), found, reached, pure_bind]
    dsimp only
    rw [if_pos inner]
  | exported type _ found below ih =>
    have reached : reach? (some _) = pure () := reach_of_isLegible (below.isLegible declares)
    rw [statement_exported (by rw [type]; rfl), found, reached, pure_bind]
    exact ih
  | @ambient w inner type _ parts _ below ih =>
    have reached : reachAll [inner] = pure () := by
      refine reachAll_of_isLegible fun m hm => ?_
      rw [List.mem_singleton.1 hm]
      exact below.isLegible declares
    rw [statement_ambient (by rw [type]; rfl), parts, reached, pure_bind, collect_singleton]
    exact ih

/-- The search for a name leads through a tower to the declaration. -/
theorem Tower.declaredName?_eq (other : d.type ≠ "internal_module") (h : Tower d w) :
    w.declaredName? = d.declaredName? := by
  induction h with
  | bare => rfl
  | expression _ _ _ inner => exact absurd inner other
  | @exported w inner type nameless found below ih =>
    have wraps : (StatementForm.ofType w.type).isWrapper = true := by rw [type]; rfl
    have reached : reach? (some inner) = pure () := reach_of_isLegible (below.isLegible declares)
    rw [declaredName?_of_wrapper wraps nameless, found, reached, pure_bind]
    exact ih
  | @ambient w inner type nameless parts only below ih =>
    have wraps : (StatementForm.ofType w.type).isWrapper = true := by rw [type]; rfl
    have reached : reach? (some inner) = pure () := reach_of_isLegible (below.isLegible declares)
    have first : w.firstNamed? = some inner := by rw [firstNamed?, parts, List.head?_cons]
    rw [declaredName?_of_wrapper wraps nameless]
    cases found : w.child? .declaration with
    | none =>
      rw [show reach? none = pure () from rfl, pure_bind]
      dsimp only
      rw [first, reached, pure_bind]
      exact ih
    | some c =>
      -- the search prefers a child with the role, which is no other than the part itself
      have role : .declaration ∈ c.fields := by simpa using List.find?_some found
      rw [only c (mem_children_of_child? found) role, reached, pure_bind]
      exact ih

end

/-! ## Declarations that are left out -/

/-- No declarator costs a single statement. -/
theorem decisive_variablesStatement (n : Node) : (n.variablesStatement σ).Decisive := by
  rw [variablesStatement_eq]
  refine (decisive_reachAll _).bind fun _ _ => Decisive.collect (fun entry => ?_) _
  have inTree := entry.mem_preorder_self
  unfold declarator
  split
  · refine (decisive_reach? _).bind fun _ _ => ?_
    split
    · exact decisive_pure []
    · next name found =>
      refine (decisive_of_reads (reads_kotlinName (mem_of_child? inTree found))).bind fun _ _ => ?_
      exact (decisive_of_reads (reads_typeUse inTree)).bind fun _ _ => decisive_pure _
  · exact decisive_fail rfl

/-- A namespace goes on after the statements that are left out in it. -/
theorem decisive_namespaceStatement (n : Node) : (n.namespaceStatement σ scope).Decisive := by
  rw [namespaceStatement_eq]
  refine (decisive_reach? _).bind fun _ _ => (decisive_reach? _).bind fun _ _ => ?_
  split
  · split
    · exact (decisive_read _).bind fun _ _ => (decisive_note _).bind fun _ _ => decisive_pure []
    · refine (decisive_read _).bind fun _ _ => (decisive_reachAll _).bind fun _ _ => ?_
      exact (Decisive.collect decisive_scanned _).bind fun _ _ => decisive_pure _
  · exact decisive_pure []

theorem form_of_declarationTypes (h : d.type ∈ declarationTypes) :
    StatementForm.ofType d.type ∈
      [.function, .declarators, .interfaceBlock, .classBlock, .namespaceBlock] := by
  simp only [declarationTypes, List.mem_cons, List.not_mem_nil, or_false] at h
  rcases h with h | h | h | h | h | h | h | h | h <;> rw [h] <;> decide

/-- A declaration that a fault costs alone is a function, an interface or a class with a name. -/
theorem named_of_line {e : Fault} {line : Nat} (declares : d.type ∈ declarationTypes)
    (failed : (d.statement σ scope).result = .error e) (recoverable : e.line? = some line) :
    StatementForm.ofType d.type ∈ [.function, .interfaceBlock, .classBlock] ∧
      ∃ name, d.child? .name = some name := by
  have costly : ¬ (d.statement σ scope).Decisive := by
    intro decisive
    cases recoverable.symm.trans (decisive.line?_eq_none failed)
  have form : StatementForm.ofType d.type ∈ [.function, .interfaceBlock, .classBlock] := by
    have forms := form_of_declarationTypes declares
    simp only [List.mem_cons, List.not_mem_nil, or_false] at forms
    rcases forms with form | form | form | form | form
    · rw [form]
      decide
    · rw [statement, form] at costly
      exact absurd (decisive_variablesStatement d) costly
    · rw [form]
      decide
    · rw [form]
      decide
    · rw [statement, form] at costly
      exact absurd (decisive_namespaceStatement d) costly
  refine ⟨form, ?_⟩
  cases named : d.child? .name with
  | some name => exact ⟨name, rfl⟩
  | none =>
    have blank : d.IsBlank := .nameless form named
    have nothing := blank.statement_eq fun aborts => costly (Or.inr aborts)
    rw [nothing] at failed
    cases failed

/-- The name under which a declaration is left out could be read. -/
theorem text_of_rejectStatement {name : Node} {e : Fault} {line : Nat} {ds : List Declaration}
    (named : d.child? .name = some name)
    (done : (d.rejectStatement scope e line).result = .ok ds) : ∃ text, name.text = some text := by
  unfold rejectStatement at done
  obtain ⟨name?, hname, done⟩ := result_bind_eq_ok.1 done
  obtain ⟨_, _, done⟩ := result_bind_eq_ok.1 done
  obtain ⟨text?, htext, _⟩ := result_bind_eq_ok.1 done
  rw [declaredName?_eq, named] at hname
  obtain ⟨_, _, hname⟩ := result_bind_eq_ok.1 hname
  cases hname
  obtain ⟨text, read, rfl⟩ := result_map_eq_ok.1 htext
  exact ⟨text, text_of_read read⟩

end Node

/-- **Wrappers.** A declaration in a tower of wrappers is scanned as the bare one is: with the same
declarations, or the same fault, and the same rejections inside.  If it is left out itself, both
scans have one more entry; these differ in the type of the node only, and the name in them is the
text of the name of the declaration. -/
theorem scan_tower {σ : Settings} {scope : Scope} {d w : Node}
    (declares : d.type ∈ Node.declarationTypes) (tower : Node.Tower d w) :
    (Node.scan σ scope [w]).result = (Node.scan σ scope [d]).result ∧
    ((Node.scan σ scope [w]).rejections = (d.statement σ scope).rejections ∧
      (Node.scan σ scope [d]).rejections = (d.statement σ scope).rejections ∨
    ∃ name text line error, d.child? .name = some name ∧ name.text = some text ∧
      (Node.scan σ scope [w]).rejections = (d.statement σ scope).rejections ++
        [{ name := some text, nodeType := w.type, line := line, error := error }] ∧
      (Node.scan σ scope [d]).rejections = (d.statement σ scope).rejections ++
        [{ name := some text, nodeType := d.type, line := line, error := error }]) := by
  have same : w.statement σ scope = d.statement σ scope := tower.statement_eq declares
  rw [Node.scan_singleton, Node.scan_singleton, Node.scanned, Node.scanned, Node.isolated,
    Node.isolated, same]
  rcases (d.statement σ scope).ok_or_aborts_or_line with ⟨ds, hds⟩ | aborts | ⟨e, line, he, hl⟩
  · rw [rescue_ok hds, rescue_ok hds]
    exact ⟨rfl, Or.inl ⟨rfl, rfl⟩⟩
  · rw [rescue_aborts aborts, rescue_aborts aborts]
    exact ⟨rfl, Or.inl ⟨rfl, rfl⟩⟩
  · rw [rescue_line he hl, rescue_line he hl]
    obtain ⟨form, name, named⟩ := Node.named_of_line declares he hl
    have other : d.type ≠ "internal_module" := by
      intro type
      rw [type] at form
      revert form
      decide
    have names : w.declaredName? = d.declaredName? := tower.declaredName?_eq declares other
    have results : (w.rejectStatement scope e line).result =
        (d.rejectStatement scope e line).result := by
      rw [Node.result_rejectStatement, Node.result_rejectStatement, names]
    refine ⟨results, ?_⟩
    cases done : (d.rejectStatement scope e line).result with
    | error e' =>
      -- the name cannot be read, which aborts both scans
      have nothing := Node.rejections_rejectStatement_of_error done
      have nothing' := Node.rejections_rejectStatement_of_error (results.trans done)
      left
      simp only [after, nothing, nothing', List.append_nil, and_self]
    | ok ds =>
      obtain ⟨text, written⟩ := Node.text_of_rejectStatement named done
      have recorded := (Node.rejectStatement_eq_ok done).2
      have recorded' := (Node.rejectStatement_eq_ok (results.trans done)).2
      have declared : d.declaredText? = some text := Node.declaredText?_of_child? named written
      have declared' : w.declaredText? = some text := by
        rw [← declared, Node.declaredText?, names, Node.declaredText?]
      right
      refine ⟨name, text, line, e.message, named, written, ?_, ?_⟩
      · simp only [after, recorded', Node.rejection, declared']
      · simp only [after, recorded, Node.rejection, declared]

namespace Node

/-- `export declare function g(...a: b)`, where `b` is no array type -/
def exportOfRest : Node :=
  branch "export_statement" "export declare function g(...a: b)" [] [
    token "export",
    branch "ambient_declaration" "declare function g(...a: b)" [.declaration] [
      token "declare",
      restOfNoArray]]

theorem tower_exportOfRest : Tower restOfNoArray exportOfRest := by
  refine .exported rfl rfl rfl (.ambient rfl rfl rfl ?_ .bare)
  intro c hc role
  have children : c ∈ [token "declare", restOfNoArray] := hc
  simp only [List.mem_cons, List.not_mem_nil, or_false] at children
  rcases children with rfl | rfl
  · cases role
  · rfl

/-- The entry is that of the bare function but for the type of the outermost wrapper. -/
theorem scan_tower_exportOfRest :
    (scan {} { path := "e.d.ts" } [exportOfRest]).result = .ok [] ∧
    (scan {} { path := "e.d.ts" } [exportOfRest]).rejections = [{
      name := some "g"
      nodeType := "export_statement"
      line := 1
      error := "rest parameter must be an array type" }] := by
  have bare : scan {} { path := "e.d.ts" } [restOfNoArray] = _ :=
    scan_singleton.trans (scanned_restOfNoArray _)
  obtain ⟨result, none | ⟨node, text, line, error, named, read, own, bareOwn⟩⟩ :=
    @scan_tower {} { path := "e.d.ts" } _ _ (by decide) tower_exportOfRest
  · rw [bare, statement_restOfNoArray] at none
    cases none.2
  · rw [bare, statement_restOfNoArray] at bareOwn
    rw [bare] at result
    refine ⟨result, ?_⟩
    cases named
    cases read
    have entry := List.singleton_inj.1 bareOwn
    rw [rejection, Rejection.mk.injEq] at entry
    obtain ⟨-, -, rfl, rfl⟩ := entry
    rw [statement_restOfNoArray] at own
    exact own

end Node

end KotlinStubs
