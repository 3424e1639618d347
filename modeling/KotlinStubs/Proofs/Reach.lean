import KotlinStubs.Syntax.Rows
import KotlinStubs.Proofs.StatementForms

/-!
# What a scan gets to

A scan goes from statement to statement: through exports, ambient declarations and expression
statements to namespaces, and in them through the statements of their bodies.  `LeadsTo` is the way
from a statement to a namespace, `Scans` the way from a body (or a file) to the bodies of the
namespaces in it.  Nodes are known by their positions, the places of children on the way from the
root down, so equal subtrees at different positions are different nodes; the order of positions is
the order of the document.

A fault in one part of an ambient declaration keeps the scan from the parts after it, so both
relations say what must hold of the earlier parts (`passes`).

* `FirstAt.child?`, `FirstAt.firstNamed?`: what an accessor selects, by its place.
* `IsNamespace.statement_eq`: the translation of a namespace that is scanned.
* `statement_ambientModule`: that of an ambient namespace, given its statements.
-/

namespace KotlinStubs

open Translation

namespace Node

/-! ## Named parts -/

/-- Whether a node is a named part of the node that it is a child of. -/
def isNamedPart (n : Node) : Bool := !n.isComment && n.named

theorem namedParts_eq (n : Node) : n.namedParts = n.children.filter isNamedPart := by
  unfold namedParts parts
  rw [List.filter_filter]
  apply List.filter_congr
  intro c _
  rw [isNamedPart, Bool.and_comm]

theorem mem_namedParts_iff {n c : Node} :
    c ∈ n.namedParts ↔ ∃ i : Nat, n.children[i]? = some c ∧ c.isNamedPart = true := by
  rw [namedParts_eq, List.mem_filter, List.mem_iff_getElem?, exists_and_right]

theorem firstNamed?_eq (n : Node) : n.firstNamed? = n.children.find? isNamedPart := by
  rw [firstNamed?, namedParts_eq, List.head?_filter]

/-! ## Places -/

/-- The node at a position, the places of the children on the way to it. -/
def at? (n : Node) : List Nat → Option Node
  | [] => some n
  | i :: p => n.children[i]?.bind fun c => c.at? p

theorem at?_cons {n c : Node} {i : Nat} (h : n.children[i]? = some c) (p : List Nat) :
    n.at? (i :: p) = c.at? p := by
  rw [at?, h, Option.bind_some]

theorem at?_append (n : Node) (p q : List Nat) :
    n.at? (p ++ q) = (n.at? p).bind fun c => c.at? q := by
  induction p generalizing n with
  | nil => rfl
  | cons i p ih =>
    rw [List.cons_append, at?, at?]
    cases n.children[i]? with
    | none => rfl
    | some c => exact ih c

theorem mem_preorder_of_at? {n m : Node} {p : List Nat} (h : n.at? p = some m) :
    m ∈ n.preorder := by
  induction p generalizing n with
  | nil =>
    cases h
    exact m.mem_preorder_self
  | cons i p ih =>
    obtain ⟨c, at_i, below⟩ := Option.bind_eq_some_iff.1 h
    exact mem_preorder_of_child (List.mem_of_getElem? at_i) (ih below)

/-- The first child that satisfies `P` is `c` and stands at place `i`. -/
def FirstAt (n : Node) (P : Node → Bool) (i : Nat) (c : Node) : Prop :=
  n.children.findIdx? P = some i ∧ n.children[i]? = some c

/-- Whether a child has a role. -/
def hasRole (f : Field) (n : Node) : Bool := n.fields.contains f

section

variable {n c : Node} {i : Nat}

theorem FirstAt.find? {P : Node → Bool} (h : n.FirstAt P i c) : n.children.find? P = some c := by
  rw [List.find?_eq_bind_findIdx?_getElem?, h.1]
  exact h.2

theorem FirstAt.child? {f : Field} (h : n.FirstAt (hasRole f) i c) : n.child? f = some c :=
  h.find?

theorem FirstAt.firstNamed? (h : n.FirstAt isNamedPart i c) : n.firstNamed? = some c := by
  rw [firstNamed?_eq]
  exact h.find?

/-- What is found among the children has a place. -/
theorem exists_firstAt {P : Node → Bool} (h : n.children.find? P = some c) :
    ∃ i, n.FirstAt P i c := by
  rw [List.find?_eq_bind_findIdx?_getElem?] at h
  obtain ⟨i, hi, hc⟩ := Option.bind_eq_some_iff.1 h
  exact ⟨i, hi, hc⟩

theorem FirstAt.unique {P : Node → Bool} {j : Nat} {d : Node} (h : n.FirstAt P i c)
    (h' : n.FirstAt P j d) : j = i ∧ d = c := by
  obtain rfl := Option.some.inj (h'.1.symm.trans h.1)
  exact ⟨rfl, Option.some.inj (h'.2.symm.trans h.2)⟩

theorem children_eq_of_getElem? (h : n.children[i]? = some c) :
    n.children = n.children.take i ++ c :: n.children.drop (i + 1) := by
  obtain ⟨lt, rfl⟩ := List.getElem?_eq_some_iff.1 h
  rw [← List.drop_eq_getElem_cons lt, List.take_append_drop]

theorem namedParts_eq_of_getElem? (h : n.children[i]? = some c) (part : c.isNamedPart = true) :
    n.namedParts = (n.children.take i).filter isNamedPart ++
      c :: (n.children.drop (i + 1)).filter isNamedPart := by
  rw [namedParts_eq]
  conv => lhs; rw [children_eq_of_getElem? h]
  rw [List.filter_append, List.filter_cons_of_pos part]

end

/-! ## Ways to namespaces -/

/-- A namespace with a name, not a string, and a body, which is its child at place `i`. -/
structure IsNamespace (n : Node) (name : String) (i : Nat) (body : Node) : Prop where
  form : StatementForm.ofType n.type = .namespaceBlock
  named : ∃ c, n.child? .name = some c ∧ c.kind ≠ .string ∧ c.text = some name
  body : n.FirstAt (hasRole .body) i body

section

variable {σ : Settings} {scope : Scope} {n body : Node} {name : String} {i : Nat}

theorem IsNamespace.unique {name' : String} {i' : Nat} {body' : Node}
    (h : n.IsNamespace name i body) (h' : n.IsNamespace name' i' body') :
    name' = name ∧ i' = i ∧ body' = body := by
  obtain ⟨head, named, -, text⟩ := h.named
  obtain ⟨head', named', -, text'⟩ := h'.named
  obtain rfl := Option.some.inj (named'.symm.trans named)
  exact ⟨Option.some.inj (text'.symm.trans text), h.body.unique h'.body⟩

theorem IsNamespace.statement_eq (h : n.IsNamespace name i body) :
    n.statement σ scope = (do
      reach? (n.child? .name)
      reach body
      reachAll body.namedParts
      let declarations ← collect (scanned σ (scope.enter name)) body.namedParts
      pure (namespaceOf (scope.qualify name) n.line declarations)) := by
  obtain ⟨head, named, kind, text⟩ := h.named
  rw [statement_namespace h.form, namespaceStatement_eq, h.body.child?, named]
  dsimp only
  rw [if_neg kind, read_of_text text]
  simp only [pure_bind]
  rfl

/-- A namespace statement that is not scanned, as it has no name or body, is named by a string or
has a name that cannot be read, gives nothing. -/
theorem gives_nil_of_not_isNamespace (form : StatementForm.ofType n.type = .namespaceBlock)
    (no : ∀ name i body, ¬ n.IsNamespace name i body) :
    (n.statement σ scope).Gives (· = []) := by
  rw [statement_namespace form, namespaceStatement_eq]
  refine gives_bind fun _ => gives_bind fun _ => ?_
  split
  · next head body hname hbody =>
    split
    · exact gives_bind fun _ => gives_bind fun _ => gives_pure rfl
    · next kind =>
      cases text : head.text with
      | none =>
        rw [show Translation.read head = fail .undecodable by rw [Translation.read, text]]
        intro ds h
        cases h
      | some name =>
        obtain ⟨i, first⟩ := exists_firstAt hbody
        exact absurd ⟨form, ⟨head, hname, kind, text⟩, first⟩ (no name i body)
  · exact gives_pure rfl

end

/-- The scan of a statement goes on with the node at place `i` in it. -/
inductive Wraps : Node → Nat → Node → Prop
  | exported {n i c} :
      StatementForm.ofType n.type = .exported →
      n.FirstAt (hasRole .declaration) i c →
      Wraps n i c
  | ambient {n i c} :
      StatementForm.ofType n.type = .ambient →
      n.children[i]? = some c →
      c.isNamedPart = true →
      Wraps n i c
  | expression {n i c} :
      StatementForm.ofType n.type = .expression →
      n.FirstAt isNamedPart i c →
      c.type = "internal_module" →
      Wraps n i c

section

variable {n c : Node} {i : Nat}

theorem Wraps.getElem? (wraps : n.Wraps i c) : n.children[i]? = some c := by
  cases wraps with
  | exported _ first => exact first.2
  | ambient _ at_i => exact at_i
  | expression _ first => exact first.2

theorem Wraps.isWrapper (wraps : n.Wraps i c) :
    (StatementForm.ofType n.type).isWrapper = true := by
  cases wraps with
  | exported form => rw [form]; rfl
  | ambient form => rw [form]; rfl
  | expression form => rw [form]; rfl

theorem Wraps.form_ne_namespaceBlock (wraps : n.Wraps i c) :
    StatementForm.ofType n.type ≠ .namespaceBlock := by
  intro form
  have wrapper := wraps.isWrapper
  rw [form] at wrapper
  cases wrapper

theorem wraps_exported (form : StatementForm.ofType n.type = .exported) :
    n.Wraps i c ↔ n.FirstAt (hasRole .declaration) i c := by
  constructor
  · intro wraps
    cases wraps with
    | exported _ first => exact first
    | ambient form' => cases form.symm.trans form'
    | expression form' => cases form.symm.trans form'
  · exact .exported form

theorem wraps_ambient (form : StatementForm.ofType n.type = .ambient) :
    n.Wraps i c ↔ n.children[i]? = some c ∧ c.isNamedPart = true := by
  constructor
  · intro wraps
    cases wraps with
    | exported form' => cases form.symm.trans form'
    | ambient _ at_i part => exact ⟨at_i, part⟩
    | expression form' => cases form.symm.trans form'
  · rintro ⟨at_i, part⟩
    exact .ambient form at_i part

theorem wraps_expression (form : StatementForm.ofType n.type = .expression) :
    n.Wraps i c ↔ n.FirstAt isNamedPart i c ∧ c.type = "internal_module" := by
  constructor
  · intro wraps
    cases wraps with
    | exported form' => cases form.symm.trans form'
    | ambient form' => cases form.symm.trans form'
    | expression _ first type => exact ⟨first, type⟩
  · rintro ⟨first, type⟩
    exact .expression form first type

end

/-- From a statement, through those that it wraps, one gets to the node at a position in it.  The
parts of an ambient declaration before the one on the way must pass. -/
inductive LeadsTo (passes : Node → Prop) : Node → List Nat → Node → Prop
  | here {n} : LeadsTo passes n [] n
  | inside {n i c p m} :
      n.Wraps i c →
      (StatementForm.ofType n.type = .ambient →
        ∀ d ∈ n.children.take i, d.isNamedPart = true → passes d) →
      LeadsTo passes c p m →
      LeadsTo passes n (i :: p) m

theorem LeadsTo.at? {passes : Node → Prop} {n m : Node} {p : List Nat}
    (way : LeadsTo passes n p m) : n.at? p = some m := by
  induction way with
  | here => rfl
  | inside wraps _ _ ih => rw [at?_cons wraps.getElem?, ih]

theorem LeadsTo.preorder_subset {passes : Node → Prop} {n m : Node} {p : List Nat}
    (way : LeadsTo passes n p m) {k : Node} (hk : k ∈ m.preorder) : k ∈ n.preorder := by
  induction way with
  | here => exact hk
  | inside wraps _ _ ih => exact mem_preorder_of_child (List.mem_of_getElem? wraps.getElem?) (ih hk)

theorem LeadsTo.mem_preorder {passes : Node → Prop} {n m : Node} {p : List Nat}
    (way : LeadsTo passes n p m) : m ∈ n.preorder :=
  mem_preorder_of_at? way.at?

/-- Only wrappers and namespaces lead to a namespace. -/
theorem LeadsTo.form {passes : Node → Prop} {n m body : Node} {q : List Nat} {name : String}
    {i : Nat} (way : LeadsTo passes n q m) (inner : m.IsNamespace name i body) :
    (StatementForm.ofType n.type).isWrapper = true ∨
      StatementForm.ofType n.type = .namespaceBlock := by
  cases way with
  | here => exact .inr inner.form
  | inside wraps => exact .inl wraps.isWrapper

/-- In a scope, the scan of one body gets to the scan of the body at a position in it, through
namespaces with the names given. -/
inductive Scans (passes : Scope → Node → Prop) :
    Scope → Node → List Nat → List String → Node → Prop
  | here {scope b} : Scans passes scope b [] [] b
  | inside {scope b j c q n name i body p names b'} :
      b.children[j]? = some c →
      c.isNamedPart = true →
      LeadsTo (passes scope) c q n →
      n.IsNamespace name i body →
      Scans passes (scope.enter name) body p names b' →
      Scans passes scope b (j :: (q ++ i :: p)) (name :: names) b'

/-! ## Ambient namespaces -/

/-- The body of a namespace with the statements given. -/
def bodyOf (statements : List Node) : Node :=
  branch "statement_block" "\x7b\x7d" [.body] (token "\x7b" :: statements ++ [token "\x7d"])

/-- `namespace name {}` with the statements given. -/
def moduleOf (name : String) (statements : List Node) : Node :=
  branch "internal_module" "namespace" [] [
    token "namespace",
    leaf "identifier" name [.name],
    bodyOf statements]

/-- `declare namespace name {}` with the statements given. -/
def ambientModule (name : String) (statements : List Node) : Node :=
  branch "ambient_declaration" "declare" [] [token "declare", moduleOf name statements]

theorem namedParts_bodyOf {statements : List Node}
    (parts : ∀ s ∈ statements, s.isNamedPart = true) :
    (bodyOf statements).namedParts = statements := by
  have children : (bodyOf statements).children =
      token "\x7b" :: (statements ++ [token "\x7d"]) := rfl
  rw [namedParts_eq, children, List.filter_cons_of_neg (by decide), List.filter_append,
    List.filter_eq_self.2 parts]
  exact List.append_nil statements

theorem isNamespace_moduleOf (name : String) (statements : List Node) :
    (moduleOf name statements).IsNamespace name 2 (bodyOf statements) where
  form := rfl
  named := by
    refine ⟨leaf "identifier" name [.name], rfl, ?_, rfl⟩
    rw [show (leaf "identifier" name [.name]).kind = Kind.ofType "identifier" from rfl]
    decide
  body := ⟨rfl, rfl⟩

theorem statement_ambientModule {σ : Settings} {scope : Scope} (name : String)
    {statements : List Node} (parts : ∀ s ∈ statements, s.isNamedPart = true)
    (legible : ∀ s ∈ statements, s.isLegible = true) :
    (ambientModule name statements).statement σ scope =
      namespaceOf (scope.qualify name) 1 <$>
        collect (scanned σ (scope.enter name)) statements := by
  have single : (ambientModule name statements).namedParts = [moduleOf name statements] := rfl
  rw [statement_ambient rfl, single, collect_singleton,
    (isNamespace_moduleOf name statements).statement_eq, namedParts_bodyOf parts,
    reachAll_of_isLegible legible, map_eq_pure_bind]
  rfl

end Node

/-- The scope inside nested namespaces, the outermost first. -/
def Scope.within (scope : Scope) (names : List String) : Scope := names.foldl Scope.enter scope

end KotlinStubs
