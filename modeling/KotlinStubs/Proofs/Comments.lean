import KotlinStubs.Syntax.Rows
import KotlinStubs.Proofs.Content

/-!
# Comments

A comment is no content, wherever it stands: between statements and members, in lists of parameters,
arguments and declarators, in annotations and in wrappers.  Only `Node.child?` looks at comments,
and it passes over those without a role.

`dropping p` takes the subtrees out of a tree whose roots satisfy `p`.

* `keepsContent_dropping_trivia`: taking out the comments without a role keeps all content.
* `scanFile_withoutComments`: a tree in which no comment has a role is translated as it is without
  comments.
-/

namespace KotlinStubs

namespace Node

mutual

/-- The node without the subtrees below it whose roots satisfy `p`. -/
def dropping (p : Node → Bool) : Node → Node
  | ⟨row, type, named, start, stop, line, text, fields, children⟩ =>
    ⟨row, type, named, start, stop, line, text, fields, droppingAll p children⟩

/-- The trees without the subtrees whose roots satisfy `p`. -/
def droppingAll (p : Node → Bool) : List Node → List Node
  | [] => []
  | n :: ns => if p n then droppingAll p ns else n.dropping p :: droppingAll p ns

end

/-- The tree without its comments and all that is in them. -/
def withoutComments (n : Node) : Node := n.dropping isComment

/-- Whether a node is a comment without a role. -/
def isTrivia (n : Node) : Bool := n.isComment && n.fields.isEmpty

section

variable {p q : Node → Bool}

theorem droppingAll_eq (ns : List Node) :
    droppingAll p ns = (ns.filter fun n => !p n).map (dropping p) := by
  induction ns with
  | nil => rfl
  | cons n ns ih =>
    rw [droppingAll, ih, List.filter_cons]
    cases p n <;> rfl

theorem dropping_type (n : Node) : (n.dropping p).type = n.type := by
  cases n
  rfl

theorem dropping_line (n : Node) : (n.dropping p).line = n.line := by
  cases n
  rfl

theorem dropping_text (n : Node) : (n.dropping p).text = n.text := by
  cases n
  rfl

theorem dropping_named (n : Node) : (n.dropping p).named = n.named := by
  cases n
  rfl

theorem dropping_fields (n : Node) : (n.dropping p).fields = n.fields := by
  cases n
  rfl

theorem dropping_children (n : Node) :
    (n.dropping p).children = (n.children.filter fun c => !p c).map (dropping p) := by
  cases n
  exact droppingAll_eq _

theorem isComment_dropping (n : Node) : (n.dropping p).isComment = n.isComment := by
  unfold isComment
  rw [dropping_type]

mutual

/-- What is taken out depends on the nodes of the tree only. -/
theorem dropping_congr (n : Node) (h : ∀ m ∈ n.preorder, p m = q m) :
    n.dropping p = n.dropping q := by
  rcases n with ⟨row, type, named, start, stop, line, text, fields, children⟩
  have inner := droppingAll_congr children fun m hm => h m (List.mem_cons_of_mem _ hm)
  rw [dropping, dropping, inner]

theorem droppingAll_congr (ns : List Node) (h : ∀ m ∈ preorderAll ns, p m = q m) :
    droppingAll p ns = droppingAll q ns := by
  cases ns with
  | nil => rfl
  | cons n ns =>
    have first := dropping_congr n fun m hm => h m (List.mem_append_left _ hm)
    have others := droppingAll_congr ns fun m hm => h m (List.mem_append_right _ hm)
    rw [droppingAll, droppingAll, first, others, h n (List.mem_append_left _ n.mem_preorder_self)]

end

end

/-! ## Comments without a role -/

theorem isComment_of_isTrivia {n : Node} (h : n.isTrivia = true) : n.isComment = true := by
  rw [isTrivia, Bool.and_eq_true] at h
  exact h.1

theorem not_mem_fields_of_isTrivia {n : Node} (h : n.isTrivia = true) (f : Field) :
    n.fields.contains f = false := by
  rw [isTrivia, Bool.and_eq_true, List.isEmpty_iff] at h
  rw [h.2]
  rfl

theorem parts_dropping_trivia (n : Node) :
    (n.dropping isTrivia).parts = n.parts.map (dropping isTrivia) := by
  unfold parts
  rw [dropping_children, List.filter_map, List.filter_filter]
  congr 1
  apply List.filter_congr
  intro c _
  simp only [Function.comp_apply, isComment_dropping]
  cases hc : c.isTrivia with
  | false => rw [Bool.not_false, Bool.and_true]
  | true => rw [isComment_of_isTrivia hc, Bool.not_true, Bool.false_and]

theorem child?_dropping_trivia (n : Node) (f : Field) :
    (n.dropping isTrivia).child? f = (n.child? f).map (dropping isTrivia) := by
  unfold child?
  rw [dropping_children, List.find?_map, List.find?_filter]
  congr 2
  funext c
  simp only [Function.comp_apply, dropping_fields]
  cases hc : c.isTrivia with
  | false => simp only [Bool.not_false, true_and, Bool.decide_eq_true]
  | true => simp only [not_mem_fields_of_isTrivia hc, Bool.false_eq_true, and_false, decide_false]

theorem keepsContent_dropping_trivia : KeepsContent (dropping isTrivia) where
  type := dropping_type
  line := dropping_line
  text := dropping_text
  named := dropping_named
  parts := parts_dropping_trivia
  child? := child?_dropping_trivia

/-! ## All comments -/

/-- A tree in which no comment has a role is translated like the tree without its comments, however
the rows that remain are numbered: with the same declarations and rejections, or the same fault, and
the same events in the same order. -/
theorem scanFile_withoutComments {σ : Settings} {path : String} {root : Node} (number : Nat → Nat)
    (plain : ∀ c ∈ root.preorder, c.isComment = true → c.fields = []) :
    (root.withoutComments.renumbered number).scanFile σ path = root.scanFile σ path ∧
      translate σ path (root.withoutComments.renumbered number) = translate σ path root := by
  have trivia : ∀ c ∈ root.preorder, c.isComment = c.isTrivia := by
    intro c hc
    cases comment : c.isComment with
    | false => rw [isTrivia, comment, Bool.false_and]
    | true => rw [isTrivia, comment, plain c hc comment]; rfl
  have same : (root.withoutComments.renumbered number).scanFile σ path =
      root.scanFile σ path := by
    rw [(keepsContent_renumbered number).scanFile, withoutComments, dropping_congr root trivia]
    exact keepsContent_dropping_trivia.scanFile path root
  exact ⟨same, by rw [translate, translate, same]⟩

/-- `function f(a /* first */, b)`, its comment inside the list of parameters. -/
def commentedParameters : Node :=
  branch "program" "function f(a /* first */, b)" [] [
    branch "function_signature" "function f(a /* first */, b)" [] [
      token "function",
      leaf "identifier" "f" [.name],
      branch "formal_parameters" "(a /* first */, b)" [.parameters] [
        token "(",
        branch "required_parameter" "a" [] [leaf "identifier" "a" [.pattern]],
        leaf "comment" "/* first */" [],
        token ",",
        branch "required_parameter" "b" [] [leaf "identifier" "b" [.pattern]],
        token ")"]]]

theorem scanFile_commentedParameters :
    (∀ c ∈ commentedParameters.preorder, c.isComment = true → c.fields = []) ∧
      (commentedParameters.withoutComments.renumbered id).scanFile {} "f.d.ts" =
        commentedParameters.scanFile {} "f.d.ts" ∧
      translate {} "f.d.ts" (commentedParameters.withoutComments.renumbered id) =
        translate {} "f.d.ts" commentedParameters := by
  have plain : ∀ c ∈ commentedParameters.preorder, c.isComment = true → c.fields = [] := by
    decide +kernel
  exact ⟨plain, scanFile_withoutComments id plain⟩

end Node

end KotlinStubs
