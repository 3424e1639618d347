import KotlinStubs.Syntax.Kind
import KotlinStubs.Text.Basic

/-!
# Syntax nodes

A `Node` is one node of a concrete syntax tree with its place in the source, the text it spans and
its children.  The text is missing where the bytes of the span are no UTF-8.

Comments are no content: `parts` are the children without them, `namedParts` the named ones of these,
and every accessor but `child?` selects from the parts.

* `sizeOf_lt_of_mem_children` and its consequences for `child?`, `firstNamed?` and `namedParts`: what
  an accessor selects is smaller than the node, so recursion through accessors ends.
-/

namespace KotlinStubs

/-- The roles that a child can have in its parent. -/
inductive Field where
  | name
  | type
  | value
  | pattern
  | typeArguments
  | constraint
  | parameters
  | returnType
  | typeParameters
  | body
  | declaration
  deriving DecidableEq

namespace Field

/-- All roles. -/
def all : List Field :=
  [name, type, value, pattern, typeArguments, constraint, parameters, returnType, typeParameters,
    body, declaration]

/-- The written name of a role. -/
def label : Field → String
  | name => "name"
  | type => "type"
  | value => "value"
  | pattern => "pattern"
  | typeArguments => "type_arguments"
  | constraint => "constraint"
  | parameters => "parameters"
  | returnType => "return_type"
  | typeParameters => "type_parameters"
  | body => "body"
  | declaration => "declaration"

/-- The role with a given written name. -/
def ofLabel? (s : String) : Option Field := all.find? (·.label == s)

end Field

/-- A node of the syntax tree.  `row` is its place in the preorder of the tree, `start` and `stop`
delimit its bytes, `line` counts from one, `fields` are its roles in its parent. -/
structure Node where
  row : Nat
  type : String
  named : Bool
  start : Nat
  stop : Nat
  line : Nat
  text : Option String
  fields : List Field
  children : List Node

namespace Node

/-- Whether a node is a comment. -/
def isComment (n : Node) : Bool := n.type == "comment"

/-- The children that are content, all but the comments. -/
def parts (n : Node) : List Node := n.children.filter fun c => !c.isComment

/-- The parts that are not mere tokens of the grammar. -/
def namedParts (n : Node) : List Node := n.parts.filter (·.named)

/-- The first named part. -/
def firstNamed? (n : Node) : Option Node := n.namedParts.head?

/-- The first child with a role. -/
def child? (n : Node) (f : Field) : Option Node := n.children.find? (·.fields.contains f)

/-- Whether some part has a type name, as the tokens `?`, `static` and `const` have. -/
def hasPart (n : Node) (type : String) : Bool := n.parts.any (·.type == type)

/-- A node without children, comments included. -/
def isToken (n : Node) : Bool := n.children.isEmpty

/-- The type name of nodes whose kind is their keyword. -/
def predefinedType : String := "predefined_type"

/-- The kind of a node: by its keyword for a predefined type, else by its type name. -/
def kind (n : Node) : Kind :=
  if n.type = predefinedType then
    match n.text with
    | some t => Kind.ofKeyword (Text.trim t)
    | none => .other
  else
    Kind.ofType n.type

/-- Whether some part has a kind. -/
def hasPartOfKind (n : Node) (k : Kind) : Bool := n.parts.any (·.kind == k)

/-- The type that the `type` child of a parameter, declarator or property declares.  An annotation
stands for the type that it wraps. -/
def declaredType? (n : Node) : Option Node :=
  match n.child? .type with
  | none => none
  | some a => if a.kind = .typeClause then a.firstNamed? else some a

/-- Whether two nodes have the same span and type name. -/
def sameShape (n m : Node) : Bool := n.start == m.start && n.stop == m.stop && n.type == m.type

/-! ## What an accessor selects -/

theorem mem_children_of_mem_parts {n c : Node} (h : c ∈ n.parts) : c ∈ n.children :=
  (List.mem_filter.1 h).1

theorem mem_parts_of_mem_namedParts {n c : Node} (h : c ∈ n.namedParts) : c ∈ n.parts :=
  (List.mem_filter.1 h).1

theorem mem_namedParts_of_firstNamed? {n c : Node} (h : n.firstNamed? = some c) :
    c ∈ n.namedParts :=
  List.mem_of_mem_head? h

theorem mem_children_of_firstNamed? {n c : Node} (h : n.firstNamed? = some c) : c ∈ n.children :=
  mem_children_of_mem_parts (mem_parts_of_mem_namedParts (mem_namedParts_of_firstNamed? h))

theorem mem_children_of_child? {n c : Node} {f : Field} (h : n.child? f = some c) :
    c ∈ n.children :=
  List.mem_of_find?_eq_some h

/-! ## Sizes -/

theorem sizeOf_children_lt (n : Node) : sizeOf n.children < sizeOf n := by
  cases n
  simp only [Node.mk.sizeOf_spec]
  omega

theorem sizeOf_lt_of_mem_children {n c : Node} (h : c ∈ n.children) : sizeOf c < sizeOf n :=
  Nat.lt_trans (List.sizeOf_lt_of_mem h) n.sizeOf_children_lt

theorem sizeOf_lt_of_child? {n c : Node} {f : Field} (h : n.child? f = some c) :
    sizeOf c < sizeOf n :=
  sizeOf_lt_of_mem_children (mem_children_of_child? h)

theorem sizeOf_lt_of_firstNamed? {n c : Node} (h : n.firstNamed? = some c) :
    sizeOf c < sizeOf n :=
  sizeOf_lt_of_mem_children (mem_children_of_firstNamed? h)

theorem sizeOf_filter_le (p : Node → Bool) (ns : List Node) :
    sizeOf (ns.filter p) ≤ sizeOf ns := by
  induction ns with
  | nil => simp
  | cons n ns ih =>
    rw [List.filter_cons]
    split <;> simp only [List.cons.sizeOf_spec] <;> omega

theorem sizeOf_namedParts_lt (n : Node) : sizeOf n.namedParts < sizeOf n :=
  Nat.lt_of_le_of_lt
    (Nat.le_trans (sizeOf_filter_le _ _) (sizeOf_filter_le _ _)) n.sizeOf_children_lt

end Node

end KotlinStubs
