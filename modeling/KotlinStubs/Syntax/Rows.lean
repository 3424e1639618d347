import KotlinStubs.Json.Value
import KotlinStubs.Syntax.Node

/-!
# Trees as rows

A tree can be given as its rows in preorder, each with its span and the number of its parent's row,
over the bytes of the source.  The children of a node are the rows that name it as their parent, in
the order of the rows.

* `Node.ofRows?`: the tree of some rows.
* `Node.mem_preorder_of_child`: the preorder of a tree holds the nodes below each child.
-/

namespace KotlinStubs

/-- A row of a tree; a root has no parent. -/
structure Row where
  type : String
  named : Bool
  start : Nat
  stop : Nat
  parent : Option Nat
  fields : List Field

/-- The number of the line, counted from one, on which a byte of the source stands. -/
def lineOf (bytes : ByteArray) (offset : Nat) : Nat :=
  1 + (bytes.extract 0 offset).toList.count 10

/-- The text of a span, if it is UTF-8.  A span that ends before it starts is empty. -/
def spanText (bytes : ByteArray) (start stop : Nat) : Option String :=
  String.fromUTF8? (bytes.extract start stop)

namespace Row

/-- The node of a row with given children. -/
def toNode (bytes : ByteArray) (number : Nat) (children : List Node) (r : Row) : Node where
  row := number
  type := r.type
  named := r.named
  start := r.start
  stop := r.stop
  line := lineOf bytes r.start
  text := spanText bytes r.start r.stop
  fields := r.fields
  children := children

/-- The nodes of rows, from a number on, whose parent comes before them, each with the number of
its parent. -/
def nodes (bytes : ByteArray) : Nat → List Row → List (Option Nat × Node)
  | _, [] => []
  | number, r :: rows =>
    let later := nodes bytes (number + 1) rows
    let children := later.filter (·.1 == some number)
    (r.parent, r.toNode bytes number (children.map (·.2))) :: later.filter (·.1 != some number)

/-- The row that a JSON array of type, named flag, start, end, parent and comma-separated roles
writes. -/
def ofJson? : Json → Option Row
  | .array [type, named, start, stop, parent, fields] => do
    let names := (← fields.asString?).splitOn ","
    pure {
      type := ← type.asString?
      named := (← named.asInt?) != 0
      start := ← start.asNat?
      stop := ← stop.asNat?
      parent := parent.asNat?
      fields := names.filterMap Field.ofLabel? }
  | _ => none

end Row

/-- The tree of some rows over the bytes of its source, whose root is the first row. -/
def Node.ofRows? (bytes : ByteArray) (rows : List Row) : Option Node :=
  (Row.nodes bytes 0 rows).head?.map (·.2)

mutual

/-- The nodes of a tree in preorder. -/
def Node.preorder : Node → List Node
  | n@⟨_, _, _, _, _, _, _, _, children⟩ => n :: Node.preorderAll children

/-- The nodes of several trees in preorder. -/
def Node.preorderAll : List Node → List Node
  | [] => []
  | n :: ns => n.preorder ++ Node.preorderAll ns

end

theorem Node.mem_preorder_self (n : Node) : n ∈ n.preorder := by
  cases n
  exact List.mem_cons_self

theorem Node.mem_preorderAll {ns : List Node} {n m : Node} (hn : n ∈ ns) (hm : m ∈ n.preorder) :
    m ∈ Node.preorderAll ns := by
  induction ns with
  | nil => cases hn
  | cons k ns ih =>
    rcases List.mem_cons.1 hn with rfl | hn
    · exact List.mem_append_left _ hm
    · exact List.mem_append_right _ (ih hn)

/-- What is in the tree of a child is in the tree. -/
theorem Node.mem_preorder_of_child {n c m : Node} (hc : c ∈ n.children) (hm : m ∈ c.preorder) :
    m ∈ n.preorder := by
  cases n
  exact List.mem_cons_of_mem _ (Node.mem_preorderAll hc hm)

end KotlinStubs
