import KotlinStubs.Fault
import KotlinStubs.Syntax.Separated

/-!
# Cursors over separated lists

A `Cursor` hands out the payloads of a separated list one by one, each of which must be of an
expected kind.  A payload of another kind is an error, but the cursor moves past it.  `Cursors` are
any number of them, known by their numbers and moved by requests.
-/

namespace KotlinStubs

/-- The payloads of a list, the kind that they must have, and how many have been handed out. -/
structure Cursor where
  payloads : List Node
  expected : Kind
  position : Nat := 0

namespace Cursor

/-- Why a cursor does not hand out a payload. -/
inductive Stop where
  | exhausted
  | fault (e : Fault)

/-- Checks the kind of a payload. -/
def check (expected : Kind) (n : Node) : Except Stop Node :=
  if n.kind = expected then .ok n else .error (.fault (.wrongEntry expected n.type))

/-- Hands out the next payload. -/
def next (c : Cursor) : Except Stop Node × Cursor :=
  match c.payloads[c.position]? with
  | none => (.error .exhausted, c)
  | some n => (check c.expected n, { c with position := c.position + 1 })

/-- Starts again at the first payload. -/
def reset (c : Cursor) : Cursor := { c with position := 0 }

/-- The given payloads up to the end, or the first that is of another kind; and the number of
payloads taken. -/
def drain (expected : Kind) : List Node → Except Stop (List Node) × Nat
  | [] => (.ok [], 0)
  | n :: ns =>
    match check expected n with
    | .error e => (.error e, 1)
    | .ok n =>
      let (others, taken) := drain expected ns
      (others.map (n :: ·), taken + 1)

/-- Hands out all payloads that are left. -/
def rest (c : Cursor) : Except Stop (List Node) × Cursor :=
  let (answer, taken) := drain c.expected (c.payloads.drop c.position)
  (answer, { c with position := c.position + taken })

end Cursor

/-- Cursors by their numbers. -/
abbrev Cursors := List (Int × Cursor)

namespace Cursors

/-- What can be asked of cursors. -/
inductive Request where
  | create (id : Int) (payloads : List Node) (expected : Kind)
  | next (id : Int)
  | reset (id : Int)
  | rest (id : Int)

/-- What cursors answer. -/
inductive Response where
  | done
  | node (n : Node)
  | nodes (ns : List Node)
  | stopped (why : Cursor.Stop)
  | unknown

/-- The cursors with one more; an older one of the same number is replaced. -/
def insert (cs : Cursors) (id : Int) (c : Cursor) : Cursors :=
  (id, c) :: cs.filter fun entry => entry.1 != id

/-- Asks a cursor that must exist. -/
def ask (cs : Cursors) (id : Int) (f : Cursor → Response × Cursor) : Response × Cursors :=
  match cs.lookup id with
  | none => (.unknown, cs)
  | some c =>
    let (answer, c') := f c
    (answer, cs.insert id c')

/-- Answers a request. -/
def perform (cs : Cursors) : Request → Response × Cursors
  | .create id payloads expected => (.done, cs.insert id ⟨payloads, expected, 0⟩)
  | .next id => cs.ask id fun c =>
    match c.next with
    | (.ok n, c') => (.node n, c')
    | (.error why, c') => (.stopped why, c')
  | .reset id => cs.ask id fun c => (.done, c.reset)
  | .rest id => cs.ask id fun c =>
    match c.rest with
    | (.ok ns, c') => (.nodes ns, c')
    | (.error why, c') => (.stopped why, c')

end Cursors

end KotlinStubs
