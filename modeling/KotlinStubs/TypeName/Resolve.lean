import KotlinStubs.TypeName.Weight

/-!
# Resolution of type nodes

The Kotlin name of a type node is found with a stack of tasks, so nesting is bounded by memory only.
A task is an operand still to be named or the combination of the names found last; a `Machine` holds
the tasks and the names found so far, the latest first.

* `step_weight`: a step makes the tasks lighter, so a run ends.
-/

namespace KotlinStubs

/-- A thing still to be done. -/
inductive Task where
  | operand (o : Operand)
  | combine (template : Template) (arity : Nat)

namespace Task

/-- The weight of a task; a combination counts once. -/
def weight : Task → Nat
  | .operand o => o.weight
  | .combine _ _ => 1

/-- The weight of several tasks together. -/
def weightAll : List Task → Nat
  | [] => 0
  | t :: ts => t.weight + weightAll ts

theorem weightAll_append (ts us : List Task) :
    weightAll (ts ++ us) = weightAll ts + weightAll us := by
  induction ts with
  | nil => simp [weightAll]
  | cons t ts ih =>
    simp only [List.cons_append, weightAll, ih]
    omega

theorem weightAll_map_operand (os : List Operand) :
    weightAll (os.map .operand) = Operand.weightAll os := by
  induction os with
  | nil => rfl
  | cons o os ih => simp only [List.map_cons, weightAll, Operand.weightAll, ih, weight]

end Task

/-- The tasks ahead, the next one first, and the names found, the latest first. -/
structure Machine where
  tasks : List Task
  names : List String

namespace Machine

open Translation

/-- Does one task: names an operand, puts the operands of a composite type and their combination in
front of the tasks, or replaces the latest names by their combination. -/
def step (task : Task) (tasks : List Task) (names : List String) : Translation Machine :=
  match task with
  | .combine template arity =>
    pure ⟨tasks, template.fill (names.take arity).reverse :: names.drop arity⟩
  | .operand (.name text) => pure ⟨tasks, text :: names⟩
  | .operand (.node n) => do
    match (← n.expand) with
    | .name text => pure ⟨tasks, text :: names⟩
    | .compound template operands =>
      pure ⟨operands.map .operand ++ .combine template operands.length :: tasks, names⟩

/-- A step makes the tasks lighter, so a run of the machine ends. -/
theorem step_weight {task : Task} {tasks : List Task} {names : List String} {m : Machine}
    (h : (step task tasks names).result = .ok m) :
    Task.weightAll m.tasks < Task.weightAll (task :: tasks) := by
  unfold step at h
  split at h
  · cases h
    simp only [Task.weightAll, Task.weight]
    omega
  · cases h
    simp only [Task.weightAll, Task.weight, Operand.weight]
    omega
  · next n =>
    obtain ⟨e, he, h⟩ := result_bind_eq_ok.1 h
    split at h
    · have := n.weight_eq
      cases h
      simp only [Task.weightAll, Task.weight, Operand.weight]
      omega
    · have := Node.weight_expand he
      cases h
      simp only [Task.weightAll_append, Task.weightAll_map_operand, Task.weightAll, Task.weight,
        Operand.weight]
      omega

/-- Does all tasks and gives the names found. -/
def run (m : Machine) : Translation (List String) :=
  match _h : m.tasks with
  | [] => pure m.names
  | task :: tasks => (step task tasks m.names).bindWith fun m' _ => run m'
termination_by Task.weightAll m.tasks
decreasing_by
  rw [_h]
  exact step_weight ‹_›

theorem run_cons (task : Task) (tasks : List Task) (names : List String) :
    run ⟨task :: tasks, names⟩ = step task tasks names >>= run := by
  rw [run]
  rfl

end Machine

namespace Node

open Translation

/-- The Kotlin name of a type node. -/
def typeName (n : Node) : Translation String := do
  let names ← Machine.run ⟨[.operand (.node n)], []⟩
  pure (names.headD "")

/-- The Kotlin name of a type node, `Any` if there is none. -/
def typeNameOrAny : Option Node → Translation String
  | some t => t.typeName
  | none => pure anyName

/-- The Kotlin name of the type that an annotation wraps, `Any` if it wraps none. -/
def clauseTypeName (n : Node) : Translation String :=
  if n.kind = .typeClause then do
    reach? n.firstNamed?
    typeNameOrAny n.firstNamed?
  else
    n.typeName

end Node

end KotlinStubs
