import Mathlib.Logic.Relation
import KotlinStubs.Parameter
import KotlinStubs.Proofs.Outcome

/-!
# Resolution as a recursion

The machine that names a type node does what a recursion on the node does: it expands the node by
one level, names the operands and fills the template with their names.

`Machine.Reached` is the way of the machine from one state to the next.  A task that combines names
finds as many as it takes on every state of a resolution, and a resolution ends with one name.

* `Machine.run_typeName`: a type node in front of the tasks is named first.
* `Node.typeName_eq`: the recursion.
* `Node.typeName_identifier`: a name passes through as it is written.
* `Node.composes_of_expand`: what a type node is expanded to, if to a template.
* `Node.hasElement_of_restElement`: what the type of a rest parameter has as its element.
* `Machine.Reached.serves`: no state of a resolution is short of names.
* `Machine.wellFounded_next`: no resolution goes on for ever.
* `Machine.reached_iff`: what a resolution ends with.
-/

namespace KotlinStubs

open Translation

/-- The name of an operand. -/
def Operand.typeName : Operand → Translation String
  | .node n => n.typeName
  | .name text => pure text

/-- The name that an expansion stands for, made from the names of its operands. -/
def Expansion.typeName : Expansion → Translation String
  | .name text => pure text
  | .compound template operands => template.fill <$> operands.mapM Operand.typeName

theorem Operand.weight_le_weightAll_of_mem {o : Operand} {os : List Operand} (h : o ∈ os) :
    o.weight ≤ weightAll os := by
  induction os with
  | nil => cases h
  | cons p os ih =>
    rw [weightAll]
    rcases List.mem_cons.1 h with rfl | h
    · omega
    · have := ih h
      omega

namespace Machine

/-! ## The run of a machine -/

/-- The names that `names` starts with, `n` of them, in the order in which they were found. -/
theorem take_reverse_append (found names : List String) :
    ((found.reverse ++ names).take found.length).reverse = found := by
  have length : found.reverse.length = found.length := List.length_reverse
  rw [List.take_left' length, List.reverse_reverse]

theorem run_name (text : String) (tasks : List Task) (names : List String) :
    run ⟨.operand (.name text) :: tasks, names⟩ = run ⟨tasks, text :: names⟩ := by
  rw [run_cons, step, pure_bind]

theorem run_combine (template : Template) (found names : List String) (tasks : List Task) :
    run ⟨.combine template found.length :: tasks, found.reverse ++ names⟩ =
      run ⟨tasks, template.fill found :: names⟩ := by
  have rest : (found.reverse ++ names).drop found.length = names :=
    List.drop_left' List.length_reverse
  rw [run_cons, step, pure_bind, take_reverse_append, rest]

/-- Operands in front of the tasks are named one after the other, if each of them is. -/
theorem run_operands {os : List Operand}
    (each : ∀ o ∈ os, ∀ tasks names, run ⟨.operand o :: tasks, names⟩ =
      o.typeName >>= fun text => run ⟨tasks, text :: names⟩)
    (tasks : List Task) (names : List String) :
    run ⟨os.map .operand ++ tasks, names⟩ =
      os.mapM Operand.typeName >>= fun found => run ⟨tasks, found.reverse ++ names⟩ := by
  induction os generalizing names with
  | nil => simp
  | cons o os ih =>
    have first := each o List.mem_cons_self (os.map .operand ++ tasks) names
    have others := ih fun p hp => each p (List.mem_cons_of_mem o hp)
    simp only [List.map_cons, List.cons_append, first, others, List.mapM_cons, bind_assoc,
      pure_bind, List.reverse_cons, List.append_assoc, List.nil_append]

/-- A type node in front of the tasks is expanded, if what it is expanded to can be named. -/
theorem run_node {n : Node}
    (below : ∀ m : Node, m.weight < n.weight → ∀ tasks names,
      run ⟨.operand (.node m) :: tasks, names⟩ =
        m.typeName >>= fun text => run ⟨tasks, text :: names⟩)
    (tasks : List Task) (names : List String) :
    run ⟨.operand (.node n) :: tasks, names⟩ =
      n.expand >>= fun e => e.typeName >>= fun text => run ⟨tasks, text :: names⟩ := by
  rw [run_cons, step, bind_assoc]
  refine bind_congr_of_result fun e he => ?_
  cases e with
  | name text => simp only [Expansion.typeName, pure_bind]
  | compound template operands =>
    have light := Node.weight_expand he
    have each : ∀ o ∈ operands, ∀ tasks names, run ⟨.operand o :: tasks, names⟩ =
        o.typeName >>= fun text => run ⟨tasks, text :: names⟩ := by
      intro o ho tasks names
      cases o with
      | name text => rw [run_name, Operand.typeName, pure_bind]
      | node m =>
        have lighter := Operand.weight_le_weightAll_of_mem ho
        have weight : (Operand.node m).weight = m.weight := rfl
        exact below m (by omega) tasks names
    simp only [pure_bind, run_operands each, Expansion.typeName, bind_map_left]
    refine bind_congr_of_result fun found hfound => ?_
    have length : found.length = operands.length := gives_length_mapM _ _ found hfound
    rw [← length, run_combine]

/-- The recursion at a node, from the way in which its expansion is run. -/
theorem typeName_of_run {n : Node}
    (expanded : ∀ tasks names, run ⟨.operand (.node n) :: tasks, names⟩ =
      n.expand >>= fun e => e.typeName >>= fun text => run ⟨tasks, text :: names⟩) :
    n.typeName = n.expand >>= Expansion.typeName := by
  have nothing (names : List String) : run ⟨[], names⟩ = pure names := by
    rw [run]
  rw [Node.typeName, expanded [] []]
  simp only [nothing, bind_assoc, pure_bind, List.headD_cons, bind_pure]

/-- A type node in front of the tasks is named first.  The induction is on its weight. -/
theorem run_typeName (n : Node) (tasks : List Task) (names : List String) :
    run ⟨.operand (.node n) :: tasks, names⟩ =
      n.typeName >>= fun text => run ⟨tasks, text :: names⟩ := by
  induction h : n.weight using Nat.strongRecOn generalizing n tasks names with
  | ind w ih =>
    have below : ∀ m : Node, m.weight < n.weight → ∀ tasks names,
        run ⟨.operand (.node m) :: tasks, names⟩ =
          m.typeName >>= fun text => run ⟨tasks, text :: names⟩ := by
      intro m lighter tasks names
      exact ih m.weight (h ▸ lighter) m tasks names rfl
    have expanded := run_node below
    rw [expanded, typeName_of_run expanded, bind_assoc]

end Machine

namespace Node

/-- The name of a type node is what its expansion stands for. -/
theorem typeName_eq (n : Node) : n.typeName = n.expand >>= Expansion.typeName :=
  Machine.typeName_of_run (Machine.run_node fun m _ => Machine.run_typeName m)

theorem expand_identifier {n : Node} {text : String} (kind : n.kind = .identifier)
    (read : n.text = some text) :
    n.expand = (do
      note (.unresolvedType n.type n.line)
      pure (.name text)) := by
  rw [expand, kind, read_of_text read]
  rfl

/-- A name passes through as it is written, with a remark. -/
theorem typeName_identifier {n : Node} {text : String} (kind : n.kind = .identifier)
    (read : n.text = some text) :
    n.typeName = (do
      note (.unresolvedType n.type n.line)
      pure text) := by
  rw [typeName_eq, expand_identifier kind read]
  rfl

/-- What an array, a generic type and a function type are expanded to. -/
inductive Composes (n : Node) : Template → List Operand → Prop
  | array {element} :
      n.kind = .arrayType →
      n.firstNamed? = some element →
      Composes n (.applied arrayName) [.node element]
  | generic {name args text} :
      n.kind = .genericType →
      n.child? .name = some name →
      n.child? .typeArguments = some args →
      name.text = some text →
      Composes n (.applied text) ((args.payloads angles).map .node)
  | function :
      n.kind = .functionType →
      Composes n .arrow (n.parameterOperands ++ [n.resultOperand])

/-- Nothing else is expanded to a template. -/
theorem composes_of_expand {n : Node} {template : Template} {operands : List Operand}
    (h : n.expand.result = .ok (.compound template operands)) : n.Composes template operands := by
  unfold expand at h
  split at h
  case h_1 | h_2 | h_3 | h_4 | h_5 | h_6 | h_7 => cases h
  case h_8 kind =>
    obtain ⟨_, _, h⟩ := result_bind_eq_ok.1 h
    split at h
    · next element found =>
      cases h
      exact .array kind found
    · simp at h
  case h_9 kind =>
    obtain ⟨_, _, h⟩ := result_bind_eq_ok.1 h
    obtain ⟨_, _, h⟩ := result_bind_eq_ok.1 h
    split at h
    · next name args hname hargs =>
      obtain ⟨text, htext, h⟩ := result_bind_eq_ok.1 h
      obtain ⟨_, _, h⟩ := result_bind_eq_ok.1 h
      cases h
      exact .generic kind hname hargs (text_of_read htext)
    · simp at h
  case h_10 kind =>
    obtain ⟨_, _, h⟩ := result_bind_eq_ok.1 h
    obtain ⟨_, _, h⟩ := result_bind_eq_ok.1 h
    obtain ⟨_, _, h⟩ := result_bind_eq_ok.1 h
    cases h
    exact .function kind
  case h_11 => simp at h
  case h_12 => simp at h

/-- The operands of a function type end in its result. -/
theorem Composes.operands_pos {n : Node} {operands : List Operand}
    (h : n.Composes .arrow operands) : 0 < operands.length := by
  cases h
  rw [List.length_append, List.length_singleton]
  omega

/-! ## Elements of rest parameters -/

/-- What an array type gives a rest parameter as its element, none if it has none. -/
inductive HasElement (declared : Node) : Option Node → Prop
  | array :
      declared.kind = .arrayType →
      HasElement declared declared.firstNamed?
  | generic {name args element} :
      declared.kind = .genericType →
      declared.child? .name = some name →
      name.text = some arrayName →
      declared.child? .typeArguments = some args →
      args.payloads angles = [element] →
      HasElement declared (some element)

/-- Nothing else can be the type of a rest parameter. -/
theorem hasElement_of_restElement {p declared : Node} {element : Option Node}
    (h : (p.restElement declared).result = .ok element) : declared.HasElement element := by
  unfold restElement at h
  split at h
  · next kind =>
    obtain ⟨_, _, h⟩ := result_bind_eq_ok.1 h
    cases h
    exact .array kind
  · next kind =>
    obtain ⟨_, _, h⟩ := result_bind_eq_ok.1 h
    obtain ⟨_, _, h⟩ := result_bind_eq_ok.1 h
    split at h
    · cases h
    · next name hname =>
      obtain ⟨text, htext, h⟩ := result_bind_eq_ok.1 h
      split at h
      · next args hargs =>
        split at h
        · next isArray =>
          obtain ⟨_, _, h⟩ := result_bind_eq_ok.1 h
          split at h
          · next element single =>
            cases h
            have named : name.text = some arrayName := isArray ▸ text_of_read htext
            exact .generic kind hname named hargs single
          · cases h
        · cases h
      · cases h
  · cases h

end Node

namespace Machine

/-! ## The states of a resolution -/

/-- One step of the machine. -/
def Next (m m' : Machine) : Prop :=
  ∃ task tasks, m.tasks = task :: tasks ∧ (step task tasks m.names).result = .ok m'

/-- The resolution of a type node comes to a state of the machine. -/
def Reached (n : Node) : Machine → Prop :=
  Relation.ReflTransGen Next ⟨[.operand (.node n)], []⟩

/-- From so many names found, each combination among the tasks finds the names that it takes, one at
least for an arrow, which ends in the name of its result; and one name is left. -/
inductive Serves : Nat → List Task → Prop
  | done : Serves 1 []
  | operand {count o tasks} :
      Serves (count + 1) tasks →
      Serves count (.operand o :: tasks)
  | combine {count template arity tasks} :
      arity ≤ count →
      (template = .arrow → 0 < arity) →
      Serves (count - arity + 1) tasks →
      Serves count (.combine template arity :: tasks)

theorem Serves.operands {count : Nat} {os : List Operand} {tasks : List Task}
    (h : Serves (count + os.length) tasks) : Serves count (os.map .operand ++ tasks) := by
  induction os generalizing count with
  | nil => exact h
  | cons o os ih =>
    have length : count + (o :: os).length = count + 1 + os.length := by
      rw [List.length_cons]
      omega
    exact .operand (ih (length ▸ h))

/-- A step leaves the other tasks as many names as they take. -/
theorem Serves.next {m m' : Machine} (h : Serves m.names.length m.tasks) (next : Next m m') :
    Serves m'.names.length m'.tasks := by
  rcases m with ⟨_, names⟩
  obtain ⟨task, tasks, rfl, step⟩ := next
  dsimp only at h step
  generalize length : names.length = count at h
  cases h with
  | @combine _ template arity _ enough _ rest =>
    cases step
    rw [List.length_cons, List.length_drop, length]
    exact rest
  | @operand _ o _ rest =>
    rw [← length] at rest
    cases o with
    | name text =>
      cases step
      exact rest
    | node n =>
      obtain ⟨e, he, step⟩ := result_bind_eq_ok.1 step
      cases e with
      | name text =>
        cases step
        exact rest
      | compound template operands =>
        cases step
        refine .operands (.combine (Nat.le_add_left _ _) ?_ ?_)
        · rintro rfl
          exact (Node.composes_of_expand he).operands_pos
        · rw [Nat.add_sub_cancel]
          exact rest

/-- No state of a resolution is short of names. -/
theorem Reached.serves {n : Node} {m : Machine} (h : Reached n m) :
    Serves m.names.length m.tasks := by
  induction h with
  | refl => exact .operand .done
  | tail _ next ih => exact ih.next next

/-- A resolution that comes to a state without tasks has found one name. -/
theorem Reached.names_of_no_tasks {n : Node} {m : Machine} (h : Reached n m)
    (ended : m.tasks = []) : ∃ text, m.names = [text] := by
  have serves := h.serves
  rw [ended] at serves
  generalize length : m.names.length = count at serves
  cases serves
  exact List.length_eq_one_iff.1 length

/-- A combination that is next finds the names that it takes. -/
theorem Reached.arity_le {n : Node} {m : Machine} (h : Reached n m) {template : Template}
    {arity : Nat} {tasks : List Task} (next : m.tasks = .combine template arity :: tasks) :
    arity ≤ m.names.length ∧ (template = .arrow → 0 < arity) := by
  have serves := h.serves
  rw [next] at serves
  generalize m.names.length = count at serves ⊢
  cases serves with
  | combine enough arrow _ => exact ⟨enough, arrow⟩

/-! ## The end of a resolution -/

theorem weight_lt_of_next {m m' : Machine} (h : Next m m') :
    Task.weightAll m'.tasks < Task.weightAll m.tasks := by
  obtain ⟨task, tasks, ahead, step⟩ := h
  rw [ahead]
  exact step_weight step

/-- No machine goes on for ever. -/
theorem wellFounded_next : WellFounded fun m' m : Machine => Next m m' :=
  Subrelation.wf weight_lt_of_next (measure fun m : Machine => Task.weightAll m.tasks).wf

theorem result_run_of_next {m m' : Machine} (h : Next m m') : m.run.result = m'.run.result := by
  rcases m with ⟨_, names⟩
  obtain ⟨task, tasks, rfl, step⟩ := h
  rw [run_cons, bind_ok step]
  rfl

/-- What a run gives does not change on the way of the machine. -/
theorem result_run_of_reached {m m' : Machine} (h : Relation.ReflTransGen Next m m') :
    m.run.result = m'.run.result := by
  induction h with
  | refl => rfl
  | tail _ next ih => exact ih.trans (result_run_of_next next)

/-- What a run gives is the end of the way of the machine.  The induction is along the way. -/
theorem reached_of_run {m : Machine} {names : List String} (h : m.run.result = .ok names) :
    Relation.ReflTransGen Next m ⟨[], names⟩ := by
  induction m using wellFounded_next.induction with
  | _ m ih =>
    rcases m with ⟨_ | ⟨task, tasks⟩, found⟩
    · rw [run] at h
      cases h
      exact .refl
    · rw [run_cons] at h
      obtain ⟨m, hm, h⟩ := result_bind_eq_ok.1 h
      have next : Next ⟨task :: tasks, found⟩ m := ⟨task, tasks, rfl, hm⟩
      exact .head next (ih m next h)

/-- A resolution ends with one name, that of its node. -/
theorem names_of_run {n : Node} {names : List String}
    (h : (run ⟨[.operand (.node n)], []⟩).result = .ok names) : ∃ text, names = [text] :=
  Reached.names_of_no_tasks (reached_of_run h) rfl

/-- The machine comes to a single name without tasks just if that is the name of its node. -/
theorem reached_iff {n : Node} {text : String} :
    Reached n ⟨[], [text]⟩ ↔ n.typeName.result = .ok text := by
  constructor
  · intro reached
    have ended : run ⟨[], [text]⟩ = pure [text] := by rw [run]
    have result := result_run_of_reached reached
    rw [ended] at result
    exact result_bind_eq_ok.2 ⟨[text], result, rfl⟩
  · intro named
    obtain ⟨names, hrun, result⟩ := result_bind_eq_ok.1 named
    obtain ⟨found, rfl⟩ := names_of_run hrun
    cases result
    exact reached_of_run hrun

end Machine

end KotlinStubs
