import Mathlib.Data.List.Forall2
import KotlinStubs.Proofs.Resolution
import KotlinStubs.Proofs.TypeText

/-!
# What type nodes denote

Type nodes made of keywords, names, arrays, generic types and function types denote types of Kotlin,
and the name found for such a node is the text of the type that it denotes.

* `Denotes`: the type of a type node.
* `Declares`, `TakesType`, `TakesArgument`, `ReturnsType`: the types of variables, parameters and
  results.
* `Node.names_generic`, `Node.names_function`: composite types, from the names in them.
* `Denotes.names`: the name of a type node.
-/

namespace KotlinStubs

open Translation

/-! ## What type nodes denote -/

/-- The entries of a list alternate payload and comma. -/
inductive Alternates : List Node → List Node → Prop
  | nil : Alternates [] []
  | last (n : Node) : Alternates [n] [n]
  | more {n comma entries payloads} :
      comma.type = "," →
      Alternates entries payloads →
      Alternates (n :: comma :: entries) (n :: payloads)

theorem Alternates.evenPlaces_eq {entries payloads : List Node} (h : Alternates entries payloads) :
    evenPlaces entries = payloads := by
  induction h with
  | nil => rfl
  | last n => rfl
  | more _ _ ih => rw [evenPlaces, ih]

/-- The Kotlin name of the type that a keyword stands for. -/
def Kind.typeName? : Kind → Option String
  | .anyKeyword => some anyName
  | .numberKeyword => some "Number"
  | .stringKeyword => some "String"
  | .booleanKeyword => some "Boolean"
  | .voidKeyword => some unitName
  | _ => none

/-- The parameters of a callable or function type. -/
inductive Node.HasParameters (n : Node) : List Node → Prop
  | listed {list ps} :
      n.child? .parameters = some list →
      Alternates (list.entries parentheses) ps →
      HasParameters n ps
  | none :
      n.child? .parameters = none →
      HasParameters n []

/-- The type that a type node denotes.  A parameter without type takes any value, and a function
type without result gives none. -/
inductive Denotes : Node → KotlinType → Prop
  | keyword {n s} :
      n.kind.typeName? = some s →
      Denotes n (.name s)
  | identifier {n s} :
      n.kind = .identifier →
      n.text = some s →
      IsName s →
      Denotes n (.name s)
  | array {n element t} :
      n.kind = .arrayType →
      n.firstNamed? = some element →
      Denotes element t →
      Denotes n (.applied arrayName [t])
  | generic {n name s list args ts} :
      n.kind = .genericType →
      n.child? .name = some name →
      name.text = some s →
      IsName s →
      n.child? .typeArguments = some list →
      Alternates (list.entries angles) args →
      args ≠ [] →
      args.length = ts.length →
      (∀ a t, (a, t) ∈ args.zip ts → Denotes a t) →
      Denotes n (.applied s ts)
  | function {n ps ts result} :
      n.kind = .functionType →
      n.HasParameters ps →
      ps.length = ts.length →
      (∀ p t d, (p, t) ∈ ps.zip ts → p.declaredType? = some d → Denotes d t) →
      (∀ p t, (p, t) ∈ ps.zip ts → p.declaredType? = none → t = .name anyName) →
      (∀ r, n.child? .returnType = some r → Denotes r result) →
      (n.child? .returnType = none → result = .name unitName) →
      Denotes n (.function ts result)

/-- The type that a variable or property is declared with, that of all values if with none. -/
def Declares (n : Node) (t : KotlinType) : Prop :=
  (∀ d, n.declaredType? = some d → Denotes d t) ∧ (n.declaredType? = none → t = .name anyName)

/-- The type, or the nullable type made from it. -/
def KotlinType.nullableIf (t : KotlinType) (isNullable : Bool) : KotlinType :=
  if isNullable then .nullable t else t

/-- The type of one value of a parameter: for a rest parameter that of the elements of its array. -/
inductive TakesType (p : Node) : KotlinType → Prop
  | untyped :
      p.declaredType? = none →
      TakesType p (.name anyName)
  | single {d t} :
      p.isRest = false →
      p.declaredType? = some d →
      Denotes d t →
      TakesType p t
  | rest {d t} :
      p.isRest = true →
      p.declaredType? = some d →
      Denotes d (.applied arrayName [t]) →
      TakesType p t

/-- The type of a parameter as an argument of a function type: a rest parameter takes an array. -/
def TakesArgument (p : Node) (t : KotlinType) : Prop :=
  ∃ value, TakesType p value ∧
    t = if p.isRest then .applied arrayName [value] else value.nullableIf (p.hasPart "?")

/-- The type of the result of a callable. -/
inductive ReturnsType (n : Node) : KotlinType → Prop
  | none :
      n.child? .returnType = none →
      ReturnsType n (.name unitName)
  | annotated {clause d t} :
      n.child? .returnType = some clause →
      clause.kind = .typeClause →
      clause.firstNamed? = some d →
      Denotes d t →
      ReturnsType n t
  | bare {d t} :
      n.child? .returnType = some d →
      Denotes d t →
      ReturnsType n t

/-! ## Names of type nodes -/

namespace KotlinType

theorem text_applied (s : String) (ts : List KotlinType) :
    (applied s ts).text = (Template.applied s).fill (ts.map text) := by
  rw [text, textAll_eq_map, Template.fill]

theorem text_function (ts : List KotlinType) (result : KotlinType) :
    (function ts result).text = Template.arrow.fill ((ts ++ [result]).map text) := by
  rw [text, textAll_eq_map, Template.fill, List.map_append, List.map_singleton,
    List.dropLast_concat, List.getLast?_concat, Option.getD_some]

end KotlinType

theorem Translation.Gives.mapM_map {α β γ δ : Type} {f : α → Translation β} {g : β → δ}
    {k : γ → δ} {as : List α} {cs : List γ}
    (each : List.Forall₂ (fun a c => (f a).Gives fun b => g b = k c) as cs) :
    (as.mapM f).Gives fun bs => bs.map g = cs.map k := by
  induction each with
  | nil => exact gives_pure rfl
  | @cons a c as cs first _ ih =>
    rw [List.mapM_cons]
    refine first.bind fun b hb => ih.bind fun bs hbs => gives_pure ?_
    rw [List.map_cons, List.map_cons, hb, hbs]

namespace Node

variable {n : Node}

theorem expand_keyword {s : String} (h : n.kind.typeName? = some s) :
    n.expand.Gives (· = .name s) := by
  unfold expand
  generalize n.kind = kind at h
  cases kind <;> cases h <;> exact gives_pure rfl

theorem expand_array {element : Node} (kind : n.kind = .arrayType)
    (found : n.firstNamed? = some element) :
    n.expand.Gives (· = .compound (.applied arrayName) [.node element]) := by
  unfold expand
  rw [kind, found]
  exact gives_bind fun _ => gives_pure rfl

theorem expand_generic {name list : Node} {s : String} {args : List Node}
    (kind : n.kind = .genericType) (hname : n.child? .name = some name)
    (text : name.text = some s) (hlist : n.child? .typeArguments = some list)
    (alternate : Alternates (list.entries angles) args) :
    n.expand.Gives (· = .compound (.applied s) (args.map .node)) := by
  have payloads : list.payloads angles = args := alternate.evenPlaces_eq
  unfold expand
  rw [kind, hname, hlist]
  refine gives_bind fun _ => gives_bind fun _ => ?_
  simp only [read_of_text text, pure_bind, payloads]
  exact gives_bind fun _ => gives_pure rfl

theorem HasParameters.parameterOperands_eq {ps : List Node} (h : n.HasParameters ps) :
    n.parameterOperands = ps.map parameterOperand := by
  unfold parameterOperands
  cases h with
  | @listed list _ found alternate =>
    have payloads : list.payloads parentheses = ps := alternate.evenPlaces_eq
    rw [found]
    exact congrArg _ payloads
  | none found =>
    rw [found]
    rfl

theorem expand_function (kind : n.kind = .functionType) :
    n.expand.Gives (· = .compound .arrow (n.parameterOperands ++ [n.resultOperand])) := by
  unfold expand
  rw [kind]
  exact gives_bind fun _ => gives_bind fun _ => gives_bind fun _ => gives_pure rfl

/-- The name of a node, from what it is expanded to. -/
theorem typeName_of_expand {e : Expansion} {s : String} (expanded : n.expand.Gives (· = e))
    (named : e.typeName.Gives (· = s)) : n.typeName.Gives (· = s) := by
  rw [n.typeName_eq]
  refine expanded.bind ?_
  rintro _ rfl
  exact named

/-- A type node has the text of a type for its name. -/
structure Names (n : Node) (t : KotlinType) : Prop where
  name : n.typeName.Gives (· = t.text)
  wellNamed : t.WellNamed
  function : (n.kind == .functionType) = t.isFunction

end Node

/-- An operand has the text of a type for its name. -/
structure Operand.Names (o : Operand) (t : KotlinType) : Prop where
  name : o.typeName.Gives (· = t.text)
  wellNamed : t.WellNamed

theorem Node.Names.operand {n : Node} {t : KotlinType} (h : n.Names t) :
    (Operand.node n).Names t :=
  ⟨h.name, h.wellNamed⟩

theorem KotlinType.wellNamed_any : (name anyName).WellNamed := .name (by decide)

theorem KotlinType.wellNamed_unit : (name unitName).WellNamed := .name (by decide)

theorem KotlinType.wellNamed_array {t : KotlinType} (h : t.WellNamed) :
    (applied arrayName [t]).WellNamed := by
  refine .applied (by decide) (List.cons_ne_nil t []) fun a ha => ?_
  rw [List.mem_singleton.1 ha]
  exact h

/-- What holds for each pair of two lists holds for the second list. -/
theorem forall_of_forall₂ {α β : Type} {P : β → Prop} {as : List α} {bs : List β}
    (each : List.Forall₂ (fun _ b => P b) as bs) : ∀ b ∈ bs, P b := by
  induction each with
  | nil => exact nofun
  | cons first _ ih =>
    intro b hb
    rcases List.mem_cons.1 hb with rfl | hb
    · exact first
    · exact ih b hb

/-- An expansion stands for its template, filled with the texts of the types of its operands. -/
theorem typeName_compound {template : Template} {operands : List Operand} {ts : List KotlinType}
    (each : List.Forall₂ Operand.Names operands ts) :
    (Expansion.compound template operands).typeName.Gives
      (· = template.fill (ts.map KotlinType.text)) := by
  have names : (operands.mapM Operand.typeName).Gives (· = ts.map KotlinType.text) := by
    have mapped := Gives.mapM_map (g := id) (each.imp fun _ _ names => names.name)
    simpa only [List.map_id] using mapped
  exact names.map fun _ same => congrArg template.fill same

namespace Node

variable {n : Node}

theorem parameterOperand_names {p : Node} {t : KotlinType}
    (typed : ∀ d, p.declaredType? = some d → d.Names t)
    (untyped : p.declaredType? = none → t = .name anyName) : p.parameterOperand.Names t := by
  unfold parameterOperand
  split
  · next d declared => exact (typed d declared).operand
  · next declared =>
    rw [untyped declared]
    exact ⟨gives_pure rfl, KotlinType.wellNamed_any⟩

theorem resultOperand_names {t : KotlinType}
    (resulting : ∀ r, n.child? .returnType = some r → r.Names t)
    (unresulting : n.child? .returnType = none → t = .name unitName) :
    n.resultOperand.Names t := by
  unfold resultOperand
  split
  · next r declared => exact (resulting r declared).operand
  · next declared =>
    rw [unresulting declared]
    exact ⟨gives_pure rfl, KotlinType.wellNamed_unit⟩

theorem names_keyword {s : String} (keyword : n.kind.typeName? = some s) : n.Names (.name s) where
  name := typeName_of_expand (expand_keyword keyword) (gives_pure rfl)
  wellNamed := by
    generalize n.kind = kind at keyword
    cases kind <;> cases keyword <;> exact .name (by decide)
  function := by
    have other : n.kind ≠ .functionType := by
      intro kind
      rw [kind] at keyword
      cases keyword
    simpa [KotlinType.isFunction] using other

/-- A generic type with arguments that have the texts of types has the text of the type applied to
them. -/
theorem names_generic {name list : Node} {s : String} {args : List Node} {ts : List KotlinType}
    (kind : n.kind = .genericType) (hname : n.child? .name = some name)
    (text : name.text = some s) (isName : IsName s) (hlist : n.child? .typeArguments = some list)
    (alternate : Alternates (list.entries angles) args) (nonempty : args ≠ [])
    (each : List.Forall₂ Names args ts) : n.Names (.applied s ts) where
  name := by
    have operands : List.Forall₂ Operand.Names (args.map .node) ts :=
      List.forall₂_map_left_iff.2 (each.imp fun _ _ names => names.operand)
    rw [KotlinType.text_applied]
    exact typeName_of_expand (expand_generic kind hname text hlist alternate)
      (typeName_compound operands)
  wellNamed := by
    refine .applied isName ?_ (forall_of_forall₂ (each.imp fun _ _ names => names.wellNamed))
    rintro rfl
    exact nonempty (List.forall₂_nil_right_iff.1 each)
  function := by
    rw [kind]
    rfl

/-- A function type with parameters and a result that have the texts of types has the text of the
function between them. -/
theorem names_function {ps : List Node} {ts : List KotlinType} {result : KotlinType}
    (kind : n.kind = .functionType) (params : n.HasParameters ps)
    (each : List.Forall₂ (fun p t => p.parameterOperand.Names t) ps ts)
    (resulting : n.resultOperand.Names result) : n.Names (.function ts result) where
  name := by
    have operands : List.Forall₂ Operand.Names (n.parameterOperands ++ [n.resultOperand])
        (ts ++ [result]) := by
      rw [params.parameterOperands_eq]
      exact List.rel_append (List.forall₂_map_left_iff.2 each) (.cons resulting .nil)
    rw [KotlinType.text_function]
    exact typeName_of_expand (expand_function kind) (typeName_compound operands)
  wellNamed :=
    .function (forall_of_forall₂ (each.imp fun _ _ names => names.wellNamed)) resulting.wellNamed
  function := by
    rw [kind]
    rfl

end Node

/-- The name of a type node is the text of the type that it denotes. -/
theorem Denotes.names {n : Node} {t : KotlinType} (h : Denotes n t) : n.Names t := by
  induction h with
  | keyword keyword => exact Node.names_keyword keyword
  | @identifier n s kind text isName =>
    have named : n.typeName.Gives (· = s) := by
      rw [Node.typeName_identifier kind text]
      exact gives_bind fun _ => gives_pure rfl
    refine ⟨named, .name isName, ?_⟩
    rw [kind]
    rfl
  | @array n element t kind found _ ih =>
    refine ⟨?_, KotlinType.wellNamed_array ih.wellNamed, ?_⟩
    · rw [KotlinType.text_applied]
      exact Node.typeName_of_expand (Node.expand_array kind found)
        (typeName_compound (.cons ih.operand .nil))
    · rw [kind]
      rfl
  | generic kind hname text isName hlist alternate nonempty length _ ih =>
    have each := List.forall₂_iff_zip.2 ⟨length, fun {a t} pair => ih a t pair⟩
    exact Node.names_generic kind hname text isName hlist alternate nonempty each
  | function kind params length _ untyped _ unresulting ih ihResult =>
    have resulting := Node.resultOperand_names ihResult unresulting
    refine Node.names_function kind params (List.forall₂_iff_zip.2 ⟨length, ?_⟩) resulting
    intro p t pair
    exact Node.parameterOperand_names (fun d => ih p t d pair) (untyped p t pair)

end KotlinStubs
