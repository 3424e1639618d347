import Mathlib.Data.List.ReduceOption
import Mathlib.Logic.Basic
import KotlinStubs.Proofs.StatementForms

/-!
# Escaping of names

Settings act on a translation by the names in its outcome only: each name of a declaration or
parameter is escaped once, and nothing else depends on which names need escaping.

Up to signatures the translation under some settings is that without escaping, with the names
escaped afterwards.  Above them the events of the two may differ, as an event can tell the name of a
declaration, and `Renames f x y` says that the outcomes agree up to `f`.

* `Settings.escapeFile`: the file with its names escaped.
* `Renames.bind`, `Renames.mapM`, `Renames.rescue`: composite translations.
* `Node.renames_statement`: statements, at every depth.
* `translate_eq_escapeFile`: files.
-/

namespace KotlinStubs

open Translation

/-! ## Escaped descriptors -/

namespace Settings

variable (σ : Settings)

/-- The settings under which no name needs escaping. -/
def withoutEscaping : Settings := { σ with reservedWords := [], escapeMarkers := [] }

/-- The parameter with its name escaped. -/
def escapeParam (p : FunParam) : FunParam := { p with name := σ.escape p.name }

/-- The signature with the names of its parameters escaped. -/
def escapeSignature (s : CallSignature) : CallSignature :=
  { s with params := s.params.map σ.escapeParam }

mutual

/-- The declaration with its names escaped, at every depth.  A namespace keeps its name. -/
def escapeDeclaration : Declaration → Declaration
  | ⟨kind, name, line, signature, type, typeParams, isVar, members⟩ =>
    ⟨kind, if kind = .nameSpace then name else σ.escape name, line,
      signature.map σ.escapeSignature, type, typeParams, isVar, escapeAll members⟩

/-- The declarations with their names escaped. -/
def escapeAll : List Declaration → List Declaration
  | [] => []
  | d :: ds => escapeDeclaration d :: escapeAll ds

end

/-- The file with its names escaped. -/
def escapeFile (file : TranslatedFile) : TranslatedFile :=
  { file with declarations := file.declarations.map σ.escapeDeclaration }

theorem escapeAll_eq_map (ds : List Declaration) :
    σ.escapeAll ds = ds.map σ.escapeDeclaration := by
  induction ds with
  | nil => rfl
  | cons d ds ih => rw [escapeAll, ih, List.map_cons]

theorem escapeDeclaration_kind (d : Declaration) : (σ.escapeDeclaration d).kind = d.kind := by
  cases d
  rfl

theorem escape_withoutEscaping (name : String) : σ.withoutEscaping.escape name = name := by
  have plain : σ.withoutEscaping.needsEscaping name = false := rfl
  rw [escape, plain, if_neg Bool.false_ne_true]

/-- The name of a string literal is escaped without its quotes. -/
theorem unquote_eq (literal : String) :
    σ.unquote literal = σ.escape (σ.withoutEscaping.unquote literal) := by
  rw [unquote, unquote, escape_withoutEscaping]

/-- Namespaces are told from other declarations before and after their names are escaped. -/
theorem map_namespaceOf (name : String) (line : Nat) (body : List Declaration) :
    (Node.namespaceOf name line body).map σ.escapeDeclaration =
      Node.namespaceOf name line (body.map σ.escapeDeclaration) := by
  have other : (fun d : Declaration => (σ.escapeDeclaration d).kind != .nameSpace) =
      fun d => d.kind != .nameSpace := by
    funext d
    rw [escapeDeclaration_kind]
  have nested : (fun d : Declaration => (σ.escapeDeclaration d).kind == .nameSpace) =
      fun d => d.kind == .nameSpace := by
    funext d
    rw [escapeDeclaration_kind]
  simp only [Node.namespaceOf, List.map_cons, escapeDeclaration, escapeAll_eq_map, if_true,
    List.filter_map, Function.comp_def, other, nested, Option.map_none]

end Settings

/-! ## Outcomes up to names -/

namespace Translation

variable {α α' β β' : Type}

/-- The outcome of `y` is that of `x` with its result mapped. -/
structure Renames (f : α → β) (x : Translation α) (y : Translation β) : Prop where
  result : y.result = x.result.map f
  rejections : y.rejections = x.rejections

theorem renames_pure {f : α → β} {a : α} {b : β} (h : b = f a) :
    Renames f (pure a) (pure b) := by
  rw [h]
  exact ⟨rfl, rfl⟩

theorem renames_map (f : α → β) (x : Translation α) : Renames f x (f <$> x) := by
  rw [map_eq_pure_bind]
  cases h : x.result with
  | error e =>
    rw [bind_error h]
    exact ⟨by rw [h]; rfl, rfl⟩
  | ok a =>
    rw [bind_ok h]
    exact ⟨by rw [h]; rfl, List.append_nil _⟩

/-- A translation that gives what a map leaves alone. -/
theorem renames_self {f : α → α} {x : Translation α} (h : x.Gives fun a => f a = a) :
    Renames f x x := by
  refine ⟨?_, rfl⟩
  cases hx : x.result with
  | error e => rfl
  | ok a =>
    have same := h a hx
    rw [Except.map, same]

theorem Renames.bind {f : α → α'} {g : β → β'} {x : Translation α} {y : Translation α'}
    {k : α → Translation β} {k' : α' → Translation β'} (h : Renames f x y)
    (hk : ∀ a, Renames g (k a) (k' (f a))) : Renames g (x >>= k) (y >>= k') := by
  have result := h.result
  cases hx : x.result with
  | error e =>
    rw [hx] at result
    rw [bind_error hx, bind_error result]
    exact ⟨rfl, h.rejections⟩
  | ok a =>
    rw [hx] at result
    rw [bind_ok hx, bind_ok result]
    exact ⟨(hk a).result, congrArg₂ (· ++ ·) h.rejections (hk a).rejections⟩

/-- Both go on after the same translation. -/
theorem Renames.bind_same {g : β → β'} (x : Translation α) {k : α → Translation β}
    {k' : α → Translation β'} (hk : ∀ a, Renames g (k a) (k' a)) :
    Renames g (x >>= k) (x >>= k') :=
  (renames_self (f := id) fun _ _ => rfl).bind hk

theorem Renames.map {f : α → α'} {g : β → β'} {x : Translation α} {y : Translation α'}
    (h : Renames f x y) {k : α → β} {k' : α' → β'} (hk : ∀ a, k' (f a) = g (k a)) :
    Renames g (k <$> x) (k' <$> y) := by
  rw [map_eq_pure_bind, map_eq_pure_bind]
  exact h.bind fun a => renames_pure (hk a)

theorem Renames.mapM {g : β → β'} {k : α → Translation β} {k' : α → Translation β'}
    (h : ∀ a, Renames g (k a) (k' a)) (as : List α) :
    Renames (List.map g) (as.mapM k) (as.mapM k') := by
  induction as with
  | nil => exact renames_pure rfl
  | cons a as ih =>
    rw [List.mapM_cons, List.mapM_cons]
    exact (h a).bind fun b => ih.bind fun bs => renames_pure rfl

theorem Renames.collect {g : β → β'} {k : α → Translation (List β)}
    {k' : α → Translation (List β')} {as : List α}
    (h : ∀ a ∈ as, Renames (List.map g) (k a) (k' a)) :
    Renames (List.map g) (collect k as) (collect k' as) := by
  induction as with
  | nil => exact renames_pure rfl
  | cons a as ih =>
    have first := h a List.mem_cons_self
    have others := ih fun b hb => h b (List.mem_cons_of_mem a hb)
    rw [collect_cons, collect_cons]
    exact first.bind fun bs => others.bind fun bs' => renames_pure List.map_append.symm

/-- Where the outcomes correspond, so do the faults; so both are rescued or neither is. -/
theorem Renames.rescue {f : α → β} {x : Translation α} {y : Translation β}
    {recover : Fault → Nat → Translation α} {recover' : Fault → Nat → Translation β}
    (h : Renames f x y) (hr : ∀ e line, Renames f (recover e line) (recover' e line)) :
    Renames f (x.rescue recover) (y.rescue recover') := by
  have result := h.result
  rcases x.ok_or_aborts_or_line with ⟨a, ha⟩ | ⟨e, he, ends⟩ | ⟨e, line, he, hl⟩
  · rw [ha] at result
    rw [rescue_ok ha, rescue_ok result]
    exact h
  · rw [he] at result
    rw [rescue_aborts ⟨e, he, ends⟩, rescue_aborts ⟨e, result, ends⟩]
    exact h
  · rw [he] at result
    rw [rescue_line he hl, rescue_line result hl]
    have recovered := hr e line
    exact ⟨recovered.result, congrArg₂ (· ++ ·) h.rejections recovered.rejections⟩

end Translation

/-! ## Parameters and signatures -/

/-- Results of a list of translations can be mapped afterwards. -/
theorem mapM_map_result {α β γ : Type} (f : α → Translation β) (g : β → γ) (as : List α) :
    (as.mapM fun a => g <$> f a) = List.map g <$> as.mapM f := by
  induction as with
  | nil => rw [List.mapM_nil, List.mapM_nil, map_pure, List.map_nil]
  | cons a as ih =>
    simp only [List.mapM_cons, ih, bind_map_left, map_bind, map_pure, List.map_cons]

namespace Node

variable (σ : Settings) (n : Node)

theorem kotlinName_eq : n.kotlinName σ = σ.escape <$> n.kotlinName σ.withoutEscaping := by
  unfold kotlinName
  rw [map_bind]
  refine bind_congr fun text => ?_
  split
  · rw [map_pure, σ.unquote_eq]
  · rw [map_pure, σ.escape_withoutEscaping]

theorem parameterName_eq : n.parameterName σ = σ.escape <$> n.parameterName σ.withoutEscaping := by
  unfold parameterName
  rw [map_bind]
  refine bind_congr fun _ => ?_
  split
  · rw [map_bind]
    exact bind_congr fun _ => kotlinName_eq σ _
  · simp only [map_bind, map_pure, σ.escape_withoutEscaping]

theorem parameter_eq : n.parameter σ = σ.escapeParam <$> n.parameter σ.withoutEscaping := by
  unfold parameter
  simp only [parameterName_eq σ n, map_bind, bind_map_left, map_pure]
  rfl

theorem parameterList_eq :
    n.parameterList σ = List.map σ.escapeParam <$> n.parameterList σ.withoutEscaping := by
  have each : parameter σ = fun p => σ.escapeParam <$> p.parameter σ.withoutEscaping :=
    funext (parameter_eq σ)
  unfold parameterList
  rw [map_bind, each]
  exact bind_congr fun _ => mapM_map_result _ _ _

theorem callParameters_eq :
    n.callParameters σ = List.map σ.escapeParam <$> n.callParameters σ.withoutEscaping := by
  unfold callParameters
  rw [map_bind]
  refine bind_congr fun _ => ?_
  split
  · exact parameterList_eq σ _
  · rw [map_pure, List.map_nil]

theorem callSignature_eq :
    n.callSignature σ = σ.escapeSignature <$> n.callSignature σ.withoutEscaping := by
  unfold callSignature
  simp only [callParameters_eq σ n, map_bind, bind_map_left, map_pure]
  rfl

/-! ## Members -/

/-- An optional method is written without the names of its parameters. -/
theorem lambdaText_escapeSignature (s : CallSignature) :
    (σ.escapeSignature s).lambdaText = s.lambdaText := by
  have each : FunParam.lambdaText ∘ σ.escapeParam = FunParam.lambdaText := rfl
  rw [CallSignature.lambdaText, Settings.escapeSignature, List.map_map, each]
  rfl

theorem renames_noteDropped (name name' : String) (line : Nat) (s : CallSignature) :
    Renames id (noteDropped name line s) (noteDropped name' line (σ.escapeSignature s)) := by
  have same : (σ.escapeSignature s).typeParams = s.typeParams := rfl
  unfold noteDropped
  rw [same]
  split
  · exact renames_pure rfl
  · exact ⟨rfl, rfl⟩

theorem renames_method (name : Node) :
    Renames σ.escapeDeclaration (n.method σ.withoutEscaping name) (n.method σ name) := by
  unfold method
  rw [callSignature_eq σ n, kotlinName_eq σ name]
  refine (renames_map _ _).bind fun s => (renames_map _ _).bind fun text => ?_
  refine .bind_same _ fun _ => ?_
  split
  · refine (renames_noteDropped σ _ _ _ s).bind fun _ => renames_pure ?_
    rw [lambdaText_escapeSignature]
    rfl
  · exact renames_pure rfl

theorem property_eq (name : Node) :
    n.property σ name = σ.escapeDeclaration <$> n.property σ.withoutEscaping name := by
  unfold property
  simp only [kotlinName_eq σ name, map_bind, bind_map_left, map_pure]
  rfl

theorem renames_property (name : Node) :
    Renames σ.escapeDeclaration (n.property σ.withoutEscaping name) (n.property σ name) := by
  rw [property_eq σ n name]
  exact renames_map _ _

theorem renames_interfaceMember : Renames (Option.map σ.escapeDeclaration)
    (n.interfaceMember σ.withoutEscaping) (n.interfaceMember σ) := by
  unfold interfaceMember
  refine .bind_same _ fun _ => ?_
  split
  · exact (renames_method σ n _).map fun _ => rfl
  · exact (renames_property σ n _).map fun _ => rfl
  · exact .bind_same _ fun _ => renames_pure rfl

theorem renames_namedClassMember (name : Node) : Renames (Option.map σ.escapeDeclaration)
    (n.namedClassMember σ.withoutEscaping name) (n.namedClassMember σ name) := by
  unfold namedClassMember
  refine .bind_same _ fun hidden => ?_
  split
  · exact .bind_same _ fun _ => .bind_same _ fun _ => renames_pure rfl
  · split
    · exact (renames_method σ n _).map fun _ => rfl
    · exact (renames_property σ n _).map fun _ => rfl
    · exact .bind_same _ fun _ => renames_pure rfl

theorem renames_classMember : Renames (Option.map σ.escapeDeclaration)
    (n.classMember σ.withoutEscaping) (n.classMember σ) := by
  unfold classMember
  refine .bind_same _ fun _ => .bind_same _ fun _ => ?_
  split
  · exact .bind_same _ fun _ => renames_pure rfl
  · refine .bind_same _ fun text => ?_
    split
    · exact .bind_same _ fun _ => renames_pure rfl
    · exact renames_namedClassMember σ n _

/-! ## Statements -/

theorem renames_functionStatement : Renames (List.map σ.escapeDeclaration)
    (n.functionStatement σ.withoutEscaping) (n.functionStatement σ) := by
  unfold functionStatement
  refine .bind_same _ fun _ => ?_
  split
  · exact renames_pure rfl
  · next name _ =>
    rw [kotlinName_eq σ name, callSignature_eq σ n]
    exact (renames_map _ _).bind fun _ => (renames_map _ _).bind fun _ => renames_pure rfl

theorem renames_declarator (isVar : Bool) : Renames (List.map σ.escapeDeclaration)
    (n.declarator σ.withoutEscaping isVar) (n.declarator σ isVar) := by
  unfold declarator
  split
  · refine .bind_same _ fun _ => ?_
    split
    · exact renames_pure rfl
    · next name _ =>
      rw [kotlinName_eq σ name]
      exact (renames_map _ _).bind fun _ => .bind_same _ fun _ => renames_pure rfl
  · exact ⟨rfl, rfl⟩

theorem renames_variablesStatement : Renames (List.map σ.escapeDeclaration)
    (n.variablesStatement σ.withoutEscaping) (n.variablesStatement σ) := by
  unfold variablesStatement
  refine .bind_same _ fun _ => ?_
  have lists := Renames.mapM fun d => renames_declarator σ d (!n.hasPart "const")
  exact (lists (n.payloads declaratorDelimiters)).bind fun _ => renames_pure List.map_flatten.symm

/-- The names of an interface or class are escaped if those of its members are. -/
theorem renames_containerStatement {member member' : Node → Translation (Option Declaration)}
    (hm : ∀ m, Renames (Option.map σ.escapeDeclaration) (member m) (member' m))
    (kind : DeclarationKind) (container : kind ≠ .nameSpace) :
    Renames (List.map σ.escapeDeclaration)
      (n.containerStatement σ.withoutEscaping kind member)
      (n.containerStatement σ kind member') := by
  have members : Renames (List.map (Option.map σ.escapeDeclaration)) (n.bodyMembers member)
      (n.bodyMembers member') := by
    unfold bodyMembers
    split
    · exact .bind_same _ fun _ => Renames.mapM hm _
    · exact renames_pure rfl
  unfold containerStatement
  refine .bind_same _ fun _ => ?_
  split
  · exact renames_pure rfl
  · next name _ =>
    rw [kotlinName_eq σ name]
    refine .bind_same _ fun _ => .bind_same _ fun _ => members.bind fun ms => ?_
    refine (renames_map _ _).bind fun text => .bind_same _ fun typeParams => renames_pure ?_
    rw [List.map_singleton, Settings.escapeDeclaration, if_neg container, Settings.escapeAll_eq_map,
      List.reduceOption_map]
    rfl

/-- The statements that hold no others. -/
theorem renames_plainStatement {x : Translation (List Declaration)}
    (h : n.plainStatement? σ = some x) : ∃ y, n.plainStatement? σ.withoutEscaping = some y ∧
      Renames (List.map σ.escapeDeclaration) y x := by
  unfold plainStatement? at h ⊢
  split at h
  · cases h
    exact ⟨_, rfl, renames_functionStatement σ n⟩
  · cases h
    exact ⟨_, rfl, renames_variablesStatement σ n⟩
  · cases h
    exact ⟨_, rfl, renames_containerStatement σ n (renames_interfaceMember σ) _ (by decide)⟩
  · cases h
    exact ⟨_, rfl, renames_containerStatement σ n (renames_classMember σ) _ (by decide)⟩
  · cases h

section

variable {σ n} {scope : Scope}

/-- A statement that is left out is left out alike: its entry has the name that the source writes. -/
theorem renames_scanned (h : Renames (List.map σ.escapeDeclaration)
    (n.statement σ.withoutEscaping scope) (n.statement σ scope)) :
    Renames (List.map σ.escapeDeclaration) (n.scanned σ.withoutEscaping scope)
      (n.scanned σ scope) := by
  refine h.rescue fun e line => renames_self fun ds hds => ?_
  obtain ⟨rfl, -⟩ := rejectStatement_eq_ok hds
  exact List.map_nil

/-- A namespace has no name to escape; those in it are escaped if those of its statements are. -/
theorem renames_namespaceStatement
    (ih : ∀ m : Node, sizeOf m < sizeOf n → ∀ scope, Renames (List.map σ.escapeDeclaration)
      (m.statement σ.withoutEscaping scope) (m.statement σ scope)) :
    Renames (List.map σ.escapeDeclaration) (n.namespaceStatement σ.withoutEscaping scope)
      (n.namespaceStatement σ scope) := by
  rw [namespaceStatement_eq, namespaceStatement_eq]
  refine .bind_same _ fun _ => .bind_same _ fun _ => ?_
  split
  · next name body hname hbody =>
    split
    · exact .bind_same _ fun _ => .bind_same _ fun _ => renames_pure rfl
    · refine .bind_same _ fun text => .bind_same _ fun _ => ?_
      have inner : Renames (List.map σ.escapeDeclaration)
          (collect (scanned σ.withoutEscaping (scope.enter text)) body.namedParts)
          (collect (scanned σ (scope.enter text)) body.namedParts) := by
        refine .collect fun m hm => renames_scanned (ih m ?_ _)
        exact Nat.lt_trans (sizeOf_lt_of_mem_namedParts hm) (sizeOf_lt_of_child? hbody)
      exact inner.bind fun _ => renames_pure (σ.map_namespaceOf _ _ _).symm
  · exact renames_pure rfl

/-- A statement gives the same declarations and entries under any settings, up to names. -/
theorem renames_statement (n : Node) (scope : Scope) : Renames (List.map σ.escapeDeclaration)
    (n.statement σ.withoutEscaping scope) (n.statement σ scope) := by
  induction n using sizeInduction generalizing scope with
  | step n ih =>
    cases form : StatementForm.ofType n.type with
    | exported =>
      rw [statement_exported form, statement_exported form]
      refine .bind_same _ fun _ => ?_
      split
      · next inner found => exact ih inner (sizeOf_lt_of_child? found) scope
      · exact .bind_same _ fun _ => renames_pure rfl
    | ambient =>
      rw [statement_ambient form, statement_ambient form]
      refine .bind_same _ fun _ => .collect fun m hm => ?_
      exact ih m (sizeOf_lt_of_mem_namedParts hm) scope
    | expression =>
      rw [statement_expression form, statement_expression form]
      refine .bind_same _ fun _ => ?_
      split
      · next inner found =>
        split
        · exact ih inner (sizeOf_lt_of_firstNamed? found) scope
        · exact .bind_same _ fun _ => renames_pure rfl
      · exact .bind_same _ fun _ => renames_pure rfl
    | function | declarators | interfaceBlock | classBlock =>
      obtain ⟨x, plain⟩ := exists_plainStatement σ (n := n) (by rw [form]; decide)
      obtain ⟨y, plain', renames⟩ := renames_plainStatement σ n plain
      rw [statement_plain plain, statement_plain plain']
      exact renames
    | namespaceBlock =>
      rw [statement_namespace form, statement_namespace form]
      exact renames_namespaceStatement ih
    | other =>
      rw [statement_other form, statement_other form]
      exact .bind_same _ fun _ => .bind_same _ fun _ => renames_pure rfl

theorem renames_scanFile (path : String) (root : Node) : Renames (List.map σ.escapeDeclaration)
    (root.scanFile σ.withoutEscaping path) (root.scanFile σ path) := by
  rw [scanFile_eq, scanFile_eq]
  refine .bind_same _ fun _ => .bind_same _ fun _ => .collect fun m _ => ?_
  exact renames_scanned (renames_statement m _)

end

end Node

/-- **Escaping.** Under any settings a file has the outcome that it has without escaping, with every
name of a declaration other than a namespace and every name of a parameter escaped once. -/
theorem translate_eq_escapeFile (σ : Settings) (path : String) (root : Node) :
    translate σ path root = (translate σ.withoutEscaping path root).map σ.escapeFile := by
  have renames : Renames (List.map σ.escapeDeclaration)
      (root.scanFile σ.withoutEscaping path) (root.scanFile σ path) :=
    Node.renames_scanFile path root
  simp only [translate, renames.result, renames.rejections]
  cases (root.scanFile σ.withoutEscaping path).result with
  | error e => rfl
  | ok ds => rfl

end KotlinStubs
