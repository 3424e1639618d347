import KotlinStubs.Proofs.TypeGrammar
import KotlinStubs.Text.Basic

/-!
# Texts of types

`KotlinType.text` writes a type with as few parentheses as the grammar allows: only a nullable
function type needs them, since a mark behind it would belong to its result.

* `typeTokens_name`, `typeTokens_sign`: the tokens of a text, from its start.
* `HasTokens.sign`, `EndsTokens.append`: the tokens of texts put together, a name ends at a sign.
* `KotlinType.WellNamed.spelled`: the text of a type is a writing of it.
* `KotlinType.WellNamed.oneReading`: it is a writing of no other type.
-/

namespace KotlinStubs

/-- A name of the grammar: a text of characters that can stand in a name. -/
def IsName (s : String) : Prop := s ≠ "" ∧ s.toList.all isNameChar = true

instance (s : String) : Decidable (IsName s) := inferInstanceAs (Decidable (_ ∧ _))

/-- A text reads as one type only. -/
def OneReading (text : String) (t : KotlinType) : Prop := ∀ u, Reads text u ↔ u = t

namespace KotlinType

/-- Whether a type is a function type. -/
def isFunction : KotlinType → Bool
  | function _ _ => true
  | _ => false

mutual

/-- The text of a type. -/
def text : KotlinType → String
  | .name s => s
  | .applied s args => s ++ "<" ++ Text.join ", " (textAll args) ++ ">"
  | .function params result =>
    "(" ++ Text.join ", " (textAll params) ++ ") -> " ++ result.text
  | .nullable t => if t.isFunction then "(" ++ t.text ++ ")?" else t.text ++ "?"

/-- The texts of types. -/
def textAll : List KotlinType → List String
  | [] => []
  | t :: ts => t.text :: textAll ts

end

theorem textAll_eq_map (ts : List KotlinType) : textAll ts = ts.map text := by
  induction ts with
  | nil => rfl
  | cons t ts ih => rw [textAll, ih, List.map_cons]

/-- All names in the type are names of the grammar, and all lists of arguments have members. -/
inductive WellNamed : KotlinType → Prop
  | name {s} :
      IsName s →
      WellNamed (.name s)
  | applied {s args} :
      IsName s →
      args ≠ [] →
      (∀ a ∈ args, WellNamed a) →
      WellNamed (.applied s args)
  | function {params result} :
      (∀ p ∈ params, WellNamed p) →
      WellNamed result →
      WellNamed (.function params result)
  | nullable {t} :
      WellNamed t →
      WellNamed (.nullable t)

end KotlinType

/-! ## Tokens of a text -/

/-- What follows a name does not go on with it. -/
def Breaks (cs : List Char) : Prop := ∀ c ∈ cs.head?, isNameChar c = false

theorem breaks_nil : Breaks [] := nofun

theorem breaks_cons {c : Char} (h : isNameChar c = false) (cs : List Char) : Breaks (c :: cs) := by
  rintro _ ⟨⟩
  exact h

theorem typeTokens_sign {c : Char} {sign : TypeToken} (h : TypeToken.ofSign? c = some sign)
    (other : c ≠ '-') (cs : List Char) : typeTokens (c :: cs) = sign :: typeTokens cs := by
  rw [typeTokens]
  · simp only [h]
  · intro _ same
    exact absurd same other

theorem typeTokens_blank {c : Char} (h : Text.isWhiteSpace c = true)
    (sign : TypeToken.ofSign? c = none) (cs : List Char) :
    typeTokens (c :: cs) = typeTokens cs := by
  rw [typeTokens]
  · simp only [sign, h, if_true]
  · rintro _ rfl
    cases sign

theorem typeTokens_arrow (cs : List Char) :
    typeTokens ('-' :: '>' :: cs) = .arrow :: typeTokens cs := by
  rw [typeTokens]

/-- A character of a name starts no token of another kind. -/
theorem typeTokens_nameChar {c : Char} (h : isNameChar c = true) (cs : List Char) :
    typeTokens (c :: cs) =
      .name (String.ofList (c :: cs.takeWhile isNameChar)) ::
        typeTokens (cs.dropWhile isNameChar) := by
  rw [isNameChar, Bool.and_eq_true, Option.isNone_iff_eq_none, Bool.not_eq_true'] at h
  obtain ⟨sign, blank⟩ := h
  rw [typeTokens]
  · simp only [sign, blank, Bool.false_eq_true, if_false]
  · rintro _ rfl
    cases sign

/-- A name up to where it ends is one token. -/
theorem typeTokens_name {s : String} (h : IsName s) {cs : List Char} (breaks : Breaks cs) :
    typeTokens (s.toList ++ cs) = .name s :: typeTokens cs := by
  obtain ⟨nonempty, named⟩ := h
  have chars : ∀ c ∈ s.toList, isNameChar c = true := List.all_eq_true.1 named
  have taken : cs.takeWhile isNameChar = [] := by
    cases cs with
    | nil => rfl
    | cons c cs => exact List.takeWhile_cons_of_neg (by rw [breaks c rfl]; decide)
  have dropped : cs.dropWhile isNameChar = cs := by
    cases cs with
    | nil => rfl
    | cons c cs => exact List.dropWhile_cons_of_neg (by rw [breaks c rfl]; decide)
  cases split : s.toList with
  | nil => exact absurd (String.toList_eq_nil_iff.1 split) nonempty
  | cons c rest =>
    have first : isNameChar c = true := chars c (split ▸ List.mem_cons_self)
    have others : ∀ d ∈ rest, isNameChar d = true := fun d hd =>
      chars d (split ▸ List.mem_cons_of_mem c hd)
    rw [List.cons_append, typeTokens_nameChar first, List.takeWhile_append_of_pos others,
      List.dropWhile_append_of_pos others, taken, dropped, List.append_nil, ← split,
      String.ofList_toList]

/-- A text has these tokens, whatever it is followed by that does not go on with its last name. -/
def HasTokens (text : String) (us : List TypeToken) : Prop :=
  ∀ cs, Breaks cs → typeTokens (text.toList ++ cs) = us ++ typeTokens cs

/-- A text has these tokens, whatever it is followed by, as one that ends in a sign. -/
def EndsTokens (text : String) (us : List TypeToken) : Prop :=
  ∀ cs, typeTokens (text.toList ++ cs) = us ++ typeTokens cs

/-- A text has these tokens, whatever it is followed by, and ends a name in front of it. -/
structure IsSign (text : String) (us : List TypeToken) : Prop where
  tokens : EndsTokens text us
  breaks : ∀ cs, Breaks (text.toList ++ cs)

section

variable {s t : String} {us vs : List TypeToken}

theorem IsName.hasTokens (h : IsName s) : HasTokens s [.name s] :=
  fun _ breaks => typeTokens_name h breaks

theorem EndsTokens.hasTokens (h : EndsTokens s us) : HasTokens s us := fun cs _ => h cs

theorem HasTokens.typeTokens_eq (h : HasTokens s us) : typeTokens s.toList = us := by
  have whole := h [] breaks_nil
  rwa [List.append_nil, typeTokens, List.append_nil] at whole

theorem HasTokens.sign (hs : HasTokens s us) (ht : IsSign t vs) : EndsTokens (s ++ t) (us ++ vs) := by
  intro cs
  rw [String.toList_append, List.append_assoc, hs _ (ht.breaks cs), ht.tokens, List.append_assoc]

theorem EndsTokens.append (hs : EndsTokens s us) (ht : HasTokens t vs) :
    HasTokens (s ++ t) (us ++ vs) := by
  intro cs breaks
  rw [String.toList_append, List.append_assoc, hs, ht cs breaks, List.append_assoc]

/-! ### Signs -/

theorem isSign_char {c : Char} {sign : TypeToken} (text : s.toList = [c])
    (h : TypeToken.ofSign? c = some sign) (other : c ≠ '-') : IsSign s [sign] := by
  have plain : isNameChar c = false := by
    rw [isNameChar, h]
    rfl
  refine ⟨fun cs => ?_, fun cs => ?_⟩
  · rw [text]
    exact typeTokens_sign h other cs
  · rw [text]
    exact breaks_cons plain cs

theorem isSign_comma : IsSign ", " [.comma] := by
  refine ⟨fun cs => ?_, fun cs => breaks_cons (by decide) _⟩
  have blank := typeTokens_blank (c := ' ') (by decide) (by decide) cs
  exact (typeTokens_sign rfl (by decide) _).trans (congrArg _ blank)

theorem isSign_group : IsSign ")?" [.rparen, .question] := by
  refine ⟨fun cs => ?_, fun cs => breaks_cons (by decide) _⟩
  have question := typeTokens_sign (c := '?') rfl (by decide) cs
  exact (typeTokens_sign rfl (by decide) _).trans (congrArg _ question)

theorem isSign_arrow : IsSign ") -> " [.rparen, .arrow] := by
  refine ⟨fun cs => ?_, fun cs => breaks_cons (by decide) _⟩
  have last := typeTokens_blank (c := ' ') (by decide) (by decide) cs
  have first := typeTokens_blank (c := ' ') (by decide) (by decide) ('-' :: '>' :: ' ' :: cs)
  have arrow : typeTokens (' ' :: '-' :: '>' :: ' ' :: cs) = .arrow :: typeTokens cs := by
    rw [first, typeTokens_arrow, last]
  exact (typeTokens_sign rfl (by decide) _).trans (congrArg _ arrow)

/-! ### Composite types -/

theorem HasTokens.comma (hs : HasTokens s us) (ht : HasTokens t vs) :
    HasTokens (s ++ ", " ++ t) (us ++ .comma :: vs) := by
  have tokens := (hs.sign isSign_comma).append ht
  rwa [List.append_assoc] at tokens

theorem HasTokens.arguments (hs : IsName s) (ht : HasTokens t us) :
    HasTokens (s ++ "<" ++ t ++ ">") (.name s :: .langle :: (us ++ [.rangle])) := by
  have langle : IsSign "<" [.langle] := isSign_char rfl rfl (by decide)
  have rangle : IsSign ">" [.rangle] := isSign_char rfl rfl (by decide)
  exact (((hs.hasTokens.sign langle).append ht).sign rangle).hasTokens

theorem HasTokens.arrow (hs : HasTokens s us) (ht : HasTokens t vs) :
    HasTokens ("(" ++ s ++ ") -> " ++ t) (.lparen :: (us ++ .rparen :: .arrow :: vs)) := by
  have lparen : IsSign "(" [.lparen] := isSign_char rfl rfl (by decide)
  have tokens := ((lparen.tokens.append hs).sign isSign_arrow).append ht
  rwa [List.append_assoc] at tokens

theorem HasTokens.question (hs : HasTokens s us) : HasTokens (s ++ "?") (us ++ [.question]) :=
  (hs.sign (isSign_char rfl rfl (by decide))).hasTokens

theorem HasTokens.group (hs : HasTokens s us) :
    HasTokens ("(" ++ s ++ ")?") (.lparen :: (us ++ [.rparen]) ++ [.question]) := by
  have lparen : IsSign "(" [.lparen] := isSign_char rfl rfl (by decide)
  have tokens := ((lparen.tokens.append hs).sign isSign_group).hasTokens
  rwa [List.singleton_append, List.cons_append, List.append_cons] at tokens

end

/-! ## Texts of types -/

/-- The tokens of a text spell a type, and what can be marked if it is no function type. -/
structure Spelled (text : String) (t : KotlinType) (us : List TypeToken) : Prop where
  tokens : HasTokens text us
  type : Spells us (.type t)
  operand : t.isFunction = false → Spells us (.operand t)

/-- The texts of types with commas between them. -/
theorem exists_spelled_types {ts : List KotlinType} (nonempty : ts ≠ [])
    (each : ∀ t ∈ ts, ∃ us, Spelled t.text t us) :
    ∃ us, HasTokens (Text.join ", " (ts.map KotlinType.text)) us ∧ Spells us (.types ts) := by
  induction ts with
  | nil => exact absurd rfl nonempty
  | cons t ts ih =>
    obtain ⟨us, spelled⟩ := each t List.mem_cons_self
    cases ts with
    | nil => exact ⟨us, spelled.tokens, .last spelled.type⟩
    | cons t' ts =>
      have others := ih (List.cons_ne_nil t' ts) fun t ht => each t (List.mem_cons_of_mem _ ht)
      obtain ⟨vs, tokens, types⟩ := others
      exact ⟨us ++ .comma :: vs, spelled.tokens.comma tokens, .more spelled.type types⟩

/-- The text of a type is a writing of it. -/
theorem KotlinType.WellNamed.spelled {t : KotlinType} (h : t.WellNamed) :
    ∃ us, Spelled t.text t us := by
  induction h with
  | @name s isName => exact ⟨[.name s], isName.hasTokens, .operand .name, fun _ => .name⟩
  | @applied s args isName nonempty _ ih =>
    obtain ⟨us, tokens, types⟩ := exists_spelled_types nonempty ih
    rw [text, textAll_eq_map]
    have operand : Spells (.name s :: .langle :: (us ++ [.rangle])) (.operand (.applied s args)) :=
      .applied types
    exact ⟨_, .arguments isName tokens, .operand operand, fun _ => operand⟩
  | @function params result _ _ ih ihResult =>
    obtain ⟨vs, spelled⟩ := ihResult
    have listed : ∃ us, HasTokens (Text.join ", " (params.map text)) us ∧
        Spells us (.params params) := by
      cases params with
      | nil => exact ⟨[], fun _ _ => rfl, .noParams⟩
      | cons p params =>
        obtain ⟨us, tokens, types⟩ := exists_spelled_types (List.cons_ne_nil p params) ih
        exact ⟨us, tokens, .someParams types⟩
    obtain ⟨us, tokens, types⟩ := listed
    rw [text, textAll_eq_map]
    exact ⟨_, tokens.arrow spelled.tokens, .function types spelled.type, nofun⟩
  | @nullable t _ ih =>
    obtain ⟨us, spelled⟩ := ih
    rw [text]
    split
    · next function =>
      have operand := Spells.nullable (.group spelled.type)
      exact ⟨_, spelled.tokens.group, .operand operand, fun _ => operand⟩
    · next other =>
      have operand := (spelled.operand (Bool.eq_false_iff.2 other)).nullable
      exact ⟨_, spelled.tokens.question, .operand operand, fun _ => operand⟩

/-- **Unique reading.** The text of a type is a writing of this type and of no other. -/
theorem KotlinType.WellNamed.oneReading {t : KotlinType} (h : t.WellNamed) :
    OneReading t.text t := by
  obtain ⟨us, spelled⟩ := h.spelled
  intro u
  rw [Reads, spelled.tokens.typeTokens_eq]
  constructor
  · intro reads
    exact reads.unique spelled.type
  · rintro rfl
    exact spelled.type

example : (KotlinType.nullable (.function [.name "A"] (.nullable (.name "B")))).text =
    "((A) -> B?)?" := rfl

end KotlinStubs
