import Mathlib.Data.List.Basic
import KotlinStubs.Text.Basic

/-!
# Grammar of types

The types of Kotlin as they are written: a name, a name with arguments between angle brackets, a
type in parentheses, a nullable type, marked `?`, and a function type.  The mark binds tighter than
the arrow, and the arrow extends to the right as far as possible.

`Spells us p` says that the tokens `us` are a phrase `p` of the grammar.  Both angle brackets and
arrows end in `>`, and both types in parentheses and function types start with `(`; all the same the
grammar is unambiguous, since what follows a type cannot be a part of it (`Stops`).

* `Spells.shape`: the four shapes of a type, the marks taken off.
* `typeUnique_of_below`, `typesUnique_of_below`: what shorter phrases determine.
* `Spells.unique`: tokens spell one type at most.
-/

namespace KotlinStubs

/-- A type of Kotlin. -/
inductive KotlinType where
  | name (text : String)
  /-- `name<a, b>` -/
  | applied (name : String) (args : List KotlinType)
  /-- `(a, b) -> r` -/
  | function (params : List KotlinType) (result : KotlinType)
  /-- `t?` -/
  | nullable (type : KotlinType)

/-- A word or sign in a type. -/
inductive TypeToken where
  | name (text : String)
  | langle
  | rangle
  | lparen
  | rparen
  | comma
  | question
  | arrow
  | dash
  deriving DecidableEq

/-- The signs of one character. -/
def TypeToken.ofSign? : Char → Option TypeToken
  | '<' => some langle
  | '>' => some rangle
  | '(' => some lparen
  | ')' => some rparen
  | ',' => some comma
  | '?' => some question
  | '-' => some dash
  | _ => none

/-- Whether a character can stand in a name: it is neither a sign nor white space. -/
def isNameChar (c : Char) : Bool := (TypeToken.ofSign? c).isNone && !Text.isWhiteSpace c

/-- The tokens of a text.  A name extends as far as possible; white space separates. -/
def typeTokens : List Char → List TypeToken
  | [] => []
  | '-' :: '>' :: cs => .arrow :: typeTokens cs
  | c :: cs =>
    match TypeToken.ofSign? c with
    | some sign => sign :: typeTokens cs
    | none =>
      if Text.isWhiteSpace c then
        typeTokens cs
      else
        .name (String.ofList (c :: cs.takeWhile isNameChar)) :: typeTokens (cs.dropWhile isNameChar)
termination_by cs => cs.length
decreasing_by
  · simp only [List.length_cons]
    omega
  · exact Nat.lt_succ_self _
  · exact Nat.lt_succ_self _
  · exact Nat.lt_succ_of_le (List.dropWhile_sublist _).length_le

/-- A phrase of the grammar, with what it stands for. -/
inductive Phrase where
  /-- a type that can be marked -/
  | operand (t : KotlinType)
  | type (t : KotlinType)
  /-- one type or more, with commas between them -/
  | types (ts : List KotlinType)
  /-- the parameters of a function type -/
  | params (ts : List KotlinType)

/-- The grammar. -/
inductive Spells : List TypeToken → Phrase → Prop
  | name {text} :
      Spells [.name text] (.operand (.name text))
  | applied {text us args} :
      Spells us (.types args) →
      Spells (.name text :: .langle :: (us ++ [.rangle])) (.operand (.applied text args))
  | group {us t} :
      Spells us (.type t) →
      Spells (.lparen :: (us ++ [.rparen])) (.operand t)
  | nullable {us t} :
      Spells us (.operand t) →
      Spells (us ++ [.question]) (.operand (.nullable t))
  | operand {us t} :
      Spells us (.operand t) →
      Spells us (.type t)
  | function {us vs ts result} :
      Spells us (.params ts) →
      Spells vs (.type result) →
      Spells (.lparen :: (us ++ .rparen :: .arrow :: vs)) (.type (.function ts result))
  | last {us t} :
      Spells us (.type t) →
      Spells us (.types [t])
  | more {us vs t ts} :
      Spells us (.type t) →
      Spells vs (.types ts) →
      Spells (us ++ .comma :: vs) (.types (t :: ts))
  | noParams :
      Spells [] (.params [])
  | someParams {us ts} :
      Spells us (.types ts) →
      Spells us (.params ts)

/-- A text is a writing of a type. -/
def Reads (text : String) (t : KotlinType) : Prop := Spells (typeTokens text.toList) (.type t)

/-! ## Shapes of types -/

/-- The marks behind a type. -/
def marks (k : Nat) : List TypeToken := List.replicate k .question

/-- The type with so many marks. -/
def KotlinType.marked (t : KotlinType) : Nat → KotlinType
  | 0 => t
  | k + 1 => .nullable (t.marked k)

theorem marks_succ (k : Nat) : marks (k + 1) = marks k ++ [.question] :=
  List.replicate_succ'

/-- The shapes of types, by their first tokens and by what follows the bracket that closes.  A type
in parentheses and the parameters of a function type are read alike up to there. -/
inductive HasShape : List TypeToken → KotlinType → Prop
  | name {text} (k : Nat) :
      HasShape (.name text :: marks k) (.marked (.name text) k)
  | applied {text us args} (k : Nat) :
      Spells us (.types args) →
      HasShape (.name text :: .langle :: (us ++ .rangle :: marks k)) (.marked (.applied text args) k)
  | group {us t} (k : Nat) :
      Spells us (.params [t]) →
      HasShape (.lparen :: (us ++ .rparen :: marks k)) (.marked t k)
  | function {us vs ts result} :
      Spells us (.params ts) →
      Spells vs (.type result) →
      HasShape (.lparen :: (us ++ .rparen :: .arrow :: vs)) (.function ts result)

/-- What can be marked is something unmarked with marks behind it; any number of marks gives a shape. -/
theorem Spells.exists_unmarked {us : List TypeToken} {t : KotlinType}
    (h : Spells us (.operand t)) : ∃ (vs : List TypeToken) (t₀ : KotlinType) (k : Nat),
      us = vs ++ marks k ∧ t = t₀.marked k ∧ ∀ k, HasShape (vs ++ marks k) (t₀.marked k) := by
  generalize phrase : Phrase.operand t = p at h
  induction h generalizing t with
  | @name text =>
    cases phrase
    exact ⟨[.name text], .name text, 0, rfl, rfl, .name⟩
  | @applied text us args spelled =>
    cases phrase
    refine ⟨.name text :: .langle :: (us ++ [.rangle]), .applied text args, 0, ?_, rfl, ?_⟩
    · exact (List.append_nil _).symm
    · intro k
      have shape : HasShape (.name text :: .langle :: (us ++ .rangle :: marks k)) _ :=
        .applied k spelled
      simpa using shape
  | @group us t' spelled =>
    cases phrase
    refine ⟨.lparen :: (us ++ [.rparen]), t', 0, ?_, rfl, ?_⟩
    · exact (List.append_nil _).symm
    · intro k
      have shape := HasShape.group k (.someParams (.last spelled))
      simpa using shape
  | @nullable us t' _ ih =>
    cases phrase
    obtain ⟨vs, t₀, k, rfl, rfl, each⟩ := ih rfl
    refine ⟨vs, t₀, k + 1, ?_, rfl, each⟩
    rw [marks_succ, List.append_assoc]
  | operand | function | last | more | noParams | someParams => cases phrase

/-- Every type has one of the shapes. -/
theorem Spells.shape {us : List TypeToken} {t : KotlinType} (h : Spells us (.type t)) :
    HasShape us t := by
  cases h with
  | operand spelled =>
    obtain ⟨vs, t₀, k, rfl, rfl, each⟩ := spelled.exists_unmarked
    exact each k
  | function params result => exact .function params result

/-! ## What follows a type -/

/-- What follows a type starts, if at all, with a comma or a bracket that closes. -/
def Stops (us : List TypeToken) : Prop :=
  ∀ u ∈ us.head?, u = .comma ∨ u = .rangle ∨ u = .rparen

/-- What follows several types starts, if at all, with a bracket that closes. -/
def Closes (us : List TypeToken) : Prop := ∀ u ∈ us.head?, u = .rangle ∨ u = .rparen

theorem Closes.stops {us : List TypeToken} (h : Closes us) : Stops us :=
  fun u hu => Or.inr (h u hu)

theorem closes_rangle (us : List TypeToken) : Closes (.rangle :: us) := by
  rintro _ ⟨⟩
  exact Or.inl rfl

theorem closes_rparen (us : List TypeToken) : Closes (.rparen :: us) := by
  rintro _ ⟨⟩
  exact Or.inr rfl

theorem stops_comma (us : List TypeToken) : Stops (.comma :: us) := by
  rintro _ ⟨⟩
  exact Or.inl rfl

/-- After its marks a type is followed by nothing that could be a part of it. -/
theorem marks_append_ne {k : Nat} {xs ys : List TypeToken} {u : TypeToken} (h : Stops xs)
    (inside : u = .langle ∨ u = .arrow) : marks k ++ xs ≠ u :: ys := by
  intro same
  cases k with
  | zero =>
    have stop := h u (by rw [show xs = u :: ys from same]; rfl)
    rcases inside with rfl | rfl <;> simp at stop
  | succ k =>
    have first : TypeToken.question = u := (List.cons.inj same).1
    rcases inside with rfl | rfl <;> cases first

/-- A type has as many marks as follow it. -/
theorem marks_append_inj {k l : Nat} {xs ys : List TypeToken} (hx : Stops xs) (hy : Stops ys)
    (same : marks k ++ xs = marks l ++ ys) : k = l ∧ xs = ys := by
  have unmarked {zs ws : List TypeToken} (hz : Stops zs) : zs ≠ .question :: ws := by
    rintro rfl
    have stop := hz .question rfl
    simp at stop
  induction k generalizing l with
  | zero =>
    cases l with
    | zero => exact ⟨rfl, same⟩
    | succ l => exact absurd same (unmarked hx)
  | succ k ih =>
    cases l with
    | zero => exact absurd same.symm (unmarked hy)
    | succ l =>
      obtain ⟨rfl, rest⟩ := ih (List.cons.inj same).2
      exact ⟨rfl, rest⟩

/-! ## Uniqueness -/

/-- Tokens that start like a type, and spell one, end where it ends. -/
def TypeUnique (us : List TypeToken) : Prop :=
  ∀ ⦃vs xs ys : List TypeToken⦄ ⦃t t' : KotlinType⦄, Spells us (.type t) → Spells vs (.type t') →
    Stops xs → Stops ys → us ++ xs = vs ++ ys → t = t' ∧ xs = ys

/-- The same for several types. -/
def TypesUnique (us : List TypeToken) : Prop :=
  ∀ ⦃vs xs ys : List TypeToken⦄ ⦃ts ts' : List KotlinType⦄, Spells us (.types ts) →
    Spells vs (.types ts') → Closes xs → Closes ys → us ++ xs = vs ++ ys → ts = ts' ∧ xs = ys

/-- No type starts with a bracket that closes. -/
theorem Spells.types_ne_rparen {us vs xs : List TypeToken} {ts : List KotlinType}
    (h : Spells us (.types ts)) : us ++ xs ≠ .rparen :: vs := by
  have first {us xs : List TypeToken} {t : KotlinType} (h : Spells us (.type t)) :
      us ++ xs ≠ .rparen :: vs := by
    intro same
    cases h.shape <;> cases same
  cases h with
  | last spelled => exact first spelled
  | more spelled _ =>
    rw [List.append_assoc]
    exact first spelled

/-- Parameters in parentheses are determined by what determines other lists of types. -/
theorem TypesUnique.parenthesized {us vs us' vs' xs ys : List TypeToken}
    {ts ts' : List KotlinType} (unique : TypesUnique us) (h : Spells us (.params ts))
    (h' : Spells vs (.params ts'))
    (same : .lparen :: (us ++ .rparen :: us') ++ xs = .lparen :: (vs ++ .rparen :: vs') ++ ys) :
    ts = ts' ∧ us' ++ xs = vs' ++ ys := by
  simp only [List.cons_append, List.append_assoc, List.cons.injEq, true_and] at same
  cases h with
  | noParams =>
    cases h' with
    | noParams => exact ⟨rfl, (List.cons.inj same).2⟩
    | someParams spelled => exact absurd same.symm spelled.types_ne_rparen
  | someParams spelled =>
    cases h' with
    | noParams => exact absurd same spelled.types_ne_rparen
    | someParams spelled' =>
      obtain ⟨types, rest⟩ :=
        unique spelled spelled' (closes_rparen _) (closes_rparen _) same
      exact ⟨types, (List.cons.inj rest).2⟩

/-- What stands between two tokens is shorter. -/
theorem length_lt_between (u v : TypeToken) (us vs : List TypeToken) :
    us.length < (u :: (us ++ v :: vs)).length := by
  rw [List.length_cons, List.length_append]
  omega

/-- Types are determined if shorter phrases are. -/
theorem typeUnique_of_below {us : List TypeToken}
    (below : ∀ vs, vs.length < us.length → TypeUnique vs ∧ TypesUnique vs) : TypeUnique us := by
  intro vs xs ys t t' h h' hx hy same
  have shape' := h'.shape
  cases h.shape with
  | @name text k =>
    cases shape' with
    | name l =>
      obtain ⟨name, rest⟩ := List.cons.inj same
      obtain ⟨rfl, rfl⟩ := marks_append_inj hx hy rest
      cases name
      exact ⟨rfl, rfl⟩
    | applied l _ => exact absurd (List.cons.inj same).2 (marks_append_ne hx (.inl rfl))
    | group | function => cases same
  | @applied text us args k spelled =>
    have arguments : TypesUnique us :=
      (below us (Nat.lt_succ_of_lt (length_lt_between _ _ us _))).2
    cases shape' with
    | name l => exact absurd (List.cons.inj same).2.symm (marks_append_ne hy (.inl rfl))
    | applied l spelled' =>
      simp only [List.cons_append, List.append_assoc, List.cons.injEq, TypeToken.name.injEq] at same
      obtain ⟨rfl, -, inner⟩ := same
      obtain ⟨rfl, rest⟩ :=
        arguments spelled spelled' (closes_rangle _) (closes_rangle _) inner
      obtain ⟨rfl, rfl⟩ := marks_append_inj hx hy (List.cons.inj rest).2
      exact ⟨rfl, rfl⟩
    | group | function => cases same
  | @group us t k spelled =>
    have inner : TypesUnique us := (below us (length_lt_between _ _ us _)).2
    cases shape' with
    | name | applied => cases same
    | group l spelled' =>
      obtain ⟨types, rest⟩ := inner.parenthesized spelled spelled' same
      obtain ⟨rfl, rfl⟩ := marks_append_inj hx hy rest
      cases types
      exact ⟨rfl, rfl⟩
    | function spelled' _ =>
      obtain ⟨-, rest⟩ := inner.parenthesized spelled spelled' same
      exact absurd rest (marks_append_ne hx (.inr rfl))
  | @function us ws ts result spelled spelledResult =>
    have inner : TypesUnique us := (below us (length_lt_between _ _ us _)).2
    have behind : TypeUnique ws := by
      have shorter : ws.length < (TypeToken.lparen :: (us ++ .rparen :: .arrow :: ws)).length := by
        simp only [List.length_cons, List.length_append]
        omega
      exact (below ws shorter).1
    cases shape' with
    | name | applied => cases same
    | group l spelled' =>
      obtain ⟨-, rest⟩ := inner.parenthesized spelled spelled' same
      exact absurd rest.symm (marks_append_ne hy (.inr rfl))
    | function spelled' spelledResult' =>
      obtain ⟨rfl, rest⟩ := inner.parenthesized spelled spelled' same
      obtain ⟨rfl, rfl⟩ :=
        behind spelledResult spelledResult' hx hy (List.cons.inj rest).2
      exact ⟨rfl, rfl⟩

/-- Several types are determined if single types and shorter phrases are. -/
theorem typesUnique_of_below {us : List TypeToken}
    (single : ∀ vs, vs.length ≤ us.length → TypeUnique vs)
    (below : ∀ vs, vs.length < us.length → TypesUnique vs) : TypesUnique us := by
  -- what follows the last type is no comma
  have noComma {zs ws : List TypeToken} (hz : Closes zs) : zs ≠ .comma :: ws := by
    rintro rfl
    have close := hz .comma rfl
    simp at close
  intro vs xs ys ts ts' h h' hx hy same
  cases h with
  | last spelled =>
    cases h' with
    | last spelled' =>
      obtain ⟨rfl, rfl⟩ := single us (Nat.le_refl _) spelled spelled' hx.stops hy.stops same
      exact ⟨rfl, rfl⟩
    | more spelled' _ =>
      rw [List.append_assoc] at same
      obtain ⟨-, rest⟩ := single us (Nat.le_refl _) spelled spelled' hx.stops (stops_comma _) same
      exact absurd rest (noComma hx)
  | @more us ws t ts spelled others =>
    have first : TypeUnique us := by
      have notLonger : us.length ≤ (us ++ TypeToken.comma :: ws).length := by
        rw [List.length_append]
        omega
      exact single us notLonger
    have rest : TypesUnique ws := by
      have shorter : ws.length < (us ++ TypeToken.comma :: ws).length := by
        rw [List.length_append, List.length_cons]
        omega
      exact below ws shorter
    rw [List.append_assoc] at same
    cases h' with
    | last spelled' =>
      obtain ⟨-, behind⟩ := first spelled spelled' (stops_comma _) hy.stops same
      exact absurd behind.symm (noComma hy)
    | more spelled' others' =>
      rw [List.append_assoc] at same
      obtain ⟨rfl, behind⟩ := first spelled spelled' (stops_comma _) (stops_comma _) same
      obtain ⟨rfl, rfl⟩ := rest others others' hx hy (List.cons.inj behind).2
      exact ⟨rfl, rfl⟩

/-- The start of a text determines the type and the types that it spells.  The induction is on the
number of tokens. -/
theorem typeUnique_and_typesUnique (us : List TypeToken) : TypeUnique us ∧ TypesUnique us := by
  induction h : us.length using Nat.strongRecOn generalizing us with
  | ind n ih =>
    have below (vs : List TypeToken) (shorter : vs.length < us.length) :
        TypeUnique vs ∧ TypesUnique vs :=
      ih vs.length (h ▸ shorter) vs rfl
    have type := typeUnique_of_below below
    refine ⟨type, typesUnique_of_below ?_ fun vs shorter => (below vs shorter).2⟩
    intro vs notLonger
    exact typeUnique_of_below fun ws shorter => below ws (Nat.lt_of_lt_of_le shorter notLonger)

/-- Tokens spell one type at most. -/
theorem Spells.unique {us : List TypeToken} {t t' : KotlinType} (h : Spells us (.type t))
    (h' : Spells us (.type t')) : t = t' := by
  have stops : Stops [] := nofun
  exact ((typeUnique_and_typesUnique us).1 h h' stops stops rfl).1

end KotlinStubs
