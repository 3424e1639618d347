import KotlinStubs.Proofs.TypeDenotation

/-!
# What the start of a text tells

A printed type, parameter or list is followed by more text, so it is told from the texts of others
by its start, given what can follow it (`Text.Tells`): a word ends where no character of a word
follows, a list where its bracket closes.

The texts of types are told in this way although names may hold dashes, so that `N<->` is a type of
one argument, and arrows and brackets share their last character: an arrow stands between blanks
only, behind the bracket that closes the parameters.

* `Text.tells_word`, `Text.tells_join`: words, and lists of what is told.
* `KotlinType.OfWords.written`: the three forms of the texts of types.
* `KotlinType.tells_text_of_below`: a type is told if smaller types are.
* `KotlinType.tells_text`: types.
-/

namespace KotlinStubs

namespace Text

/-! ## Words and lists -/

/-- What is written for `a` is told from the start of a text: nothing else that satisfies `P` is
written at the start of the same text, as long as what follows satisfies `F`. -/
def Tells {α : Type} (write : α → String) (P : α → Prop) (F : List Char → Prop) (a : α) : Prop :=
  ∀ ⦃b : α⦄ ⦃xs ys : List Char⦄, P b → F xs → F ys →
    (write a).toList ++ xs = (write b).toList ++ ys → a = b ∧ xs = ys

/-- A text of characters that satisfy `p`, one at least. -/
def IsWordOf (p : Char → Bool) (s : String) : Prop := s ≠ "" ∧ s.toList.all p = true

instance (p : Char → Bool) (s : String) : Decidable (IsWordOf p s) :=
  inferInstanceAs (Decidable (_ ∧ _))

theorem IsWordOf.exists_first {p : Char → Bool} {s : String} (h : IsWordOf p s) :
    ∃ c cs, s.toList = c :: cs ∧ p c = true := by
  obtain ⟨nonempty, all⟩ := h
  cases chars : s.toList with
  | nil => exact absurd (String.toList_eq_nil_iff.1 chars) nonempty
  | cons c cs =>
    rw [chars, List.all_cons, Bool.and_eq_true] at all
    exact ⟨c, cs, rfl, all.1⟩

/-- A word does not start with another character. -/
theorem IsWordOf.append_ne {p : Char → Bool} {s : String} (h : IsWordOf p s) {d : Char}
    (other : p d = false) (xs ys : List Char) : s.toList ++ xs ≠ d :: ys := by
  obtain ⟨c, cs, chars, first⟩ := h.exists_first
  rw [chars]
  intro same
  cases same
  rw [other] at first
  cases first

/-- A word is followed by no character of words. -/
theorem tells_word {p : Char → Bool} {s : String} (h : IsWordOf p s) :
    Tells id (IsWordOf p) (fun xs => ∀ c ∈ xs.head?, p c = false) s := by
  have taken {s : String} {xs : List Char} (word : s.toList.all p = true)
      (ends : ∀ c ∈ xs.head?, p c = false) : (s.toList ++ xs).takeWhile p = s.toList := by
    have stops : xs.takeWhile p = [] := by
      cases xs with
      | nil => rfl
      | cons c xs => exact List.takeWhile_cons_of_neg (by rw [ends c rfl]; decide)
    rw [List.takeWhile_append_of_pos (List.all_eq_true.1 word), stops, List.append_nil]
  intro t xs ys h' hx hy same
  have word : s.toList = t.toList := by
    rw [← taken h.2 hx, ← taken h'.2 hy]
    exact congrArg _ same
  obtain rfl := String.toList_inj.1 word
  exact ⟨rfl, List.append_cancel_left same⟩

/-- What stands behind the first member of a list. -/
def more {α : Type} (write : α → String) (as : List α) : List Char :=
  as.flatMap fun a => ',' :: ' ' :: (write a).toList

theorem toList_join_cons {α : Type} (write : α → String) (a : α) (as : List α) :
    (join ", " ((a :: as).map write)).toList = (write a).toList ++ more write as := by
  induction as generalizing a with
  | nil => exact (List.append_nil _).symm
  | cons b as ih =>
    have rest : (b :: as).map write ≠ [] := List.cons_ne_nil _ _
    rw [List.map_cons, join_cons_of_ne_nil _ _ rest, String.toList_append, ih b]
    simp [more]

section

variable {α : Type} {write : α → String} {P : α → Prop} {F : List Char → Prop} {close : Char}
  {as : List α}

/-- The members behind the first one are told if each of them is. -/
theorem more_inj (comma : ∀ zs, F (',' :: zs)) (closes : ∀ zs, F (close :: zs))
    (other : close ≠ ',') (each : ∀ a ∈ as, Tells write P F a) {bs : List α} {xs ys : List Char}
    (valid : ∀ b ∈ bs, P b) (same : more write as ++ close :: xs = more write bs ++ close :: ys) :
    as = bs ∧ xs = ys := by
  have follows (cs : List α) (zs : List Char) : F (more write cs ++ close :: zs) := by
    cases cs with
    | nil => exact closes zs
    | cons c cs => exact comma _
  induction as generalizing bs with
  | nil =>
    cases bs with
    | nil => exact ⟨rfl, (List.cons.inj same).2⟩
    | cons b bs => exact absurd (List.cons.inj same).1 other
  | cons a as ih =>
    cases bs with
    | nil => exact absurd (List.cons.inj same).1.symm other
    | cons b bs =>
      have told := each a List.mem_cons_self
      simp only [more, List.flatMap_cons, List.cons_append, List.append_assoc, List.cons.injEq,
        true_and] at same
      obtain ⟨rfl, rest⟩ := told (valid b List.mem_cons_self) (follows as xs) (follows bs ys) same
      obtain ⟨rfl, behind⟩ := ih (fun c hc => each c (List.mem_cons_of_mem a hc))
        (fun c hc => valid c (List.mem_cons_of_mem a hc)) rest
      exact ⟨rfl, behind⟩

/-- A list ends at its bracket, if its members can stand in front of a comma and of that bracket,
and none of them starts with the bracket. -/
theorem tells_join (comma : ∀ zs, F (',' :: zs)) (closes : ∀ zs, F (close :: zs))
    (other : close ≠ ',') (starts : ∀ b, P b → ∀ xs ys, (write b).toList ++ xs ≠ close :: ys)
    (valid : ∀ a ∈ as, P a) (each : ∀ a ∈ as, Tells write P F a) :
    Tells (fun as => join ", " (as.map write)) (fun bs => ∀ b ∈ bs, P b)
      (fun xs => ∃ zs, xs = close :: zs) as := by
  have follows (cs : List α) (zs : List Char) : F (more write cs ++ close :: zs) := by
    cases cs with
    | nil => exact closes zs
    | cons c cs => exact comma _
  rintro bs xs ys valid' ⟨zs, rfl⟩ ⟨ws, rfl⟩ same
  dsimp only at same
  cases as with
  | nil =>
    cases bs with
    | nil => exact ⟨rfl, same⟩
    | cons b bs =>
      rw [toList_join_cons, List.append_assoc] at same
      exact absurd same.symm (starts b (valid' b List.mem_cons_self) _ _)
  | cons a as =>
    cases bs with
    | nil =>
      rw [toList_join_cons, List.append_assoc] at same
      exact absurd same (starts a (valid a List.mem_cons_self) _ _)
    | cons b bs =>
      have told := each a List.mem_cons_self
      have others : ∀ c ∈ as, Tells write P F c := fun c hc => each c (List.mem_cons_of_mem a hc)
      rw [toList_join_cons, toList_join_cons, List.append_assoc, List.append_assoc] at same
      obtain ⟨rfl, rest⟩ := told (valid' b List.mem_cons_self) (follows as zs) (follows bs ws) same
      obtain ⟨rfl, rfl⟩ := more_inj comma closes other others
        (fun c hc => valid' c (List.mem_cons_of_mem a hc)) rest
      exact ⟨rfl, rfl⟩

end

end Text

open Text

/-! ## Types of words -/

/-- Whether a character can stand in the name of a function, a parameter or a type: it is neither
white space nor a sign of signatures.  A dash is no sign. -/
def isWordChar (c : Char) : Bool :=
  !isWhiteSpace c && !([':', ',', '=', '(', ')', '<', '>', '\x7b', '\x7d', '?'].contains c)

/-- The name of a function, a parameter or a type. -/
abbrev IsWord (s : String) : Prop := IsWordOf isWordChar s

namespace KotlinType

/-- Whether a type is nullable as a whole. -/
def isNullable : KotlinType → Bool
  | nullable _ => true
  | _ => false

/-- All names in the type are words, all lists of arguments have members, and no type is marked
twice. -/
inductive OfWords : KotlinType → Prop
  | name {s} :
      IsWord s →
      OfWords (.name s)
  | applied {s args} :
      IsWord s →
      args ≠ [] →
      (∀ a ∈ args, OfWords a) →
      OfWords (.applied s args)
  | function {params result} :
      (∀ p ∈ params, OfWords p) →
      OfWords result →
      OfWords (.function params result)
  | nullable {t} :
      OfWords t →
      t.isNullable = false →
      OfWords (.nullable t)

/-- The texts of types, with commas between them. -/
def list (ts : List KotlinType) : String := join ", " (ts.map text)

/-- A name with arguments, or the name alone. -/
def ofWord (s : String) : List KotlinType → KotlinType
  | [] => .name s
  | a :: args => .applied s (a :: args)

/-- What stands behind a name for its arguments. -/
def arguments : List KotlinType → List Char
  | [] => []
  | a :: args => '<' :: ((list (a :: args)).toList ++ ['>'])

/-- What stands behind a type that is marked or not. -/
def mark (marked : Bool) : List Char := if marked then ['?'] else []

/-- The text of a type starts with a word, or with a parenthesis and types up to the one that closes
it; behind these an arrow shows that they are the parameters of a function type, and a mark that
there is one, a nullable function type. -/
inductive Written : KotlinType → List Char → Prop
  | word {s args} (marked : Bool) :
      IsWord s →
      (∀ a ∈ args, a.OfWords) →
      Written ((ofWord s args).nullableIf marked) (s.toList ++ (arguments args ++ mark marked))
  | arrow {params result} :
      (∀ p ∈ params, p.OfWords) →
      result.OfWords →
      Written (.function params result)
        ('(' :: ((list params).toList ++ ')' :: ' ' :: '-' :: '>' :: ' ' :: result.text.toList))
  | group {t} :
      t.OfWords →
      t.isFunction = true →
      Written (.nullable t) ('(' :: ((list [t]).toList ++ [')', '?']))

/-- A type that is no function type and not nullable is a name, with arguments or alone. -/
theorem OfWords.exists_word {t : KotlinType} (h : t.OfWords) (noFunction : t.isFunction = false)
    (plain : t.isNullable = false) : ∃ s args, t = ofWord s args ∧ IsWord s ∧
      (∀ a ∈ args, a.OfWords) ∧ t.text.toList = s.toList ++ arguments args := by
  cases h with
  | @name s isWord => exact ⟨s, [], rfl, isWord, nofun, (List.append_nil _).symm⟩
  | @applied s args isWord nonempty each =>
    cases args with
    | nil => exact absurd rfl nonempty
    | cons a args =>
      refine ⟨s, a :: args, rfl, isWord, each, ?_⟩
      rw [text, textAll_eq_map]
      simp [arguments, list]
  | function => cases noFunction
  | nullable => cases plain

/-- The text of every type of words has one of the forms. -/
theorem OfWords.written {t : KotlinType} (h : t.OfWords) : t.Written t.text.toList := by
  have word {t : KotlinType} (h : t.OfWords) (noFunction : t.isFunction = false)
      (plain : t.isNullable = false) (marked : Bool) :
      (t.nullableIf marked).Written (t.text.toList ++ mark marked) := by
    obtain ⟨s, args, rfl, isWord, each, chars⟩ := h.exists_word noFunction plain
    rw [chars, List.append_assoc]
    exact .word marked isWord each
  cases id h with
  | name | applied =>
    have unmarked := word h rfl rfl false
    rwa [mark, if_neg Bool.false_ne_true, List.append_nil] at unmarked
  | @function params result each hresult =>
    have arrow := Written.arrow each hresult
    rw [text, textAll_eq_map]
    simpa [list] using arrow
  | @nullable t ht plain =>
    rw [text]
    split
    · next isFunction =>
      have group := Written.group ht isFunction
      simpa [list] using group
    · next noFunction =>
      have marked := word ht (Bool.eq_false_iff.2 noFunction) plain true
      rw [String.toList_append]
      exact marked

/-- Behind a type there is nothing, a comma, a bracket that closes, or a blank. -/
def Ends (xs : List Char) : Prop := ∀ c ∈ xs.head?, c ∈ [',', '>', ')', ' ']

theorem ends_cons {c : Char} (h : c ∈ [',', '>', ')', ' ']) (xs : List Char) : Ends (c :: xs) := by
  rintro _ ⟨⟩
  exact h

/-- Behind a mark, or where one could be, no word and no list of arguments goes on. -/
theorem Ends.mark {xs : List Char} (h : Ends xs) (marked : Bool) :
    ∀ c ∈ (mark marked ++ xs).head?, c ∈ [',', '>', ')', ' ', '?'] := by
  cases marked with
  | false =>
    intro c hc
    exact List.mem_append_left ['?'] (h c hc)
  | true =>
    rintro _ ⟨⟩
    decide

/-- No text of a type starts with a bracket that closes. -/
theorem OfWords.append_ne {t : KotlinType} (h : t.OfWords) {close : Char}
    (closing : close = ')' ∨ close = '>') (xs ys : List Char) :
    t.text.toList ++ xs ≠ close :: ys := by
  have written := h.written
  generalize t.text.toList = cs at written
  intro same
  cases written with
  | word marked isWord _ =>
    have sign : isWordChar close = false := by rcases closing with rfl | rfl <;> decide
    rw [List.append_assoc] at same
    exact isWord.append_ne sign _ _ same
  | arrow | group =>
    have paren := (List.cons.inj same).1
    rcases closing with rfl | rfl <;> exact absurd paren (by decide)

theorem OfWords.text_ne_empty {t : KotlinType} (h : t.OfWords) : t.text ≠ "" := by
  intro empty
  have written := h.written
  rw [empty] at written
  generalize chars : "".toList = cs at written
  cases written with
  | word marked isWord _ =>
    exact isWord.1 (String.toList_eq_nil_iff.1 (List.append_eq_nil_iff.1 chars.symm).1)
  | arrow | group => cases chars

/-- Types told one by one are told as a list. -/
theorem tells_list {close : Char} (closing : close = ')' ∨ close = '>') {ts : List KotlinType}
    (valid : ∀ t ∈ ts, t.OfWords) (each : ∀ t ∈ ts, Tells text OfWords Ends t) :
    Tells list (fun us => ∀ u ∈ us, u.OfWords) (fun xs => ∃ zs, xs = close :: zs) ts := by
  refine tells_join (ends_cons (by decide)) (ends_cons ?_) ?_ ?_ valid each
  · rcases closing with rfl | rfl <;> decide
  · rcases closing with rfl | rfl <;> decide
  · exact fun u hu => hu.append_ne closing

/-- Arguments are told, and whether there are any, if each of them is. -/
theorem tells_arguments {args args' : List KotlinType} {xs ys : List Char}
    (valid : ∀ a ∈ args, a.OfWords) (valid' : ∀ a ∈ args', a.OfWords)
    (each : ∀ a ∈ args, Tells text OfWords Ends a) (hx : xs.head? ≠ some '<')
    (hy : ys.head? ≠ some '<') (same : arguments args ++ xs = arguments args' ++ ys) :
    args = args' ∧ xs = ys := by
  cases args with
  | nil =>
    cases args' with
    | nil => exact ⟨rfl, same⟩
    | cons a' args' =>
      rw [show xs = _ from same] at hx
      exact absurd rfl hx
  | cons a args =>
    cases args' with
    | nil =>
      rw [show ys = _ from same.symm] at hy
      exact absurd rfl hy
    | cons a' args' =>
      simp only [arguments, List.cons_append, List.append_assoc, List.cons.injEq, true_and] at same
      obtain ⟨types, rest⟩ := tells_list (.inr rfl) valid each valid' ⟨_, rfl⟩ ⟨_, rfl⟩ same
      exact ⟨types, (List.cons.inj rest).2⟩

theorem Ends.noList {xs : List Char} (h : Ends xs) (marked : Bool) :
    (KotlinType.mark marked ++ xs).head? ≠ some '<' := by
  intro list
  exact absurd (h.mark marked '<' list) (by decide)

theorem Ends.noWordChar {xs : List Char} (h : Ends xs) (args : List KotlinType) (marked : Bool) :
    ∀ c ∈ (arguments args ++ (KotlinType.mark marked ++ xs)).head?, isWordChar c = false := by
  have signs : [',', '>', ')', ' ', '?'].all fun c => isWordChar c = false := by decide
  cases args with
  | nil => exact fun c hc => of_decide_eq_true (List.all_eq_true.1 signs c (h.mark marked c hc))
  | cons a args =>
    rintro _ ⟨⟩
    decide

theorem tells_mark {marked marked' : Bool} {xs ys : List Char} (hx : Ends xs) (hy : Ends ys)
    (same : mark marked ++ xs = mark marked' ++ ys) : marked = marked' ∧ xs = ys := by
  have unmarked {zs ws : List Char} (hz : Ends zs) : zs ≠ '?' :: ws := by
    rintro rfl
    exact absurd (hz '?' rfl) (by decide)
  cases marked <;> cases marked'
  · exact ⟨rfl, same⟩
  · exact absurd same (unmarked hx)
  · exact absurd same.symm (unmarked hy)
  · exact ⟨rfl, (List.cons.inj same).2⟩

theorem sizeOf_lt_of_ofWord {s : String} {args : List KotlinType} {a : KotlinType} (h : a ∈ args)
    (marked : Bool) : sizeOf a < sizeOf ((ofWord s args).nullableIf marked) := by
  have inside := List.sizeOf_lt_of_mem h
  cases args with
  | nil => cases h
  | cons b args =>
    cases marked <;> simp only [nullableIf, ofWord, Bool.false_eq_true, if_false, if_true,
      applied.sizeOf_spec, nullable.sizeOf_spec] <;> omega

/-- A type is told from its start if smaller types are. -/
theorem tells_text_of_below {t : KotlinType} (h : t.OfWords)
    (below : ∀ u, u.OfWords → sizeOf u < sizeOf t → Tells text OfWords Ends u) :
    Tells text OfWords Ends t := by
  intro u xs ys hu hx hy same
  have written := h.written
  have written' := hu.written
  generalize t.text.toList = cs at written same
  generalize u.text.toList = ds at written' same
  have noWord {s : String} {zs ws : List Char} (isWord : IsWord s) :
      s.toList ++ zs ≠ '(' :: ws := isWord.append_ne (by decide) zs ws
  cases written with
  | @word s args marked isWord each =>
    cases written' with
    | @word s' args' marked' isWord' each' =>
      have told : ∀ a ∈ args, Tells text OfWords Ends a := fun a ha =>
        below a (each a ha) (sizeOf_lt_of_ofWord ha marked)
      simp only [List.append_assoc] at same
      obtain ⟨rfl, list⟩ := tells_word isWord isWord' (hx.noWordChar args marked)
        (hy.noWordChar args' marked') same
      obtain ⟨rfl, mark⟩ :=
        tells_arguments each each' told (hx.noList marked) (hy.noList marked') list
      obtain ⟨rfl, rest⟩ := tells_mark hx hy mark
      exact ⟨rfl, rest⟩
    | arrow | group =>
      rw [List.append_assoc] at same
      exact absurd same (noWord isWord)
  | @arrow params result each hresult =>
    have parameters : Tells list (fun us => ∀ u ∈ us, u.OfWords)
        (fun xs => ∃ zs, xs = ')' :: zs) params := by
      refine tells_list (.inl rfl) each fun p hp => below p (each p hp) ?_
      have inside := List.sizeOf_lt_of_mem hp
      simp only [function.sizeOf_spec]
      omega
    cases written' with
    | word marked isWord' _ =>
      rw [List.append_assoc] at same
      exact absurd same.symm (noWord isWord')
    | arrow each' hresult' =>
      simp only [List.cons_append, List.append_assoc, List.cons.injEq, true_and] at same
      obtain ⟨rfl, rest⟩ := parameters each' ⟨_, rfl⟩ ⟨_, rfl⟩ same
      have smaller : sizeOf result < sizeOf (function params result) := by
        simp only [function.sizeOf_spec]
        omega
      simp only [List.cons.injEq, true_and] at rest
      obtain ⟨rfl, behind⟩ := below result hresult smaller hresult' hx hy rest
      exact ⟨rfl, behind⟩
    | group ht' _ =>
      simp only [List.cons_append, List.append_assoc, List.cons.injEq, true_and] at same
      obtain ⟨-, rest⟩ := parameters (List.forall_mem_singleton.2 ht') ⟨_, rfl⟩ ⟨_, rfl⟩ same
      exact absurd rest (by simp)
  | @group t ht isFunction =>
    have single : Tells list (fun us => ∀ u ∈ us, u.OfWords)
        (fun xs => ∃ zs, xs = ')' :: zs) [t] := by
      refine tells_list (.inl rfl) (List.forall_mem_singleton.2 ht) (List.forall_mem_singleton.2 ?_)
      exact below t ht (by simp only [nullable.sizeOf_spec]; omega)
    cases written' with
    | word marked isWord' _ =>
      rw [List.append_assoc] at same
      exact absurd same.symm (noWord isWord')
    | arrow each' _ =>
      simp only [List.cons_append, List.append_assoc, List.cons.injEq, true_and] at same
      obtain ⟨-, rest⟩ := single each' ⟨_, rfl⟩ ⟨_, rfl⟩ same
      exact absurd rest (by simp)
    | group ht' _ =>
      simp only [List.cons_append, List.append_assoc, List.cons.injEq, true_and] at same
      obtain ⟨types, rest⟩ := single (List.forall_mem_singleton.2 ht') ⟨_, rfl⟩ ⟨_, rfl⟩ same
      cases types
      simp only [List.nil_append, List.cons.injEq, true_and] at rest
      exact ⟨rfl, rest⟩

/-- Types are told from the start of a text.  The induction is on the size of the type. -/
theorem tells_text {t : KotlinType} (h : t.OfWords) : Tells text OfWords Ends t := by
  induction size : sizeOf t using Nat.strongRecOn generalizing t with
  | ind n ih => exact tells_text_of_below h fun u hu smaller => ih _ (size ▸ smaller) hu rfl

end KotlinType

end KotlinStubs
