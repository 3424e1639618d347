import KotlinStubs.Name
import KotlinStubs.Proofs.StatementForms

/-!
# Colliding names

Two different names can become one in Kotlin in a single way: one is reserved, so that it is put
between quotes, and the other is written between the same quotes already and needs no more.
Whatever the settings are, a name that must be quoted because of a marker still holds the marker
between its quotes, so that no name without need of quotes can equal it.

* `Settings.needsEscaping_iff`: the names that must be quoted.
* `Settings.escape_eq_escape_iff`: the names that collide.
* `kotlinName_collides`: the nodes whose names collide.
-/

namespace KotlinStubs

namespace Settings

variable (σ : Settings) {name other : String}

/-- Some marker stands in a name. -/
def IsMarked (name : String) : Prop := ∃ m ∈ σ.escapeMarkers, m.toList <:+: name.toList

instance (name : String) : Decidable (σ.IsMarked name) :=
  inferInstanceAs (Decidable (∃ m ∈ σ.escapeMarkers, m.toList <:+: name.toList))

/-- A name must be written between quotes. -/
def NeedsQuotes (name : String) : Prop := name ∈ σ.reservedWords ∨ σ.IsMarked name

/-- A name between quotes. -/
def quoted (name : String) : String := σ.quote ++ name ++ σ.quote

/-- `other` is the name between quotes.  The name is quoted for being reserved only, and `other` is
not quoted again. -/
structure IsQuotedForm (name other : String) : Prop where
  reserved : name ∈ σ.reservedWords
  unmarked : ¬ σ.IsMarked name
  eq_quoted : other = σ.quoted name
  not_reserved : other ∉ σ.reservedWords
  stays_unmarked : ¬ σ.IsMarked other

/-- A name starts with the quote, which is not empty. -/
def StartsQuoted (name : String) : Prop := σ.quote ≠ "" ∧ σ.quote.toList <+: name.toList

theorem needsEscaping_iff : σ.needsEscaping name = true ↔ σ.NeedsQuotes name := by
  rw [needsEscaping, Bool.or_eq_true, List.contains_iff_mem, List.any_eq_true]
  simp only [Text.occursIn, Text.occurs_iff_isInfix, NeedsQuotes, IsMarked]

theorem escape_of_needsQuotes (needed : σ.NeedsQuotes name) : σ.escape name = σ.quoted name :=
  if_pos (σ.needsEscaping_iff.2 needed)

theorem escape_of_not_needsQuotes (unneeded : ¬ σ.NeedsQuotes name) : σ.escape name = name :=
  if_neg fun needed => unneeded (σ.needsEscaping_iff.1 needed)

theorem toList_quoted (name : String) :
    (σ.quoted name).toList = σ.quote.toList ++ name.toList ++ σ.quote.toList := by
  rw [quoted, String.toList_append, String.toList_append]

theorem quoted_inj : σ.quoted name = σ.quoted other ↔ name = other := by
  refine ⟨fun same => ?_, congrArg σ.quoted⟩
  have chars := congrArg String.toList same
  rw [toList_quoted, toList_quoted] at chars
  exact String.toList_inj.1 (List.append_cancel_left (List.append_cancel_right chars))

variable {σ}

/-- Quotes take no marker away. -/
theorem IsMarked.quoted (marked : σ.IsMarked name) : σ.IsMarked (σ.quoted name) := by
  obtain ⟨m, isMarker, before, behind, within⟩ := marked
  refine ⟨m, isMarker, σ.quote.toList ++ before, behind ++ σ.quote.toList, ?_⟩
  rw [toList_quoted, ← within]
  simp only [List.append_assoc]

theorem IsQuotedForm.escape_eq (form : σ.IsQuotedForm name other) :
    σ.escape name = σ.escape other := by
  have unneeded : ¬ σ.NeedsQuotes other := by
    rintro (reserved | marked)
    · exact form.not_reserved reserved
    · exact form.stays_unmarked marked
  rw [σ.escape_of_needsQuotes (.inl form.reserved), σ.escape_of_not_needsQuotes unneeded,
    form.eq_quoted]

theorem isQuotedForm_of_eq (needed : σ.NeedsQuotes name) (unneeded : ¬ σ.NeedsQuotes other)
    (same : σ.quoted name = other) : σ.IsQuotedForm name other := by
  rw [NeedsQuotes, not_or] at unneeded
  have unmarked : ¬ σ.IsMarked name := by
    intro marked
    rw [← same] at unneeded
    exact unneeded.2 marked.quoted
  exact ⟨needed.resolve_right unmarked, unmarked, same.symm, unneeded.1, unneeded.2⟩

/-- Two names are written alike just if one of them is quoted and the other one is its quoted form,
which is not quoted again. -/
theorem escape_eq_escape_iff (differ : name ≠ other) :
    σ.escape name = σ.escape other ↔ σ.IsQuotedForm name other ∨ σ.IsQuotedForm other name := by
  constructor
  · intro same
    -- Different names stay different if both are quoted or neither is.
    by_cases needed : σ.NeedsQuotes name
    · rw [σ.escape_of_needsQuotes needed] at same
      by_cases needed' : σ.NeedsQuotes other
      · rw [σ.escape_of_needsQuotes needed', quoted_inj] at same
        exact absurd same differ
      · rw [σ.escape_of_not_needsQuotes needed'] at same
        exact Or.inl (isQuotedForm_of_eq needed needed' same)
    · rw [σ.escape_of_not_needsQuotes needed] at same
      by_cases needed' : σ.NeedsQuotes other
      · rw [σ.escape_of_needsQuotes needed'] at same
        exact Or.inr (isQuotedForm_of_eq needed' needed same.symm)
      · rw [σ.escape_of_not_needsQuotes needed'] at same
        exact absurd same differ
  · rintro (form | form)
    · exact form.escape_eq
    · exact form.escape_eq.symm

theorem IsQuotedForm.startsQuoted (form : σ.IsQuotedForm name other) (differ : name ≠ other) :
    σ.StartsQuoted other := by
  rw [form.eq_quoted] at differ ⊢
  refine ⟨fun empty => differ ?_, ?_⟩
  · rw [quoted, empty, String.append_empty, String.empty_append]
  · rw [toList_quoted, List.append_assoc]
    exact List.prefix_append _ _

end Settings

namespace Node

variable {σ : Settings} {n m : Node} {name other : String}

/-- The name that a node writes: its text, that of a string literal without its first and last
character. -/
def writtenName? (n : Node) : Option String :=
  if n.kind = .string then n.text.map Settings.withoutEnds else n.text

/-- Two nodes get the same name in Kotlin. -/
def Collides (n : Node) (σ : Settings) (m : Node) : Prop :=
  ∃ kotlin, n.kotlinName σ = pure kotlin ∧ m.kotlinName σ = pure kotlin

theorem kotlinName_of_writtenName? (written : n.writtenName? = some name) :
    n.kotlinName σ = pure (σ.escape name) := by
  unfold kotlinName
  rw [writtenName?] at written
  split at written
  · next isString =>
    obtain ⟨text, hasText, rfl⟩ := Option.map_eq_some_iff.1 written
    rw [Translation.read_of_text hasText, pure_bind, if_pos isString, Settings.unquote]
  · next noString => rw [Translation.read_of_text written, pure_bind, if_neg noString]

theorem collides_iff (written : n.writtenName? = some name)
    (written' : m.writtenName? = some other) :
    n.Collides σ m ↔ σ.escape name = σ.escape other := by
  rw [Collides, kotlinName_of_writtenName? written, kotlinName_of_writtenName? written']
  constructor
  · rintro ⟨kotlin, first, second⟩
    have same := congrArg Translation.result (first.trans second.symm)
    exact Except.ok.inj same
  · intro same
    exact ⟨σ.escape name, rfl, by rw [same]⟩

end Node

/-- **Colliding names.** Two nodes that write different names get the same name in Kotlin just if
one name is reserved, without marker, and the other is that name between quotes, which itself is
neither reserved nor marked.  So names that do not start with a quote never collide. -/
theorem kotlinName_collides (σ : Settings) {n m : Node} {name other : String}
    (written : n.writtenName? = some name) (written' : m.writtenName? = some other)
    (differ : name ≠ other) :
    (n.Collides σ m ↔ σ.IsQuotedForm name other ∨ σ.IsQuotedForm other name) ∧
      (¬ σ.StartsQuoted name → ¬ σ.StartsQuoted other → ¬ n.Collides σ m) := by
  rw [Node.collides_iff written written', σ.escape_eq_escape_iff differ]
  refine ⟨Iff.rfl, ?_⟩
  rintro plain plain' (form | form)
  · exact plain' (form.startsQuoted differ)
  · exact plain (form.startsQuoted differ.symm)

namespace Node

/-- The word `fun` is reserved, and a string literal can write it between quotes. -/
theorem kotlinName_collides_reservedWord :
    (leaf "identifier" "fun" []).Collides {} (leaf "string" "'`fun`'" []) := by
  have form : Settings.IsQuotedForm {} "fun" "`fun`" :=
    ⟨by decide, by decide, by decide, by decide, by decide⟩
  have written : (leaf "identifier" "fun" []).writtenName? = some "fun" := by decide
  have written' : (leaf "string" "'`fun`'" []).writtenName? = some "`fun`" := by decide
  exact (kotlinName_collides {} written written' (by decide)).1.2 (.inl form)

end Node

end KotlinStubs
