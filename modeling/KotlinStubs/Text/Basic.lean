/-!
# Texts

What is done with texts everywhere: one is looked for in another, a list of texts is joined, and the
blanks at both ends are dropped.

* `occurs_iff_isInfix`: occurrence is the infix relation of lists.
* `join_cons_of_ne_nil`: a text in front of a non-empty list is followed by the separator.
* `join_append`: non-empty lists follow each other with the separator between them.
-/

namespace KotlinStubs.Text

/-! ## Occurrence -/

/-- Whether the needle starts at some place of the characters, the end included. -/
def occurs (needle : List Char) : List Char → Bool
  | [] => needle.isEmpty
  | c :: rest => needle.isPrefixOf (c :: rest) || occurs needle rest

theorem occurs_iff_isInfix {needle text : List Char} :
    occurs needle text = true ↔ needle <:+: text := by
  induction text with
  | nil => simp [occurs, List.infix_nil]
  | cons c rest ih => simp [occurs, ih, List.infix_cons_iff]

/-- Whether `needle` is a substring of `text`. -/
def occursIn (needle text : String) : Bool := occurs needle.toList text.toList

/-! ## Joined texts -/

/-- The texts in order, with the separator between neighbours only. -/
def join (separator : String) : List String → String
  | [] => ""
  | [s] => s
  | s :: t :: rest => s ++ separator ++ join separator (t :: rest)

/-- The texts as lines, without a line feed after the last. -/
def joinLines (lines : List String) : String := join "\n" lines

@[simp] theorem join_singleton (separator s : String) : join separator [s] = s := rfl

theorem join_cons_of_ne_nil (separator s : String) {rest : List String} (h : rest ≠ []) :
    join separator (s :: rest) = s ++ separator ++ join separator rest := by
  cases rest with
  | nil => exact absurd rfl h
  | cons t rest => rfl

theorem join_append (separator : String) {names others : List String} (h : names ≠ [])
    (h' : others ≠ []) :
    join separator (names ++ others) = join separator names ++ separator ++ join separator others := by
  induction names with
  | nil => exact absurd rfl h
  | cons a names ih =>
    rw [List.cons_append, join_cons_of_ne_nil _ _ (List.append_ne_nil_of_right_ne_nil names h')]
    cases names with
    | nil => rfl
    | cons b names =>
      have rest : b :: names ≠ [] := List.cons_ne_nil b names
      rw [ih rest, join_cons_of_ne_nil _ _ rest]
      simp only [String.append_assoc]

theorem join_concat (separator a : String) {names : List String} (h : names ≠ []) :
    join separator (names ++ [a]) = join separator names ++ separator ++ a :=
  join_append separator h (List.cons_ne_nil a [])

/-- Texts that are not empty do not vanish when joined. -/
theorem join_ne_empty (separator : String) {names : List String} (h : names ≠ [])
    (named : ∀ a ∈ names, a ≠ "") : join separator names ≠ "" := by
  cases names with
  | nil => exact absurd rfl h
  | cons a names =>
    have first := named a List.mem_cons_self
    cases names with
    | nil => exact first
    | cons b names =>
      intro empty
      rw [join_cons_of_ne_nil _ _ (List.cons_ne_nil b names), String.append_eq_empty_iff,
        String.append_eq_empty_iff] at empty
      exact first empty.1.1

/-! ## Blank characters

`isWhiteSpace` is the white space of the Unicode standard.  `isBlank` adds the four information
separators U+001C to U+001F. -/

/-- The ranges of the code points that are white space, in order. -/
def whiteSpaceRanges : List (Nat × Nat) :=
  [(0x09, 0x0D), (0x20, 0x20), (0x85, 0x85), (0xA0, 0xA0), (0x1680, 0x1680), (0x2000, 0x200A),
    (0x2028, 0x2029), (0x202F, 0x202F), (0x205F, 0x205F), (0x3000, 0x3000)]

/-- Whether a character is white space. -/
def isWhiteSpace (c : Char) : Bool :=
  whiteSpaceRanges.any fun r => r.1 ≤ c.toNat && c.toNat ≤ r.2

/-- Whether a character is an information separator. -/
def isInformationSeparator (c : Char) : Bool := 0x1C ≤ c.toNat && c.toNat ≤ 0x1F

/-- Whether a character is blank. -/
def isBlank (c : Char) : Bool := isWhiteSpace c || isInformationSeparator c

/-- The characters without those at either end that belong to a class. -/
def stripped (isDropped : Char → Bool) (cs : List Char) : List Char :=
  ((cs.dropWhile isDropped).reverse.dropWhile isDropped).reverse

/-- The text without its blanks at either end. -/
def trim (s : String) : String := String.ofList (stripped isBlank s.toList)

end KotlinStubs.Text
