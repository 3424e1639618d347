/-!
# Control sequences

A terminal takes an escape, a bracket, parameters, intermediate characters and one final character
for a control sequence, which changes how text is shown and is no part of it.

* `withoutControlSequences_of_not_mem`: characters without escape are kept as they are.
-/

namespace KotlinStubs.Text

/-- The character that starts a control sequence. -/
def escapeChar : Char := '\x1b'

/-- Whether a character is a parameter of a control sequence: a digit or one of `:;<=>?`. -/
def isParameterChar (c : Char) : Bool := '0' ≤ c && c ≤ '?'

/-- Whether a character is an intermediate one of a control sequence: the blank or one of the
marks up to the slash. -/
def isIntermediateChar (c : Char) : Bool := ' ' ≤ c && c ≤ '/'

/-- Whether a character ends a control sequence: a letter or one of the marks around letters. -/
def isFinalChar (c : Char) : Bool := '@' ≤ c && c ≤ '~'

/-- What follows the control sequence whose escape has been read, if it is one. -/
def afterControlSequence? : List Char → Option (List Char)
  | '[' :: rest =>
    match (rest.dropWhile isParameterChar).dropWhile isIntermediateChar with
    | c :: later => if isFinalChar c then some later else none
    | [] => none
  | _ => none

/-- A control sequence takes some characters, so leaving them out ends. -/
theorem afterControlSequence?_length {cs later : List Char}
    (h : afterControlSequence? cs = some later) : later.length < cs.length := by
  unfold afterControlSequence? at h
  split at h
  · next rest =>
    have hparameters := (List.dropWhile_sublist isParameterChar (l := rest)).length_le
    have hintermediate := (List.dropWhile_sublist isIntermediateChar
      (l := rest.dropWhile isParameterChar)).length_le
    split at h
    · next c later' heq =>
      rw [heq] at hintermediate
      split at h
      · cases h
        simp only [List.length_cons] at hintermediate ⊢
        omega
      · cases h
    · cases h
  · cases h

/-- The characters without their control sequences. -/
def withoutControlSequences (cs : List Char) : List Char :=
  match cs with
  | [] => []
  | c :: rest =>
    if c = escapeChar then
      match _h : afterControlSequence? rest with
      | some later => withoutControlSequences later
      | none => c :: withoutControlSequences rest
    else
      c :: withoutControlSequences rest
termination_by cs.length
decreasing_by
  · have := afterControlSequence?_length _h
    simp only [List.length_cons]
    omega
  · simp
  · simp

theorem withoutControlSequences_of_not_mem {cs : List Char} (h : escapeChar ∉ cs) :
    withoutControlSequences cs = cs := by
  induction cs with
  | nil => rw [withoutControlSequences]
  | cons c cs ih =>
    simp only [List.mem_cons, not_or] at h
    rw [withoutControlSequences, if_neg (Ne.symm h.1), ih h.2]

/-- A text as it is shown where control sequences have no meaning. -/
def plain (s : String) : String := String.ofList (withoutControlSequences s.toList)

end KotlinStubs.Text
