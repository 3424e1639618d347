import Mathlib.Data.List.Basic
import Mathlib.Data.List.Find
import KotlinStubs.Path

/-!
# Package names and file names

The file name in a path is its last component that counts; only slashes and components `.` may stand
behind it.  It gives the package name just if it is an identifier, bare or with one ending of source
files: no identifier holds a dot, so that the endings `.d.ts` and `.ts` are told apart.

* `Path.componentInduction`: induction on the components of a path, the last one first.
* `Path.fileName?_eq_some_iff`: the file name in a path.
* `packageName?_domain`: the paths that give a package name.
-/

namespace KotlinStubs

namespace Path

/-- Characters that do not count at the end of a path: slashes, and components `.` behind them. -/
inductive Idle : List Char → Prop
  | nil : Idle []
  | slash {rest : List Char} : Idle rest → Idle ('/' :: rest)
  | dot {rest : List Char} : Idle rest → Idle ('/' :: '.' :: rest)

/-- `name` is the final component of a path: it stands at the start or behind a slash, and nothing
that counts stands behind it. -/
structure IsFinal (path name : List Char) : Prop where
  ne_nil : name ≠ []
  ne_dot : name ≠ ['.']
  not_mem : '/' ∉ name
  placed : ∃ front idle, path = front ++ name ++ idle ∧
    (front = [] ∨ ∃ before, front = before ++ ['/']) ∧ Idle idle

/-- The component that the characters between two slashes make, if it counts. -/
def component? (part : List Char) : Option String :=
  if part = [] || part = ['.'] then none else some (String.ofList part)

/-- The components that count in some characters. -/
def counted (chars : List Char) : List String := (split chars).filterMap component?

section

variable {chars before behind part idle : List Char} {name : String}

/-! ## Components -/

/-- Induction over a path from the left: it is one component, or a path, a slash and one component.
-/
theorem componentInduction {P : List Char → Prop} (single : ∀ part, '/' ∉ part → P part)
    (concat : ∀ before part, P before → '/' ∉ part → P (before ++ '/' :: part))
    (chars : List Char) : P chars := by
  induction length : chars.length using Nat.strongRecOn generalizing chars with
  | _ n ih =>
    by_cases slash : '/' ∈ chars
    · obtain ⟨behind, before, reversed, last⟩ :=
        List.eq_append_cons_of_mem (List.mem_reverse.2 slash)
      have parted : chars = before.reverse ++ '/' :: behind.reverse := by
        rw [← List.reverse_reverse chars, reversed]
        simp
      rw [parted] at length ⊢
      rw [List.length_append, List.length_cons] at length
      exact concat _ _ (ih before.reverse.length (by omega) _ rfl) (by rwa [List.mem_reverse])
    · exact single chars slash

theorem split_ne_nil (chars : List Char) : split chars ≠ [] := by
  cases chars with
  | nil => exact List.cons_ne_nil _ _
  | cons c rest =>
    rw [split]
    split
    · exact List.cons_ne_nil _ _
    · split <;> exact List.cons_ne_nil _ _

theorem split_of_not_mem (single : '/' ∉ part) : split part = [part] := by
  induction part with
  | nil => rfl
  | cons c part ih =>
    rw [List.mem_cons, not_or] at single
    rw [split, if_neg (Ne.symm single.1), ih single.2]

theorem split_append (before behind : List Char) :
    split (before ++ '/' :: behind) = split before ++ split behind := by
  induction before with
  | nil => rfl
  | cons c before ih =>
    rw [List.cons_append, split, split, ih]
    split
    · rfl
    · obtain ⟨first, others, parts⟩ := List.exists_cons_of_ne_nil (split_ne_nil before)
      rw [parts]
      rfl

theorem counted_of_not_mem (single : '/' ∉ part) : counted part = (component? part).toList := by
  rw [counted, split_of_not_mem single]
  cases component : component? part with
  | none => rw [List.filterMap_cons_none component]; rfl
  | some name => rw [List.filterMap_cons_some component]; rfl

theorem counted_append (before behind : List Char) :
    counted (before ++ '/' :: behind) = counted before ++ counted behind := by
  rw [counted, split_append, List.filterMap_append, counted, counted]

theorem component?_eq_none : component? part = none ↔ part = [] ∨ part = ['.'] := by
  simp [component?, or_iff_not_imp_left]

theorem component?_eq_some :
    component? part = some name ↔ part ≠ [] ∧ part ≠ ['.'] ∧ part = name.toList := by
  simp [component?, ← and_assoc, ← String.toList_inj]

/-! ## The final component -/

theorem Idle.append (h : Idle idle) (rest : component? part = none) :
    Idle (idle ++ '/' :: part) := by
  induction h with
  | nil =>
    rcases component?_eq_none.1 rest with rfl | rfl
    · exact .slash .nil
    · exact .dot .nil
  | slash _ ih => exact .slash ih
  | dot _ ih => exact .dot ih

theorem counted_append_idle (h : Idle idle) (chars : List Char) :
    counted (chars ++ idle) = counted chars := by
  induction h generalizing chars with
  | nil => rw [List.append_nil]
  | slash _ ih =>
    have nothing := ih []
    rw [List.nil_append] at nothing
    rw [counted_append, nothing]
    exact List.append_nil _
  | dot _ ih =>
    have nothing := ih ['.']
    rw [List.singleton_append] at nothing
    rw [counted_append, nothing]
    exact List.append_nil _

theorem IsFinal.getLast?_counted (h : IsFinal chars name.toList) :
    (counted chars).getLast? = some name := by
  obtain ⟨front, idle, rfl, front_eq, isIdle⟩ := h.placed
  have component : component? name.toList = some name :=
    component?_eq_some.2 ⟨h.ne_nil, h.ne_dot, rfl⟩
  have last : counted name.toList = [name] := by
    rw [counted_of_not_mem h.not_mem, component]
    rfl
  rw [counted_append_idle isIdle]
  rcases front_eq with rfl | ⟨before, rfl⟩
  · rw [List.nil_append, last]
    rfl
  · rw [List.append_assoc, List.singleton_append, counted_append, last, List.getLast?_concat]

/-- The last component that counts is the final one: what stands behind it does not count. -/
theorem isFinal_of_getLast? (h : (counted chars).getLast? = some name) :
    IsFinal chars name.toList := by
  induction chars using componentInduction with
  | single part single =>
    rw [counted_of_not_mem single] at h
    cases component : component? part with
    | none => rw [component] at h; cases h
    | some last =>
      rw [component] at h
      obtain rfl : last = name := Option.some.inj h
      obtain ⟨ne_nil, ne_dot, rfl⟩ := component?_eq_some.1 component
      exact ⟨ne_nil, ne_dot, single, [], [], (List.append_nil _).symm, .inl rfl, .nil⟩
  | concat before part ih single =>
    rw [counted_append, counted_of_not_mem single] at h
    cases component : component? part with
    | none =>
      rw [component, Option.toList_none, List.append_nil] at h
      obtain ⟨ne_nil, ne_dot, not_mem, front, idle, rfl, front_eq, isIdle⟩ := ih h
      refine ⟨ne_nil, ne_dot, not_mem, front, idle ++ '/' :: part, ?_, front_eq,
        isIdle.append component⟩
      rw [List.append_assoc]
    | some last =>
      rw [component, Option.toList_some, List.getLast?_concat] at h
      obtain rfl : last = name := Option.some.inj h
      obtain ⟨ne_nil, ne_dot, rfl⟩ := component?_eq_some.1 component
      refine ⟨ne_nil, ne_dot, single, before ++ ['/'], [], ?_, .inr ⟨before, rfl⟩, .nil⟩
      rw [List.append_nil, List.append_assoc, List.singleton_append]

theorem fileName?_eq_some_iff {path : String} :
    fileName? path = some name ↔ IsFinal path.toList name.toList := by
  have last : fileName? path = (counted path.toList).getLast? := rfl
  rw [last]
  exact ⟨isFinal_of_getLast?, IsFinal.getLast?_counted⟩

end

end Path

/-! ## Endings -/

section

variable {name ending ending' : List Char}

/-- What starts with a dot ends a text just if it ends what follows a front part without dots. -/
theorem isSuffixOf_append_of_not_mem (dotless : '.' ∉ name) (dot : ending'.head? = some '.') :
    ending'.isSuffixOf (name ++ ending) = ending'.isSuffixOf ending := by
  rw [Bool.eq_iff_iff, List.isSuffixOf_iff_suffix, List.isSuffixOf_iff_suffix]
  refine ⟨fun suffix => ?_, fun suffix => suffix.trans (List.suffix_append _ _)⟩
  rcases List.suffix_or_suffix_of_suffix suffix (List.suffix_append name ending) with
    within | ⟨front, rfl⟩
  · exact within
  · cases front with
    | nil => exact List.suffix_refl _
    | cons c front =>
      -- A longer ending would start within the name, which has no dot.
      obtain rfl : c = '.' := Option.some.inj dot
      obtain ⟨before, whole⟩ := suffix
      rw [← List.append_assoc] at whole
      have inName := List.append_cancel_right whole
      rw [← inName] at dotless
      exact absurd (List.mem_append_right before List.mem_cons_self) dotless

/-- The first ending that fits an ending is the ending itself. -/
theorem find?_sourceEndings :
    ∀ e ∈ "" :: sourceEndings, (sourceEndings.find? fun e' => e'.toList.isSuffixOf e.toList) =
      if e = "" then none else some e := by
  decide

theorem withoutEnding_append (dotless : '.' ∉ name) {e : String}
    (isEnding : e ∈ "" :: sourceEndings) :
    withoutEnding (name ++ e.toList) = name := by
  have dots : ∀ e' ∈ sourceEndings, e'.toList.head? = some '.' := by decide
  have found : (sourceEndings.find? fun e' => e'.toList.isSuffixOf (name ++ e.toList)) =
      if e = "" then none else some e := by
    rw [← find?_sourceEndings e isEnding]
    exact List.find?_congr fun e' he' => isSuffixOf_append_of_not_mem dotless (dots e' he')
  rw [withoutEnding, found]
  by_cases bare : e = ""
  · rw [if_pos bare, bare]
    exact List.append_nil name
  · rw [if_neg bare]
    simp only [List.length_append, String.length_toList, Nat.add_sub_cancel, List.take_left]

theorem exists_ending (name : List Char) :
    ∃ e ∈ "" :: sourceEndings, name = withoutEnding name ++ e.toList := by
  rw [withoutEnding]
  split
  · next e found =>
    have fits : e.toList.isSuffixOf name = true := by simpa using List.find?_some found
    obtain ⟨front, rfl⟩ := List.isSuffixOf_iff_suffix.1 fits
    refine ⟨e, List.mem_cons_of_mem _ (List.mem_of_find?_eq_some found), ?_⟩
    simp only [List.length_append, String.length_toList, Nat.add_sub_cancel, List.take_left]
  · exact ⟨"", List.mem_cons_self, (List.append_nil name).symm⟩

end

/-! ## Packages -/

/-- The file at a path gives its name to the package: it is an identifier, and the file name is the
name, bare or with an ending of source files. -/
structure IsPackage (path package : String) : Prop where
  identifier : Text.isIdentifier package.toList = true
  named : ∃ ending ∈ ["", ".d.ts", ".d.tsx", ".ts", ".tsx"],
    Path.IsFinal path.toList (package ++ ending).toList

section

variable {path package : String}

/-- The name that is given to the package is that of the file, without its ending. -/
theorem isPackage_of_packageName? (h : packageName? path = some package) :
    IsPackage path package := by
  obtain ⟨identifier, named⟩ := Option.ite_none_right_eq_some.1 h
  obtain rfl := Option.some.inj named
  refine ⟨by rwa [String.toList_ofList], ?_⟩
  cases fileName : Path.fileName? path with
  | none =>
    -- Without a file name there are no characters, which make no identifier.
    rw [fileName] at identifier
    cases identifier
  | some name =>
    obtain ⟨ending, isEnding, parted⟩ := exists_ending name.toList
    refine ⟨ending, isEnding, ?_⟩
    rw [String.toList_append, String.toList_ofList, Option.getD_some, ← parted]
    exact Path.fileName?_eq_some_iff.1 fileName

theorem IsPackage.packageName?_eq (h : IsPackage path package) :
    packageName? path = some package := by
  obtain ⟨identifier, ending, isEnding, final⟩ := h
  have dotless : '.' ∉ package.toList :=
    Text.not_mem_of_isIdentifier identifier (by decide +kernel) (by decide +kernel)
  have name : withoutEnding ((Path.fileName? path).getD "").toList = package.toList := by
    rw [Path.fileName?_eq_some_iff.2 final, Option.getD_some, String.toList_append]
    exact withoutEnding_append dotless isEnding
  rw [packageName?, name, if_pos identifier, String.ofList_toList]

end

/-- **Package names.** A path gives just the package name that `IsPackage` tells, and none if there
is no such name. -/
theorem packageName?_domain (path : String) :
    (∀ package, packageName? path = some package ↔ IsPackage path package) ∧
      (packageName? path = none ↔ ∀ package, ¬ IsPackage path package) := by
  have gives (package : String) : packageName? path = some package ↔ IsPackage path package :=
    ⟨isPackage_of_packageName?, IsPackage.packageName?_eq⟩
  refine ⟨gives, ?_⟩
  simp only [← gives]
  exact Option.eq_none_iff_forall_ne_some

example : packageName? "typings/./jquery.d.ts/." = some "jquery" := by decide +kernel

example : packageName? "typings/jquery.min.d.ts" = none := by decide +kernel

end KotlinStubs
