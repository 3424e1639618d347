import KotlinStubs.Text.Basic
import KotlinStubs.Text.Identifier

/-!
# Paths of files

A path is a text with components between slashes.  Empty components and `.` do not count, `..` does.
A file gives its name to a package: the file name without its ending, if that is an identifier.

* `Path.display`: the path without what does not count.
* `Path.fileName?`: its last component.
* `packageName?`: the package that the file makes.
-/

namespace KotlinStubs

namespace Path

/-- The components of some characters between slashes, empty ones included. -/
def split : List Char → List (List Char)
  | [] => [[]]
  | c :: rest =>
    if c = '/' then
      [] :: split rest
    else
      match split rest with
      | [] => [[c]]
      | first :: others => (c :: first) :: others

/-- The components that count. -/
def components (path : String) : List String :=
  (split path.toList).filterMap fun part =>
    if part = [] || part = ['.'] then none else some (String.ofList part)

/-- The slashes that an absolute path starts with: one, or two if there are exactly two. -/
def root (path : String) : String :=
  match path.toList with
  | '/' :: '/' :: '/' :: _ => "/"
  | '/' :: '/' :: _ => "//"
  | '/' :: _ => "/"
  | _ => ""

/-- The path without the components that do not count, `.` if nothing is left. -/
def display (path : String) : String :=
  let shown := root path ++ Text.join "/" (components path)
  if shown.isEmpty then "." else shown

/-- The last component. -/
def fileName? (path : String) : Option String := (components path).getLast?

end Path

/-! ## Packages -/

/-- The endings of source files.  The first that fits is cut off, so the longer come first. -/
def sourceEndings : List String := [".d.ts", ".d.tsx", ".ts", ".tsx"]

/-- A file name without the ending of a source file. -/
def withoutEnding (fileName : List Char) : List Char :=
  match sourceEndings.find? fun e => e.toList.isSuffixOf fileName with
  | some e => fileName.take (fileName.length - e.length)
  | none => fileName

/-- The name of the package that the file at a path makes. -/
def packageName? (path : String) : Option String :=
  let name := withoutEnding ((Path.fileName? path).getD "").toList
  if Text.isIdentifier name then some (String.ofList name) else none

end KotlinStubs
