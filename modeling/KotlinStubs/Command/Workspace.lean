import KotlinStubs.Path
import KotlinStubs.Syntax.Node

/-!
# Workspace of the command

What the paths given to the command lead to.  A `Workspace` tells for each path whether nothing, a
directory or a source with its tree is there.

* `Workspace.single`: the workspace of one file below the working directory.
-/

namespace KotlinStubs

/-- What a path leads to. -/
inductive Entry where
  | missing
  | directory
  | source (root : Node)

/-- What every path leads to. -/
abbrev Workspace := String → Entry

namespace Workspace

/-- A place in the file system: below the working directory, on one of the directories above it, or
nowhere. -/
inductive Place where
  | inside (names : List String)
  | above
  | nowhere
  deriving DecidableEq

/-- Whether a place is a directory if the one file of the workspace has the given names on its
way. -/
def Place.isDirectory (file : List String) : Place → Bool
  | .inside names => names.isPrefixOf file && names != file || names.isEmpty
  | .above => true
  | .nowhere => false

/-- The place that a component of a path leads to. -/
def Place.step (file : List String) (place : Place) (component : List Char) : Place :=
  if place.isDirectory file then
    match place, component with
    | place, [] => place
    | place, ['.'] => place
    | .inside [], ['.', '.'] => .above
    | .inside names, ['.', '.'] => .inside names.dropLast
    | .inside names, name =>
      let names := names ++ [String.ofList name]
      if names.isPrefixOf file then .inside names else .nowhere
    | .above, ['.', '.'] => .above
    | _, _ => .nowhere
  else
    .nowhere

/-- The place that a path leads to from the working directory. -/
def Place.of (file : List String) (path : String) : Place :=
  let start := if (Path.root path).isEmpty then Place.inside [] else .above
  if path.isEmpty then .nowhere else (Path.split path.toList).foldl (Place.step file) start

/-- The workspace of one file, or of none. -/
def single (file : Option (String × Node)) : Workspace := fun path =>
  let names := match file with
    | some (name, _) => Path.components name
    | none => []
  let place := Place.of names path
  if place.isDirectory names then
    .directory
  else
    match place, file with
    | .inside _, some (_, root) => .source root
    | _, _ => .missing

end Workspace

end KotlinStubs
