import KotlinStubs.Settings.Basic
import KotlinStubs.Syntax.Reading
import KotlinStubs.Text.Basic

/-!
# Names

A name that Kotlin would not accept as it stands is written between quotes: one that is reserved or
contains a marker.  A name that the source writes as a string literal loses its own quotes first.
-/

namespace KotlinStubs

namespace Settings

variable (σ : Settings)

/-- Whether a name must be quoted. -/
def needsEscaping (name : String) : Bool :=
  σ.reservedWords.contains name || σ.escapeMarkers.any fun m => Text.occursIn m name

/-- A name as Kotlin accepts it. -/
def escape (name : String) : String :=
  if σ.needsEscaping name then σ.quote ++ name ++ σ.quote else name

/-- The text without its first and last character. -/
def withoutEnds (literal : String) : String :=
  String.ofList literal.toList.dropLast.tail

/-- The name that a string literal writes. -/
def unquote (literal : String) : String := σ.escape (withoutEnds literal)

end Settings

namespace Node

open Translation

/-- The name of a node as Kotlin accepts it. -/
def kotlinName (σ : Settings) (n : Node) : Translation String := do
  let text ← read n
  if n.kind = .string then
    pure (σ.unquote text)
  else
    pure (σ.escape text)

end Node

end KotlinStubs
