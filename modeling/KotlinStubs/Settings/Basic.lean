/-!
# Settings

The settings of a translation: which names must be quoted in Kotlin, with which quote, and the
grammar of sources whose file name does not tell it.
-/

namespace KotlinStubs

/-- The two dialects of sources. -/
inductive Grammar where
  | typescript
  | tsx
  deriving DecidableEq

namespace Grammar

/-- The written name of a grammar. -/
def name : Grammar → String
  | typescript => "typescript"
  | tsx => "tsx"

/-- The grammar with a given name. -/
def ofName? (s : String) : Option Grammar := [typescript, tsx].find? (·.name == s)

end Grammar

/-- The settings of a translation.  A name is quoted if it is reserved or contains a marker. -/
structure Settings where
  reservedWords : List String :=
    ["This", "as", "fun", "in", "is", "object", "package", "trait", "type", "val", "var", "when"]
  escapeMarkers : List String := ["$"]
  quote : String := "`"
  grammar : Grammar := .typescript
  deriving DecidableEq

end KotlinStubs
