import KotlinStubs.Syntax.Node

/-!
# Separated lists

The parts of a bracketed or keyword-led list, without the delimiters, alternate payload and
separator.  The entries stand in their order; a payload is an entry at an even place, whatever it is.

* `evenPlaces_sublist`: payloads are entries, in their order.
-/

namespace KotlinStubs

/-- The elements at the places 0, 2, 4, …. -/
def evenPlaces {α : Type} : List α → List α
  | [] => []
  | [a] => [a]
  | a :: _ :: rest => a :: evenPlaces rest

theorem evenPlaces_sublist {α : Type} (as : List α) : (evenPlaces as).Sublist as := by
  induction as using evenPlaces.induct with
  | case1 => exact .slnil
  | case2 a => exact .refl _
  | case3 a b rest ih => exact (ih.cons b).cons_cons a

namespace Node

/-- The parts of a node that are none of the delimiters. -/
def entries (n : Node) (delimiters : List String) : List Node :=
  n.parts.filter fun c => !delimiters.contains c.type

/-- The entries at even places. -/
def payloads (n : Node) (delimiters : List String) : List Node := evenPlaces (n.entries delimiters)

/-- The number of entries at odd places. -/
def separatorCount (n : Node) (delimiters : List String) : Nat := (n.entries delimiters).length / 2

theorem payloads_sublist (n : Node) (ds : List String) : (n.payloads ds).Sublist n.children :=
  (evenPlaces_sublist _).trans (List.filter_sublist.trans List.filter_sublist)

end Node

/-- The delimiters of parameter lists. -/
def parentheses : List String := ["(", ")"]

/-- The delimiters of type argument and type parameter lists. -/
def angles : List String := ["<", ">"]

/-- The delimiters of the declarators of a variable declaration. -/
def declaratorDelimiters : List String := ["var", "let", "const", ";"]

end KotlinStubs
