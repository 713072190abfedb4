import SearchQuery.Dsl.Aggregation
import SearchQuery.Proofs.Query.Storable
import SearchQuery.Proofs.Time.Timestamp
import SearchQuery.Query.Build
/-!
# Arguments of aggregations

What reaches a request of the argument map of an aggregator, name by name. The bounds of a histogram
are clause values in their stored form; a pair and an object of the same two values are sent alike,
each value as a clause would send it.
-/

namespace SearchQuery

namespace Dsl

variable {target : Target} {collection : String}

/-! ### Argument maps -/

theorem get?_allowed (known : List String) (arguments : Object) (name : String) :
    Object.get? (allowed known arguments) name =
      if name ∈ known then Object.get? arguments name else none := by
  rw [allowed, Object.get?_filter arguments known.contains name]
  simp only [List.contains_iff_mem]

theorem sorted_allowed {arguments : Object} (h : arguments.Sorted) (known : List String) :
    (allowed known arguments).Sorted := List.Pairwise.filter _ h

/-- The bounds of a histogram as they are sent: an object, if they are given as a pair or as an
object. -/
def sentBounds (target : Target) : Json → Json
  | .arr bounds =>
    .obj [("max", renderBound target bounds[1]?), ("min", renderBound target bounds[0]?)]
  | .obj bounds => .obj [("max", renderBound target (Object.get? bounds "max")),
      ("min", renderBound target (Object.get? bounds "min"))]
  | other => other

/-- An argument of a histogram as it is sent: unchanged, save for its bounds. -/
def sentArgument (target : Target) (name : String) (value : Json) : Json :=
  if name = "extended_bounds" then sentBounds target value else value

theorem get?_withBounds (target : Target) (arguments : Object) (name : String) :
    Object.get? (withBounds target arguments) name =
      (Object.get? arguments name).map (sentArgument target name) := by
  unfold withBounds
  by_cases hname : name = "extended_bounds"
  · subst hname
    split
    · next bounds h => rw [Object.get?_insert, if_pos rfl, h]; rfl
    · next bounds h => rw [Object.get?_insert, if_pos rfl, h]; rfl
    · next harr hobj =>
      cases h : Object.get? arguments "extended_bounds" with
      | none => rfl
      | some value =>
        cases value with
        | arr bounds => exact absurd h (harr bounds)
        | obj bounds => exact absurd h (hobj bounds)
        | _ => rfl
  · have hsent : sentArgument target name = id := funext fun value => if_neg hname
    rw [hsent, Option.map_id, id]
    split <;> simp [Ne.symm hname]

theorem sorted_withBounds {arguments : Object} (h : arguments.Sorted) (target : Target) :
    (withBounds target arguments).Sorted := by
  unfold withBounds
  split
  · exact h.insert _ _
  · exact h.insert _ _
  · exact h

/-- The object of a histogram. -/
def histogram (target : Target) (collection field : String) (options : Object) : Object :=
  withBounds target (Object.insert (allowed dateHistogramArguments options) "field"
    (.str (bareColumn collection field)))

theorem get?_histogram (field : String) (options : Object) (name : String) :
    Object.get? (histogram target collection field options) name =
      if name = "field" then some (.str (bareColumn collection field))
      else if name ∈ dateHistogramArguments then
        (Object.get? options name).map (sentArgument target name)
      else none := by
  rw [histogram, get?_withBounds, Object.get?_insert, get?_allowed]
  by_cases hfield : name = "field"
  · subst hfield
    rfl
  · rw [if_neg (Ne.symm hfield), if_neg hfield]
    split <;> rfl

theorem sorted_histogram {options : Object} (h : options.Sorted) (field : String) :
    (histogram target collection field options).Sorted :=
  sorted_withBounds ((sorted_allowed h _).insert _ _) target

end Dsl

end SearchQuery
