import SearchQuery.Dsl.Clause
import SearchQuery.Proofs.Json.Object
/-!
# Meaning of query trees

Which documents a query tree matches, as the server evaluates it. A `bool` tree wants every query
under `must` and `filter` and none under `must_not`; its alternatives under `should` count only
when it has neither `must` nor `filter`. The judgement of all queries but `bool` and `match_all` is
left open.
-/

namespace SearchQuery

namespace Dsl

/-- How a document is judged by a query that is no `bool` tree, from the name of the query and what
stands under it. -/
abbrev Judgement (Doc : Type) := String → Json → Doc → Prop

/-- The queries in a section of a `bool` tree; a single query may stand without a list. -/
def sectionQueries (sections : Object) (name : String) : List Json :=
  match Object.get? sections name with
  | none => []
  | some (.arr queries) => queries
  | some query => [query]

/-- Whether a `bool` tree wants one of its alternatives to match. -/
def wantsAlternative (sections : Object) : Bool :=
  Object.has sections "should" && !Object.has sections "must" && !Object.has sections "filter"

private theorem sectionQueries_sizeOf {sections : Object} {name : String} {query : Json}
    (h : query ∈ sectionQueries sections name) : sizeOf query < sizeOf sections := by
  unfold sectionQueries at h
  split at h
  · simp at h
  · next queries hget =>
    have hsection := Object.sizeOf_get? hget
    have hquery := List.sizeOf_lt_of_mem h
    simp only [Json.arr.sizeOf_spec] at hsection
    omega
  · next value _ hget =>
    have hvalue : query = value := by simpa using h
    rw [hvalue]
    exact Object.sizeOf_get? hget

variable {Doc : Type} (judge : Judgement Doc) (document : Doc)

/-- Whether a query tree matches a document. -/
def Matches : Json → Prop
  | .obj [("bool", .obj sections)] =>
    (∀ query, (_ : query ∈ sectionQueries sections "must") → Matches query) ∧
    (∀ query, (_ : query ∈ sectionQueries sections "filter") → Matches query) ∧
    (∀ query, (_ : query ∈ sectionQueries sections "must_not") → ¬ Matches query) ∧
    (wantsAlternative sections = true →
      ∃ query, ∃ _ : query ∈ sectionQueries sections "should", Matches query)
  | .obj [("match_all", _)] => True
  | .obj [(name, content)] => judge name content document
  | _ => False
termination_by query => sizeOf query
decreasing_by
  all_goals
    have := sectionQueries_sizeOf ‹_›
    simp only [Json.obj.sizeOf_spec, List.cons.sizeOf_spec, List.nil.sizeOf_spec,
      Prod.mk.sizeOf_spec]
    omega

/-- Whether an optional tree matches; without a tree every document does. -/
def Accepts (query : Option Json) : Prop := ∀ tree ∈ query, Matches judge document tree

@[simp] theorem accepts_none : Accepts judge document none := by
  simp [Accepts]

@[simp] theorem accepts_some (tree : Json) :
    Accepts judge document (some tree) ↔ Matches judge document tree := by
  simp [Accepts]

theorem matches_bool (sections : Object) :
    Matches judge document (.obj [("bool", .obj sections)]) ↔
      (∀ query ∈ sectionQueries sections "must", Matches judge document query) ∧
      (∀ query ∈ sectionQueries sections "filter", Matches judge document query) ∧
      (∀ query ∈ sectionQueries sections "must_not", ¬ Matches judge document query) ∧
      (wantsAlternative sections = true →
        ∃ query ∈ sectionQueries sections "should", Matches judge document query) := by
  rw [Matches]
  simp only [exists_prop]

@[simp] theorem matches_matchAll : Matches judge document matchAll := by
  simp [matchAll, Json.single, Object.single, Matches]

theorem matches_judge (name : String) (content : Json) (hbool : name ≠ "bool")
    (hall : name ≠ "match_all") :
    Matches judge document (.single name content) ↔ judge name content document := by
  rw [Json.single, Object.single, Matches]
  · exact fun _ h => absurd h hbool
  · exact hall

@[simp] theorem matches_must (queries : List Json) :
    Matches judge document (must queries) ↔ ∀ query ∈ queries, Matches judge document query := by
  simp [must, Json.single, Object.single, matches_bool, sectionQueries, wantsAlternative,
    Object.has]

@[simp] theorem matches_should (queries : List Json) :
    Matches judge document (should queries) ↔
      ∃ query ∈ queries, Matches judge document query := by
  simp [should, Json.single, Object.single, matches_bool, sectionQueries, wantsAlternative,
    Object.has]

@[simp] theorem matches_mustNot (query : Json) :
    Matches judge document (mustNot [query]) ↔ ¬ Matches judge document query := by
  simp [mustNot, Json.single, Object.single, matches_bool, sectionQueries, wantsAlternative,
    Object.has]

end Dsl

end SearchQuery
