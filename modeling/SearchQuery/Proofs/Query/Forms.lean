import SearchQuery.Proofs.Query.ReadBack
import SearchQuery.Query.Stored
/-!
# What forms pass over

A text is read without the members that its form does not know. In the stored form of a query they
are found in one place only: the options of a script, which stand where those of its clause are
looked for.
-/

namespace SearchQuery

open Datum

namespace Form

mutual

/-- The data without the members that a form passes over. -/
def keep (form : Form) : Datum → Datum
  | .list items =>
    match form.strip.items? with
    | some (first, others) => .list (keepItems first others items)
    | none => .list items
  | .map members =>
    if form.strip.key?.isSome then .map (keepMembers form.strip members) else .map members
  | datum => datum

/-- The items of a list without what the forms of the first one and of the others pass over. -/
def keepItems (first others : Form) : List Datum → List Datum
  | [] => []
  | item :: rest => keep first item :: keepItems others others rest

/-- The members of a map that a form knows, without what the forms of their values pass over. -/
def keepMembers (form : Form) : List (Datum × Datum) → List (Datum × Datum)
  | [] => []
  | (key, value) :: rest =>
    match form.member? key with
    | some inner => (key, keep inner value) :: keepMembers form rest
    | none => keepMembers form rest

end

theorem keep_of_scalar {form : Form} (hitems : form.strip.items? = none)
    (hkey : form.strip.key? = none) (datum : Datum) : form.keep datum = datum := by
  cases datum <;> simp [keep, hitems, hkey]

theorem named_known (members : List (String × Form)) (others : Form) (key : Datum) :
    named members (some others) key = some others ∨
      ∃ member ∈ members, named members (some others) key = some member.2 := by
  cases hfind : members.find? fun member => key.isName member.1 with
  | none => exact .inl (by simp only [named, hfind])
  | some member =>
    exact .inr ⟨member, List.mem_of_find?_eq_some hfind, by simp only [named, hfind]⟩

mutual

theorem keep_anything {form : Form} (h : form = free ∨ form = content) :
    (datum : Datum) → form.keep datum = datum
  | .list items => by
    have hitems := keepItems_anything h items
    rcases h with rfl | rfl <;> simp only [keep, strip, items?, hitems]
  | .map members => by
    have hmembers := keepMembers_anything h members
    rcases h with rfl | rfl <;> simp [keep, strip, key?, hmembers]
  | .null | .bool _ | .count _ | .signed _ | .float _ | .str _ => by simp only [keep]

theorem keepItems_anything {form : Form} (h : form = free ∨ form = content) :
    (items : List Datum) → keepItems form form items = items
  | [] => rfl
  | item :: rest => by rw [keepItems, keep_anything h item, keepItems_anything h rest]

theorem keepMembers_anything {form : Form} (h : form = free ∨ form = content) :
    (members : List (Datum × Datum)) → keepMembers form members = members
  | [] => rfl
  | (key, value) :: rest => by
    have hvalue := keep_anything h value
    have hmembers := keepMembers_anything h rest
    rcases h with rfl | rfl <;> simp only [keepMembers, member?, hvalue, hmembers]

end

theorem keep_content (datum : Datum) : content.keep datum = datum :=
  keep_anything (.inr rfl) datum

mutual

theorem keep_aggregation : (datum : Datum) → aggregation.keep datum = datum
  | .list items => by simp only [keep, strip, items?]
  | .map members => by
    have hmembers := keepMembers_aggregation members
    simp only [keep, strip, key?, Option.isSome_some, if_true, hmembers]
  | .null | .bool _ | .count _ | .signed _ | .float _ | .str _ => by simp only [keep]

theorem keep_children : (datum : Datum) → (list aggregation).keep datum = datum
  | .list items => by
    have hitems := keepItems_aggregation items
    simp only [keep, strip, items?, hitems]
  | .map members => by simp [keep, strip, key?]
  | .null | .bool _ | .count _ | .signed _ | .float _ | .str _ => by simp only [keep]

theorem keepItems_aggregation : (items : List Datum) →
    keepItems aggregation aggregation items = items
  | [] => rfl
  | item :: rest => by rw [keepItems, keep_aggregation item, keepItems_aggregation rest]

theorem keepMembers_aggregation : (members : List (Datum × Datum)) →
    keepMembers aggregation members = members
  | [] => rfl
  | (key, value) :: rest => by
    have hrest := keepMembers_aggregation rest
    have htext := @keep_of_scalar text rfl rfl value
    have hchildren := keep_children value
    rcases named_known [("key", text), ("children", list aggregation)] content key with
      hform | ⟨member, hmember, hform⟩
    · simp only [keepMembers, member?, hform, keep_content, hrest]
    · rcases (by simpa using hmember : member = _ ∨ member = _) with rfl | rfl
      · simp only [keepMembers, member?, hform, htext, hrest]
      · simp only [keepMembers, member?, hform, hchildren, hrest]

end

end Form

/-! ### Clauses and queries -/

/-- The options of a script that are known where the options of its clause are looked for. -/
def knownOptions (own : Object) : Object :=
  own.filter fun entry => entry.1 == "boost" || entry.1 == "inner_hits"

/-- The condition that is found in the text of a clause. -/
def Condition.known : Condition → Condition
  | .script source own => .script source (knownOptions own)
  | condition => condition

/-- The clause that is found in its text. -/
def Clause.known (clause : Clause) : Clause :=
  { clause with condition := clause.condition.known }

/-- The query that is found in its text; nothing is passed over in the sub-queries of conditions. -/
def Query.known (query : Query) : Query :=
  { query with
    wheres := query.wheres.map Clause.known
    filters := query.filters.map Clause.known
    postFilters := query.postFilters.map Clause.known }

namespace Form

end Form

end SearchQuery
