import Mathlib.Data.List.Forall2
import SearchQuery.Proofs.Dsl.Column
import SearchQuery.Proofs.Json.Object
import SearchQuery.Dsl.Clause
/-!
# Searched fields

The server knows two forms of a full-text query. Each entry under `multi_match` is a field that may
have its weight behind a caret; under `match` the name of the one field is all of the name, a caret
included. So a search over several fields addresses each by its name, whatever the weights, and a
search over one field does so exactly if the field has no weight.
-/

namespace SearchQuery

def SearchField.unweighted (field : SearchField) : SearchField := { field with boost := none }

namespace Dsl

/-! ### Reading a full-text query -/

/-- The field of an entry under `multi_match`: what stands in front of the caret. -/
def entryField (entry : String) : String := String.ofList (entry.toList.takeWhile (· ≠ '^'))

/-- A query without the constant score around it. -/
def scoredQuery : Json → Json
  | .obj [("constant_score", .obj [("query", query)])] => query
  | query => query

/-- The fields that a full-text query addresses. -/
def addressedFields (query : Json) : List String :=
  match scoredQuery query with
  | .obj [("match", .obj fields)] => fields.map (·.1)
  | .obj [("multi_match", settings)] =>
    match settings.field? "fields" with
    | some (.arr entries) => (entries.filterMap Json.str?).map entryField
    | _ => []
  | _ => []

/-- How an entry writes a field: its name, and a caret and the weight if there is one. -/
inductive IsEntryOf (collection : String) : SearchField → String → Prop where
  | plain (name : String) : IsEntryOf collection { name } (bareColumn collection name)
  | weighted (name : String) (boost : Binary64) :
      IsEntryOf collection { name, boost := some boost }
        (bareColumn collection name ++ "^" ++ DecimalLayout.plain.text boost)

/-- Whether a query searches fields by their names, as the query for the same fields without weights
does. -/
structure SearchesByName (collection : String) (fields : List SearchField)
    (query unweighted : Json) : Prop where
  addressed : addressedFields query = fields.map fun field => bareColumn collection field.name
  lone : ∀ field, fields = [field] → ∃ settings,
    scoredQuery query = .single "match" (.single (bareColumn collection field.name) settings)
  several : 1 < fields.length → ∃ entries settings,
    scoredQuery query = .single "multi_match" settings ∧
      settings.field? "fields" = some (.ofStrings entries) ∧
      List.Forall₂ (IsEntryOf collection) fields entries
  unweighted : addressedFields query = addressedFields unweighted

/-! ### Entries -/

variable {collection : String}

theorem searchedField_plain (name : String) :
    searchedField collection { name } = bareColumn collection name := by
  rw [searchedField, String.append_empty]

theorem searchedField_weighted (name : String) (boost : Binary64) :
    searchedField collection { name, boost := some boost } =
      bareColumn collection name ++ "^" ++ DecimalLayout.plain.text boost := by
  rw [searchedField, String.append_assoc]

theorem isEntryOf_searchedField (field : SearchField) :
    IsEntryOf collection field (searchedField collection field) := by
  obtain ⟨name, _ | boost⟩ := field
  · rw [searchedField_plain]
    exact .plain name
  · rw [searchedField_weighted]
    exact .weighted name boost

theorem searchedField_eq_iff {field : SearchField} :
    searchedField collection field = bareColumn collection field.name ↔ field.boost = none := by
  obtain ⟨name, _ | boost⟩ := field
  · exact iff_of_true (searchedField_plain name) rfl
  · refine iff_of_false ?_ (Option.some_ne_none boost)
    intro h
    -- The entry is longer than the name by at least the caret.
    have hlength := congrArg (·.toList.length) h
    simp only [searchedField_weighted, String.toList_append, List.length_append] at hlength
    have hcaret : "^".toList.length = 1 := rfl
    omega

/-- A name without a caret is what is read out of its entry, whatever the weight. -/
theorem entryField_searchedField {field : SearchField} (h : '^' ∉ field.name.toList) :
    entryField (searchedField collection field) = bareColumn collection field.name := by
  have hname : ∀ c ∈ (bareColumn collection field.name).toList, decide (c ≠ '^') = true := by
    intro c hc
    rw [decide_eq_true_iff]
    rintro rfl
    exact h (mem_of_mem_bareColumn hc)
  obtain ⟨weight, hentry, hweight⟩ : ∃ weight,
      (searchedField collection field).toList =
        (bareColumn collection field.name).toList ++ weight ∧
      weight.takeWhile (· ≠ '^') = [] := by
    obtain ⟨name, _ | boost⟩ := field
    · exact ⟨[], by rw [searchedField_plain, List.append_nil], rfl⟩
    · refine ⟨"^".toList ++ (DecimalLayout.plain.text boost).toList, ?_, rfl⟩
      rw [searchedField_weighted, String.toList_append, String.toList_append, List.append_assoc]
  rw [entryField, hentry, List.takeWhile_append_of_pos hname, hweight, List.append_nil,
    String.ofList_toList]

theorem map_entryField {fields : List SearchField}
    (hcarets : ∀ field ∈ fields, '^' ∉ field.name.toList) :
    (fields.map (searchedField collection)).map entryField =
      fields.map fun field => bareColumn collection field.name := by
  rw [List.map_map]
  exact List.map_congr_left fun field hfield => entryField_searchedField (hcarets field hfield)

/-! ### Searches -/

variable (collection) (text : String) (matchType : Option String) (fuzziness : Option Json)
  (constantScore : Bool)

theorem scoredQuery_search_lone (field : SearchField) : ∃ settings,
    scoredQuery (search collection text [field] matchType fuzziness constantScore) =
      .single "match" (.single (searchedField collection field) settings) := by
  cases constantScore
  · exact ⟨_, rfl⟩
  · exact ⟨_, rfl⟩

theorem scoredQuery_search_several {fields : List SearchField} (h : 1 < fields.length) :
    ∃ settings,
      scoredQuery (search collection text fields matchType fuzziness constantScore) =
        .single "multi_match" settings ∧
      settings.field? "fields" = some (.ofStrings (fields.map (searchedField collection))) := by
  obtain ⟨first, second, rest, rfl⟩ : ∃ first second rest, fields = first :: second :: rest := by
    match fields, h with
    | first :: second :: rest, _ => exact ⟨first, second, rest, rfl⟩
  cases constantScore
  · refine ⟨_, rfl, ?_⟩
    cases fuzziness <;> rfl
  · refine ⟨_, rfl, ?_⟩
    cases fuzziness <;> rfl

theorem addressedFields_search_lone (field : SearchField) :
    addressedFields (search collection text [field] matchType fuzziness constantScore) =
      [searchedField collection field] := by
  obtain ⟨settings, hquery⟩ :=
    scoredQuery_search_lone collection text matchType fuzziness constantScore field
  rw [addressedFields, hquery]
  rfl

theorem addressedFields_search_several {fields : List SearchField} (h : 1 < fields.length)
    (hcarets : ∀ field ∈ fields, '^' ∉ field.name.toList) :
    addressedFields (search collection text fields matchType fuzziness constantScore) =
      fields.map fun field => bareColumn collection field.name := by
  obtain ⟨settings, hquery, hfields⟩ :=
    scoredQuery_search_several collection text matchType fuzziness constantScore h
  have hentries (entries : List String) : (entries.map Json.str).filterMap Json.str? = entries := by
    rw [List.filterMap_map]
    exact List.filterMap_some
  rw [addressedFields, hquery, ← map_entryField hcarets]
  simp only [Json.single, Object.single, hfields, Json.ofStrings, hentries]

theorem addressedFields_search {fields : List SearchField} (hne : fields ≠ [])
    (hcarets : ∀ field ∈ fields, '^' ∉ field.name.toList)
    (hlone : ∀ field, fields = [field] → field.boost = none) :
    addressedFields (search collection text fields matchType fuzziness constantScore) =
      fields.map fun field => bareColumn collection field.name := by
  match fields, hne with
  | [field], _ =>
    rw [addressedFields_search_lone, searchedField_eq_iff.mpr (hlone field rfl)]
    rfl
  | first :: second :: rest, _ =>
    exact addressedFields_search_several collection text matchType fuzziness constantScore
      (Nat.one_lt_succ_succ rest.length) hcarets

theorem addressedFields_search_unweighted {fields : List SearchField} (hne : fields ≠ [])
    (hcarets : ∀ field ∈ fields, '^' ∉ field.name.toList) :
    addressedFields (search collection text (fields.map SearchField.unweighted) matchType fuzziness
        constantScore) =
      fields.map fun field => bareColumn collection field.name := by
  rw [addressedFields_search, List.map_map]
  · rfl
  · simpa using hne
  · intro other hother
    obtain ⟨field, hfield, rfl⟩ := List.mem_map.mp hother
    exact hcarets field hfield
  · intro other hother
    obtain ⟨field, -, rfl⟩ := List.mem_map.mp (hother ▸ List.mem_singleton_self other)
    rfl

/-- A search over fields without a caret in their names searches them by their names, as it would
without the weights, exactly if it is not over a single field that has a weight. -/
theorem search_by_name_iff {fields : List SearchField} (hne : fields ≠ [])
    (hcarets : ∀ field ∈ fields, '^' ∉ field.name.toList) :
    SearchesByName collection fields
        (search collection text fields matchType fuzziness constantScore)
        (search collection text (fields.map SearchField.unweighted) matchType fuzziness
          constantScore) ↔
      ∀ field, fields = [field] → field.boost = none := by
  constructor
  · rintro h field rfl
    have hname := h.addressed
    rw [addressedFields_search_lone] at hname
    exact searchedField_eq_iff.mp (List.cons.inj hname).1
  · intro hlone
    have haddressed := addressedFields_search collection text matchType fuzziness constantScore hne
      hcarets hlone
    refine ⟨haddressed, ?_, ?_, ?_⟩
    · rintro field rfl
      have hentry : searchedField collection field = bareColumn collection field.name :=
        searchedField_eq_iff.mpr (hlone field rfl)
      rw [← hentry]
      exact scoredQuery_search_lone collection text matchType fuzziness constantScore field
    · intro hlength
      obtain ⟨settings, hquery, hfields⟩ := scoredQuery_search_several collection text matchType
        fuzziness constantScore hlength
      refine ⟨_, settings, hquery, hfields, ?_⟩
      rw [List.forall₂_map_right_iff, List.forall₂_same]
      exact fun field _ => isEntryOf_searchedField field
    · rw [haddressed]
      exact (addressedFields_search_unweighted collection text matchType fuzziness constantScore hne
        hcarets).symm

def weightedFields : List SearchField :=
  [{ name := "posts.title", boost := some (.ofNat 2) }, { name := "body" }]

theorem search_by_name_iff_weightedFields :
    weightedFields ≠ [] ∧ (∀ field ∈ weightedFields, '^' ∉ field.name.toList) ∧
      SearchesByName "posts" weightedFields
        (search "posts" "lean" weightedFields none (some (.str "AUTO")) true)
        (search "posts" "lean" (weightedFields.map SearchField.unweighted) none
          (some (.str "AUTO")) true) := by
  have hcarets : ∀ field ∈ weightedFields, '^' ∉ field.name.toList := by decide
  refine ⟨List.cons_ne_nil _ _, hcarets, ?_⟩
  apply (search_by_name_iff "posts" "lean" none (some (.str "AUTO")) true (List.cons_ne_nil _ _)
    hcarets).mpr
  rintro field ⟨⟩

def weightedTitle : SearchField := { name := "title", boost := some (.ofNat 2) }

/-- The weight of an only field becomes a part of the name that is searched. -/
theorem search_weightedTitle :
    search "posts" "lean" [weightedTitle] none none false =
        .single "match" (.single "title^2" (.single "query" (.str "lean"))) ∧
      ¬ SearchesByName "posts" [weightedTitle]
        (search "posts" "lean" [weightedTitle] none none false)
        (search "posts" "lean" [weightedTitle.unweighted] none none false) := by
  have hquery : search "posts" "lean" [weightedTitle] none none false =
      .single "match" (.single "title^2" (.single "query" (.str "lean"))) := by rfl
  refine ⟨hquery, ?_⟩
  rw [hquery]
  intro h
  have hnames : ["title^2"] = ["title"] := h.addressed
  revert hnames
  decide

end Dsl

end SearchQuery
