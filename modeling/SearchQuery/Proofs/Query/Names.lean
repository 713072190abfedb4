import SearchQuery.Proofs.Query.Storable
/-!
# Names in stored queries

The objects in the stored form of a query have distinct names, but for one case: the clause of a
script writes its own options and those of the script under one name.
-/

namespace SearchQuery

namespace Json

mutual

/-- Whether no object in a value has two entries of one name. -/
def NamesDistinct : Json → Prop
  | .null | .bool _ | .int _ | .float _ | .str _ => True
  | .arr items => ItemsNamesDistinct items
  | .obj entries => Object.Distinct entries ∧ EntriesNamesDistinct entries

/-- Whether no object in the items has two entries of one name. -/
def ItemsNamesDistinct : List Json → Prop
  | [] => True
  | item :: rest => item.NamesDistinct ∧ ItemsNamesDistinct rest

/-- Whether no object in the values of the entries has two entries of one name. -/
def EntriesNamesDistinct : List (String × Json) → Prop
  | [] => True
  | (_, value) :: rest => value.NamesDistinct ∧ EntriesNamesDistinct rest

end

theorem itemsNamesDistinct_iff (items : List Json) :
    ItemsNamesDistinct items ↔ ∀ item ∈ items, item.NamesDistinct := by
  induction items with
  | nil => simp [ItemsNamesDistinct]
  | cons item rest ih => simp [ItemsNamesDistinct, ih]

theorem entriesNamesDistinct_append (entries others : List (String × Json)) :
    EntriesNamesDistinct (entries ++ others) ↔
      EntriesNamesDistinct entries ∧ EntriesNamesDistinct others := by
  induction entries with
  | nil => simp [EntriesNamesDistinct]
  | cons entry rest ih =>
    obtain ⟨name, value⟩ := entry
    rw [List.cons_append, EntriesNamesDistinct, ih, EntriesNamesDistinct, and_assoc]

mutual

theorem namesDistinct_of_valid : (value : Json) → value.Valid → value.NamesDistinct
  | .null, _ | .bool _, _ | .int _, _ | .float _, _ | .str _, _ => trivial
  | .arr items, h => itemsNamesDistinct_of_valid items h
  | .obj entries, h => ⟨h.1.distinct, entriesNamesDistinct_of_valid entries h.2⟩

theorem itemsNamesDistinct_of_valid : (items : List Json) → ItemsValid items →
    ItemsNamesDistinct items
  | [], _ => trivial
  | item :: rest, h => ⟨namesDistinct_of_valid item h.1, itemsNamesDistinct_of_valid rest h.2⟩

theorem entriesNamesDistinct_of_valid : (entries : List (String × Json)) → EntriesValid entries →
    EntriesNamesDistinct entries
  | [], _ => trivial
  | (_, value) :: rest, h =>
    ⟨namesDistinct_of_valid value h.1, entriesNamesDistinct_of_valid rest h.2⟩

end

end Json

/-! ### Members that are left out when there is no value -/

theorem last?_encodeSome (name other : String) (value : Option Json) :
    Object.last? (encodeSome name value) other = if name = other then value else none := by
  cases value with
  | none => simp [encodeSome]
  | some value => simp [encodeSome]

theorem encodeSome_namesDistinct {name : String} {value : Option Json}
    (h : ∀ part ∈ value, part.NamesDistinct) :
    Json.EntriesNamesDistinct (encodeSome name value) := by
  cases value with
  | none => trivial
  | some part => exact ⟨h part rfl, trivial⟩

/-! ### Distinct names -/

theorem distinct_clauseOptions (boost innerHits : Option Json) :
    Object.Distinct (encodeSome "boost" boost ++ encodeSome "inner_hits" innerHits) := by
  cases boost <;> cases innerHits <;> simp [encodeSome, Object.Distinct]

theorem distinct_searchField (name : Json) (boost : Option Json) :
    Object.Distinct (("name", name) :: encodeSome "boost" boost) := by
  cases boost <;> simp [encodeSome, Object.Distinct]

theorem distinct_sortValue (tag : Json) (missing mode : Option Json) :
    Object.Distinct
      (("type", tag) :: (encodeSome "missing" missing ++ encodeSome "mode" mode)) := by
  cases missing <;> cases mode <;> simp [encodeSome, Object.Distinct]

theorem distinct_sortDistance (tag coordinates : Json) (unit distanceType : Option Json) :
    Object.Distinct (("type", tag) :: ("coordinates", coordinates) :: (encodeSome "unit" unit
      ++ encodeSome "distance_type" distanceType)) := by
  cases unit <;> cases distanceType <;> simp [encodeSome, Object.Distinct]

theorem distinct_sortKey (column direction kind : Json) :
    Object.Distinct [("column", column), ("direction", direction), ("kind", kind)] := by
  simp [Object.Distinct]

theorem distinct_requestOptions (routing parentId conflicts refresh : Option Json) (hits : Json) :
    Object.Distinct (encodeSome "routing" routing ++ (encodeSome "parent_id" parentId
      ++ (encodeSome "conflicts" conflicts ++ (encodeSome "refresh" refresh
      ++ [("include_inner_hits", hits)])))) := by
  cases routing <;> cases parentId <;> cases conflicts <;> cases refresh <;>
    simp [encodeSome, Object.Distinct]

/-! ### Clauses, aggregations and queries -/

/-- The members of a clause that are not those of its condition. -/
def clauseEntries (junction : Junction) (options : ClauseOptions) : Object :=
  ("boolean", .str junction.word) ::
    (if options.isEmpty then [] else [("options", options.toJson)])

theorem clause_toJson (condition : Condition) (junction : Junction) (options : ClauseOptions) :
    ({ condition, junction, options } : Clause).toJson =
      .obj (condition.entries ++ clauseEntries junction options) := by
  rw [Clause.toJson, clauseEntries, List.append_assoc, List.singleton_append]

theorem distinct_entries (condition : Condition) : Object.Distinct condition.entries := by
  cases condition <;> simp [Condition.entries, Object.Distinct]

theorem boolean_not_mem_entries (condition : Condition) :
    "boolean" ∉ condition.entries.map (·.1) := by
  cases condition <;> simp [Condition.entries]

theorem options_not_mem_entries {condition : Condition}
    (hscript : ∀ source own, condition ≠ .script source own) :
    "options" ∉ condition.entries.map (·.1) := by
  cases condition with
  | script source own => exact absurd rfl (hscript source own)
  | _ => simp [Condition.entries]

/-- The names in the object of a clause are distinct unless a script has clause options. -/
theorem distinct_clause {condition : Condition} {junction : Junction} {options : ClauseOptions}
    (h : (∀ source own, condition ≠ .script source own) ∨ options.isEmpty = true) :
    Object.Distinct (condition.entries ++ clauseEntries junction options) := by
  have hboolean := boolean_not_mem_entries condition
  unfold Object.Distinct clauseEntries
  rw [List.map_append]
  apply List.nodup_append.mpr
  refine ⟨distinct_entries condition, ?_, ?_⟩
  · split <;> simp
  · intro name hname other hother
    rintro rfl
    split at hother
    · have hsame : name = "boolean" := by simpa using hother
      exact hboolean (hsame ▸ hname)
    · next hempty =>
      have hsame : name = "boolean" ∨ name = "options" := by simpa using hother
      rcases hsame with rfl | rfl
      · exact hboolean hname
      · exact options_not_mem_entries (h.resolve_right hempty) hname

/-- The members of an aggregation behind those of its aggregator. -/
def childrenEntries (children : List Aggregation) : Object :=
  if children.isEmpty then [] else [("children", .arr (encodeAggregations children))]

/-- The members of the object of an aggregation. -/
def aggregationEntries (key : String) (aggregator : Aggregator) (children : List Aggregation) :
    Object :=
  ("key", .str key) :: aggregator.entries ++ childrenEntries children

theorem aggregation_toJson (key : String) (aggregator : Aggregator)
    (children : List Aggregation) :
    ({ key, aggregator, children } : Aggregation).toJson =
      .obj (aggregationEntries key aggregator children) := by
  rw [Aggregation.toJson, aggregationEntries, childrenEntries]

theorem distinct_aggregation (key : String) (aggregator : Aggregator)
    (children : List Aggregation) :
    Object.Distinct (aggregationEntries key aggregator children) := by
  unfold Object.Distinct aggregationEntries childrenEntries
  cases aggregator with
  | metric metric field script =>
    cases script <;> split <;> simp [Aggregator.entries, encodeSome]
  | _ => split <;> simp [Aggregator.entries]

theorem key_children_not_mem_entries (aggregator : Aggregator) :
    "key" ∉ aggregator.entries.map (·.1) ∧ "children" ∉ aggregator.entries.map (·.1) := by
  cases aggregator with
  | metric metric field script => cases script <;> simp [Aggregator.entries, encodeSome]
  | _ => simp [Aggregator.entries]

/-- The members of the object of a query. -/
def queryEntries (query : Query) : Object :=
  [("collection", .str query.collection), ("wheres", .arr (encodeClauses query.wheres)),
    ("filters", .arr (encodeClauses query.filters)),
    ("post_filters", .arr (encodeClauses query.postFilters)),
    ("aggregations", .arr (encodeAggregations query.aggregations)),
    ("orders", .arr (query.orders.map SortKey.toJson)),
    ("columns", (query.columns.map Json.ofStrings).getD .null),
    ("limit", encodeCount query.limit), ("offset", encodeCount query.offset),
    ("options", query.options.toJson)]

theorem query_toJson (query : Query) : query.toJson = .obj (queryEntries query) := by
  cases query
  rw [Query.toJson, queryEntries]

theorem distinct_query (query : Query) : Object.Distinct (queryEntries query) := by
  simp [queryEntries, Object.Distinct]

/-- Whether the options of a script and of its clause are both read back: the script has none, and
those of the clause are not written under a name that is already taken. -/
def ScriptKept (merged : Bool) (own : Object) (options : ClauseOptions) : Prop :=
  own = [] ∧ (merged = true ∨ options.isEmpty = true)

/-! ### All objects of a query -/

theorem clauseValue_namesDistinct {value : ClauseValue} (h : value.Storable) :
    value.toJson.NamesDistinct := by
  cases value with
  | instant time => simp [ClauseValue.toJson, Json.single, Object.single, Json.NamesDistinct,
      Json.EntriesNamesDistinct, Object.Distinct]
  | plain value => exact Json.namesDistinct_of_valid value h.1

theorem map_namesDistinct {α : Type} {write : α → Json} {values : List α}
    (h : ∀ value ∈ values, (write value).NamesDistinct) :
    (Json.arr (values.map write)).NamesDistinct := by
  rw [Json.NamesDistinct, Json.itemsNamesDistinct_iff]
  intro item hitem
  obtain ⟨value, hvalue, rfl⟩ := List.mem_map.mp hitem
  exact h value hvalue

theorem clauseOptions_namesDistinct {options : ClauseOptions} (h : options.Storable) :
    options.toJson.NamesDistinct := by
  rw [ClauseOptions.toJson, Json.NamesDistinct, Json.entriesNamesDistinct_append]
  refine ⟨distinct_clauseOptions _ _, encodeSome_namesDistinct ?_, encodeSome_namesDistinct ?_⟩
  · simp [Json.NamesDistinct]
  · intro settings hsettings
    exact Json.namesDistinct_of_valid settings (h.innerHits settings hsettings).1

theorem searchField_namesDistinct (field : SearchField) : field.toJson.NamesDistinct := by
  rw [SearchField.toJson, Json.NamesDistinct]
  refine ⟨distinct_searchField _ _, trivial, encodeSome_namesDistinct ?_⟩
  simp [Json.NamesDistinct]

theorem sortKey_namesDistinct {key : SortKey} (h : key.kind.Storable) :
    key.toJson.NamesDistinct := by
  have hkind : key.kind.toJson.NamesDistinct := by
    cases hk : key.kind with
    | value missing mode =>
      rw [hk] at h
      rw [SortKind.toJson, Json.NamesDistinct, List.cons_append]
      refine ⟨distinct_sortValue _ _ _, trivial, ?_⟩
      rw [Json.entriesNamesDistinct_append]
      refine ⟨encodeSome_namesDistinct ?_, encodeSome_namesDistinct ?_⟩
      · intro value hvalue
        exact Json.namesDistinct_of_valid value (h value hvalue).1
      · simp [Json.NamesDistinct]
    | distance coordinates unit distanceType =>
      rw [hk] at h
      rw [SortKind.toJson, Json.NamesDistinct, List.cons_append, List.cons_append]
      refine ⟨distinct_sortDistance _ _ _ _, trivial, Json.namesDistinct_of_valid _ h, ?_⟩
      rw [Json.entriesNamesDistinct_append]
      refine ⟨encodeSome_namesDistinct ?_, encodeSome_namesDistinct ?_⟩ <;>
        simp [Json.NamesDistinct]
  exact ⟨distinct_sortKey _ _ _, trivial, trivial, hkind, trivial⟩

theorem requestOptions_namesDistinct (options : RequestOptions) :
    options.toJson.NamesDistinct := by
  simp only [RequestOptions.toJson, List.append_assoc, Json.NamesDistinct,
    Json.entriesNamesDistinct_append]
  refine ⟨distinct_requestOptions _ _ _ _ _, encodeSome_namesDistinct ?_,
    encodeSome_namesDistinct ?_, encodeSome_namesDistinct ?_, encodeSome_namesDistinct ?_, ?_⟩ <;>
    simp [Json.NamesDistinct, Json.EntriesNamesDistinct]

theorem clauseEntries_namesDistinct (junction : Junction) {options : ClauseOptions}
    (h : options.Storable) : Json.EntriesNamesDistinct (clauseEntries junction options) := by
  have hoptions := clauseOptions_namesDistinct h
  rw [clauseEntries]
  split <;> simp [Json.EntriesNamesDistinct, Json.NamesDistinct, hoptions]

/-- A clause whose script is kept has distinct names. -/
theorem distinct_of_kept {condition : Condition} {junction : Junction} {options : ClauseOptions}
    (h : Condition.OnScripts (ScriptKept false) options condition) :
    Object.Distinct (condition.entries ++ clauseEntries junction options) := by
  apply distinct_clause
  cases condition with
  | script source own => exact .inr (h.2.resolve_left (by decide))
  | _ => exact .inl (by simp)

mutual

/-- The objects of a storable query whose scripts are kept have distinct names. -/
theorem query_namesDistinct : (query : Query) → query.Storable →
    query.OnScripts (ScriptKept false) → query.toJson.NamesDistinct
  | { collection, wheres, filters, postFilters, aggregations, orders, columns, limit, offset,
      options }, h, hkept => by
    rw [Query.Storable] at h
    rw [Query.OnScripts] at hkept
    obtain ⟨hwheres, hfilters, hpost, haggregations, horders, -, -⟩ := h
    obtain ⟨kwheres, kfilters, kpost, kaggregations⟩ := hkept
    have horders := map_namesDistinct fun key hkey => sortKey_namesDistinct (horders key hkey)
    have hcolumns : ((columns.map Json.ofStrings).getD .null).NamesDistinct := by
      cases columns with
      | none => trivial
      | some texts => exact map_namesDistinct fun _ _ => trivial
    have hcount : ∀ count, (encodeCount count).NamesDistinct := by
      intro count
      cases count <;> trivial
    rw [query_toJson]
    exact ⟨distinct_query _, trivial, clauses_namesDistinct wheres hwheres kwheres,
      clauses_namesDistinct filters hfilters kfilters,
      clauses_namesDistinct postFilters hpost kpost,
      aggregations_namesDistinct aggregations haggregations kaggregations, horders, hcolumns,
      hcount limit, hcount offset, requestOptions_namesDistinct options, trivial⟩

theorem clauses_namesDistinct : (clauses : List Clause) → ClausesStorable clauses →
    ClausesOnScripts (ScriptKept false) clauses → Json.ItemsNamesDistinct (encodeClauses clauses)
  | [], _, _ => trivial
  | { condition, junction, options } :: rest, h, hkept => by
    rw [ClausesStorable] at h
    rw [ClausesOnScripts] at hkept
    obtain ⟨⟨hcondition, hoptions⟩, hrest⟩ := h
    obtain ⟨kcondition, krest⟩ := hkept
    have hentries := condition_namesDistinct condition hcondition options kcondition
    have hothers := clauseEntries_namesDistinct junction hoptions
    have hboth := (Json.entriesNamesDistinct_append _ _).mpr ⟨hentries, hothers⟩
    rw [encodeClauses, clause_toJson]
    exact ⟨⟨distinct_of_kept kcondition, hboth⟩, clauses_namesDistinct rest hrest krest⟩

theorem condition_namesDistinct : (condition : Condition) → condition.Storable →
    (options : ClauseOptions) → Condition.OnScripts (ScriptKept false) options condition →
    Json.EntriesNamesDistinct condition.entries
  | .nested _ query _, h, _, hkept | .group query, h, _, hkept | .not query, h, _, hkept
  | .related _ _ query, h, _, hkept => by
    have hquery := query_namesDistinct query h hkept
    simp [Condition.entries, Json.EntriesNamesDistinct, Json.NamesDistinct, hquery]
  | .compare _ _ _ _, h, _, _ | .date _ _ _, h, _, _ | .parentId _ _, h, _, _ => by
    have hvalue := clauseValue_namesDistinct h
    simp [Condition.entries, Json.EntriesNamesDistinct, Json.NamesDistinct, hvalue]
  | .isIn _ values, h, _, _ | .isNotIn _ values, h, _, _ => by
    have hvalues := map_namesDistinct fun value hvalue => clauseValue_namesDistinct (h value hvalue)
    rw [Json.NamesDistinct] at hvalues
    simp [Condition.entries, Json.EntriesNamesDistinct, Json.NamesDistinct, hvalues]
  | .between _ _ _ _, h, _, _ => by
    have hlow := clauseValue_namesDistinct h.1
    have hhigh := clauseValue_namesDistinct h.2
    simp [Condition.entries, Json.EntriesNamesDistinct, Json.NamesDistinct, hlow, hhigh]
  | .geoDistance _ value _, h, _, _ | .geoBounds _ value, h, _, _ => by
    have hvalue := Json.namesDistinct_of_valid value h
    simp [Condition.entries, Json.EntriesNamesDistinct, Json.NamesDistinct, hvalue]
  | .script _ object, h, _, _ | .functionScore _ object, h, _, _ => by
    have hobject := Json.namesDistinct_of_valid (.obj object) h
    rw [Json.NamesDistinct] at hobject
    simp [Condition.entries, Json.EntriesNamesDistinct, Json.NamesDistinct, hobject]
  | .search _ fields matchType fuzziness _, h, _, _ => by
    have hfields := map_namesDistinct fun field (_ : field ∈ fields) =>
      searchField_namesDistinct field
    have hmatch : (encodeText matchType).NamesDistinct := by
      cases matchType <;> trivial
    have hfuzziness : (fuzziness.getD .null).NamesDistinct := by
      cases fuzziness with
      | none => trivial
      | some value => exact Json.namesDistinct_of_valid value (h.2 value rfl).1
    rw [Json.NamesDistinct] at hfields
    simp [Condition.entries, Json.EntriesNamesDistinct, Json.NamesDistinct, hfields, hmatch,
      hfuzziness]
  | .isNull _, _, _, _ | .isNotNull _, _, _, _ | .datePart _ _ _ _, _, _, _
  | .startsWith _ _, _, _, _ => by
    simp [Condition.entries, Json.EntriesNamesDistinct, Json.NamesDistinct]

theorem aggregations_namesDistinct : (aggregations : List Aggregation) →
    AggregationsStorable aggregations → AggregationsOnScripts (ScriptKept false) aggregations →
    Json.ItemsNamesDistinct (encodeAggregations aggregations)
  | [], _, _ => trivial
  | { key, aggregator, children } :: rest, h, hkept => by
    rw [AggregationsStorable] at h
    rw [AggregationsOnScripts] at hkept
    obtain ⟨⟨haggregator, hchildren⟩, hrest⟩ := h
    obtain ⟨⟨kaggregator, kchildren⟩, krest⟩ := hkept
    have hentries := aggregator_namesDistinct aggregator haggregator kaggregator
    have hinside := aggregations_namesDistinct children hchildren kchildren
    have hothers : Json.EntriesNamesDistinct (childrenEntries children) := by
      rw [childrenEntries]
      split <;> simp [Json.EntriesNamesDistinct, Json.NamesDistinct, hinside]
    have hboth := (Json.entriesNamesDistinct_append _ _).mpr ⟨hentries, hothers⟩
    rw [encodeAggregations, aggregation_toJson]
    exact ⟨⟨distinct_aggregation key aggregator children, trivial, hboth⟩,
      aggregations_namesDistinct rest hrest krest⟩

theorem aggregator_namesDistinct : (aggregator : Aggregator) → aggregator.Storable →
    aggregator.OnScripts (ScriptKept false) → Json.EntriesNamesDistinct aggregator.entries
  | .filter query, h, hkept => by
    have hquery := query_namesDistinct query h hkept
    simp [Aggregator.entries, Json.EntriesNamesDistinct, Json.NamesDistinct, hquery]
  | .terms _ object, h, _ | .dateHistogram _ object, h, _ | .cardinality object, h, _
  | .composite object, h, _ | .dateRange object, h, _ => by
    have hobject := Json.namesDistinct_of_valid (.obj object) h
    rw [Json.NamesDistinct] at hobject
    simp [Aggregator.entries, Json.EntriesNamesDistinct, Json.NamesDistinct, hobject]
  | .metric _ _ script, h, _ => by
    have hscript : Json.EntriesNamesDistinct (encodeSome "script" script) :=
      encodeSome_namesDistinct fun value hvalue =>
        Json.namesDistinct_of_valid value (h value hvalue).1
    simp [Aggregator.entries, Json.EntriesNamesDistinct, Json.NamesDistinct, hscript]
  | .exists _, _, _ | .missing _, _, _ | .reverseNested, _, _ | .nested _, _, _
  | .children _, _, _ => by
    simp [Aggregator.entries, Json.EntriesNamesDistinct, Json.NamesDistinct]

end

end SearchQuery
