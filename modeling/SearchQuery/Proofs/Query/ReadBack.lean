import SearchQuery.Proofs.Query.Conditions
/-!
# Stored queries are read back

A storable query is read back from its stored form exactly when no script condition in it has
options of its own, and no clause of a script has options that are written beside those of the
script. Once entries of one name are merged, the options of the clause win and do no harm.
-/

namespace SearchQuery

open Datum

variable {merged inner : Bool}

/-! ### Members that hold clauses -/

theorem readQueryUnder_eq (wanted : Datum → Bool) (members : List (Datum × Datum)) :
    readQueryUnder wanted members = findEntry wanted members >>= fun
      | some value => (Query.read true value).map some
      | none => .ok none := by
  induction members with
  | nil => rfl
  | cons member rest ih =>
    obtain ⟨key, value⟩ := member
    rw [readQueryUnder, findEntry_cons, ih]
    split
    · split
      · rfl
      · rfl
    · rfl

theorem readClausesUnder_eq (wanted : Datum → Bool) (members : List (Datum × Datum)) :
    readClausesUnder inner wanted members = findEntry wanted members >>= fun
      | some value => readClauses inner value
      | none => .ok [] := by
  induction members with
  | nil => rfl
  | cons member rest ih =>
    obtain ⟨key, value⟩ := member
    rw [readClausesUnder, findEntry_cons, ih]
    split
    · split
      · rfl
      · rfl
    · rfl

theorem readAggregationsUnder_eq (wanted : Datum → Bool) (members : List (Datum × Datum)) :
    readAggregationsUnder inner wanted members = findEntry wanted members >>= fun
      | some value => readAggregations inner value
      | none => .ok [] := by
  induction members with
  | nil => rfl
  | cons member rest ih =>
    obtain ⟨key, value⟩ := member
    rw [readAggregationsUnder, findEntry_cons, ih]
    split
    · split
      · rfl
      · rfl
    · rfl

/-- The value under a name, or a default when there is none. -/
def readEntry {α : Type} (members : List (Datum × Datum)) (name : String) (default : α)
    (read : Datum → Reading α) : Reading α := do
  match ← findEntry (isName name) members with
  | some value => read value
  | none => .ok default

/-- The members of a clause that may be those of its condition. -/
def conditionMembers (members : List (Datum × Datum)) : List (Datum × Datum) :=
  members.filter fun member => !member.1.isName "boolean" && !member.1.isName "options"

theorem readEntry_bind {α β : Type} (members : List (Datum × Datum)) (name : String) (default : α)
    (read : Datum → Reading α) (next : α → Reading β) :
    readEntry members name default read >>= next = findEntry (isName name) members >>= fun
      | some value => read value >>= next
      | none => next default := by
  unfold readEntry
  cases findEntry (isName name) members with
  | error => rfl
  | ok found => cases found <;> rfl

theorem clause_read_eq (members : List (Datum × Datum)) :
    Clause.read inner (.map members) = do
      let tag ← tagIn Condition.tags true members
      let junction ← readEntry members "boolean" .and (readWord inner Junction.all Junction.word)
      let options ← readEntry members "options" {} ClauseOptions.read
      let fields ← Fields.ofEntries (conditionMembers members)
      let condition ← Condition.ofFields tag fields
        (readQueryUnder (isMember (Condition.queryPosition tag) "query") members)
      return { condition, junction, options } := by
  rw [Clause.read]
  simp only [readEntry_bind, conditionMembers]
  rfl

theorem readEntry_some {α : Type} {members : List (Datum × Datum)} {name : String} {datum : Datum}
    (h : findEntry (isName name) members = .ok (some datum)) (default : α)
    (read : Datum → Reading α) : readEntry members name default read = read datum := by
  rw [readEntry, h]
  rfl

theorem readEntry_none {α : Type} {members : List (Datum × Datum)} {name : String}
    (h : findEntry (isName name) members = .ok none) (default : α) (read : Datum → Reading α) :
    readEntry members name default read = .ok default := by
  rw [readEntry, h]
  rfl

theorem get_conditionMembers {members : List (Datum × Datum)} (h : Named members) (position : Nat)
    {name : String} (hboolean : name ≠ "boolean") (hoptions : name ≠ "options") :
    (Fields.keyed (conditionMembers members)).get position name =
      findEntry (isName name) members := by
  rw [Fields.get, conditionMembers,
    findEntry_congr (isMember_eq_isName (h.filter _) position name)]
  apply findEntry_filter
  intro member hmember hname
  obtain ⟨text, htext⟩ := h member hmember
  rw [htext, isName, beq_iff_eq] at hname
  simp [htext, isName, hname, hboolean, hoptions]

/-- The name `options` never means a member of the condition. -/
theorem get_options_conditionMembers {members : List (Datum × Datum)} (h : Named members)
    (position : Nat) :
    (Fields.keyed (conditionMembers members)).get position "options" = .ok none := by
  rw [Fields.get, conditionMembers,
    findEntry_congr (isMember_eq_isName (h.filter _) position "options")]
  apply findEntry_eq_none
  intro member hmember
  have hkeep := (List.mem_filter.mp hmember).2
  rw [Bool.and_eq_true, Bool.not_eq_true', Bool.not_eq_true'] at hkeep
  exact hkeep.2

/-! ### Objects of clauses and aggregations -/

theorem last?_boolean (entries : Object) (junction : Junction) (options : ClauseOptions) :
    Object.last? (entries ++ clauseEntries junction options) "boolean" =
      some (.str junction.word) := by
  rw [Object.last?_append, clauseEntries, Object.last?_cons]
  split <;> simp

theorem last?_options (entries : Object) (junction : Junction) (options : ClauseOptions) :
    Object.last? (entries ++ clauseEntries junction options) "options" =
      if options.isEmpty then Object.last? entries "options" else some options.toJson := by
  rw [Object.last?_append, clauseEntries, Object.last?_cons]
  split <;> simp

theorem last?_others {name : String} (entries : Object) (junction : Junction)
    (options : ClauseOptions) (hboolean : name ≠ "boolean") (hoptions : name ≠ "options") :
    Object.last? (entries ++ clauseEntries junction options) name =
      Object.last? entries name := by
  rw [Object.last?_append, clauseEntries, Object.last?_cons]
  split <;> simp [hboolean.symm, hoptions.symm]

/-! ### Clauses -/

theorem options_of_isEmpty {options : ClauseOptions} (h : options.isEmpty = true) :
    options = {} := by
  obtain ⟨boost, innerHits⟩ := options
  obtain ⟨rfl, rfl⟩ : boost = none ∧ innerHits = none := by
    simpa [ClauseOptions.isEmpty] using h
  rfl

/-- The options of a clause without own options of its condition. -/
theorem readEntry_options {entries : Object} {junction : Junction} {options : ClauseOptions}
    (hoptions : options.Storable)
    (hdistinct : Object.Distinct (entries ++ clauseEntries junction options) ∨ merged = true)
    (hempty : options.isEmpty = true →
      Object.last? entries "options" = none ∨ Object.last? entries "options" = some (.obj [])) :
    readEntry (membersOf merged (entries ++ clauseEntries junction options)) "options" {}
      ClauseOptions.read = .ok options := by
  have hfind := findEntry_membersOf hdistinct "options"
  rw [last?_options] at hfind
  by_cases hnone : options.isEmpty = true
  · rw [if_pos hnone] at hfind
    rw [show options = {} from options_of_isEmpty hnone] at hfind ⊢
    rcases hempty hnone with hlast | hlast
    · rw [hlast] at hfind
      exact readEntry_none hfind _ _
    · rw [hlast] at hfind
      have hvalid : (Json.obj []).Valid := ⟨.nil, trivial⟩
      rw [readEntry_some hfind, ofWritten_of_valid hvalid]
      rfl
  · rw [if_neg hnone] at hfind
    rw [readEntry_some hfind, clauseOptions_written hoptions]

section Members

variable {condition : Condition} {junction : Junction} {options : ClauseOptions}
  (hdistinct : Object.Distinct (condition.entries ++ clauseEntries junction options) ∨
    merged = true)

include hdistinct

/-- What is left to read of a clause: its options and its condition. -/
theorem clause_read_written :
    Clause.read inner (ofWritten merged ({ condition, junction, options } : Clause).toJson) = do
      let members := membersOf merged (condition.entries ++ clauseEntries junction options)
      let options ← readEntry members "options" {} ClauseOptions.read
      let condition ← Condition.ofFields condition.tag (.keyed (conditionMembers members))
        (readQueryUnder (isMember (Condition.queryPosition condition.tag) "query") members)
      return { condition, junction, options } := by
  have hnamed := @named_membersOf merged (condition.entries ++ clauseEntries junction options)
  have hfind := findEntry_membersOf hdistinct "boolean"
  have htag := @tagIn_written merged Condition.tags true _ condition.tag hdistinct
    (by rw [last?_others _ _ _ (by decide) (by decide), Condition.last?_type]) condition.tag_mem
  rw [last?_boolean, Option.map_some] at hfind
  have hjunction := readEntry_some hfind Junction.and (readWord inner Junction.all Junction.word)
  rw [junction_written] at hjunction
  rw [clause_toJson, ofWritten_obj, clause_read_eq, htag, hjunction, conditionMembers,
    fields_ofEntries (hnamed.filter _), ← conditionMembers]
  rfl

/-- The members of a clause that may be those of its condition are those of its condition. -/
theorem conditionMembers_hold :
    (Fields.keyed (conditionMembers (membersOf merged
      (condition.entries ++ clauseEntries junction options)))).Holds merged
        ["boolean", "options"] condition.entries := by
  intro position name hname
  simp only [List.mem_cons, List.not_mem_nil, or_false, not_or] at hname
  obtain ⟨hboolean, hoptions⟩ := hname
  rw [get_conditionMembers (named_membersOf _) position hboolean hoptions,
    findEntry_membersOf hdistinct, last?_others _ _ _ hboolean hoptions]

theorem clause_query_written :
    readQueryUnder (isMember (Condition.queryPosition condition.tag) "query")
      (membersOf merged (condition.entries ++ clauseEntries junction options)) =
        match condition.query? with
        | some query => (Query.read true (ofWritten merged query.toJson)).map some
        | none => .ok none := by
  rw [readQueryUnder_eq, findEntry_congr (isMember_eq_isName (named_membersOf _) _ _),
    findEntry_membersOf hdistinct, last?_others _ _ _ (by decide) (by decide),
    Condition.last?_query]
  cases condition.query? <;> rfl

end Members

/-- A clause that is no script is read back as soon as its sub-query is. -/
theorem clause_written {condition : Condition} {junction : Junction} {options : ClauseOptions}
    (hcondition : condition.Storable) (hoptions : options.Storable)
    (hscript : ∀ source own, condition ≠ .script source own) :
    Clause.read inner (ofWritten merged ({ condition, junction, options } : Clause).toJson) =
        .ok { condition, junction, options } ↔
      ∀ query ∈ condition.query?,
        Query.read true (ofWritten merged query.toJson) = .ok query := by
  have hdistinct : Object.Distinct (condition.entries ++ clauseEntries junction options) ∨
      merged = true := .inl (distinct_clause (.inl hscript))
  have hnone : Object.last? condition.entries "options" = none :=
    Object.last?_eq_none (options_not_mem_entries hscript)
  have hread := readEntry_options hoptions hdistinct fun _ => .inl hnone
  have hfields := conditionMembers_hold hdistinct
  rw [clause_read_written hdistinct]
  simp only [hread, clause_query_written hdistinct, ok_bind, bind_eq_ok, pure_eq_ok,
    Clause.mk.injEq, and_self, and_true, exists_eq_right]
  cases hpart : condition.query? with
  | none =>
    exact iff_of_true (leaf_written (.ok none) hcondition hpart hscript hfields) (by simp)
  | some part =>
    have hnested := @nested_written merged condition part _
      ((Query.read true (ofWritten merged part.toJson)).map some) hpart hfields
    rw [hnested, map_some_eq_ok]
    simp

/-- The condition of a script clause is read without options of its own. -/
theorem script_fields_written {source : String} {own : Object} {junction : Junction}
    {options : ClauseOptions} (query : Reading (Option Query))
    (hdistinct : Object.Distinct ((Condition.script source own).entries ++
      clauseEntries junction options) ∨ merged = true) :
    Condition.ofFields "script" (.keyed (conditionMembers (membersOf merged
      ((Condition.script source own).entries ++ clauseEntries junction options)))) query =
        .ok (.script source []) := by
  have hfields := conditionMembers_hold hdistinct
  have hsource := hfields.required 0 "source" (readText_written source)
  have hoptions := optional_none (get_options_conditionMembers (@named_membersOf merged
    ((Condition.script source own).entries ++ clauseEntries junction options)) 1) [] readObject
  rw [Condition.ofFields, hsource, hoptions]
  rfl

/-- The name `options` is refused where both the script and its clause have written it. -/
theorem findEntry_options_script {source : String} {own : Object} {junction : Junction}
    {options : ClauseOptions} (hoptions : ¬ options.isEmpty = true) :
    findEntry (isName "options") (membersOf false ((Condition.script source own).entries ++
      clauseEntries junction options)) = .error "duplicate field" := by
  simp [membersOf, Condition.entries, clauseEntries, hoptions, ofEntries, findEntry, isName]

/-- A script is read without options of its own, and not at all where the options of its clause are
written under the same name. -/
theorem script_read {source : String} {own : Object} {junction : Junction}
    {options : ClauseOptions} {clause : Clause}
    (h : Clause.read inner (ofWritten merged
      ({ condition := .script source own, junction, options } : Clause).toJson) = .ok clause) :
    clause.condition = .script source [] ∧ (merged = true ∨ options.isEmpty = true) := by
  by_cases hkept : merged = true ∨ options.isEmpty = true
  · have hdistinct : Object.Distinct ((Condition.script source own).entries ++
        clauseEntries junction options) ∨ merged = true :=
      hkept.symm.imp_left fun hempty => distinct_clause (.inr hempty)
    rw [clause_read_written hdistinct] at h
    simp only [Condition.tag, script_fields_written _ hdistinct, ok_bind, bind_eq_ok,
      pure_eq_ok] at h
    obtain ⟨_, -, rfl⟩ := h
    exact ⟨rfl, hkept⟩
  · have hraw : merged = false := by simpa using fun h => hkept (.inl h)
    subst hraw
    have hempty : ¬ options.isEmpty = true := fun h => hkept (.inr h)
    rw [clause_toJson, ofWritten_obj, clause_read_eq] at h
    simp only [readEntry, findEntry_options_script hempty, bind_eq_ok] at h
    obtain ⟨_, -, _, -, _, ⟨_, herror, -⟩, -⟩ := h
    cases herror

/-- A clause with a script is read back if both kinds of options are kept apart. -/
theorem script_written {source : String} {own : Object} {junction : Junction}
    {options : ClauseOptions} (hoptions : options.Storable) :
    Clause.read inner (ofWritten merged
        ({ condition := .script source own, junction, options } : Clause).toJson) =
        .ok { condition := .script source own, junction, options } ↔
      ScriptKept merged own options := by
  constructor
  · intro h
    obtain ⟨hown, hkept⟩ := script_read h
    exact ⟨(Condition.script.inj hown).2, hkept⟩
  · rintro ⟨rfl, hkept⟩
    have hdistinct : Object.Distinct ((Condition.script source []).entries ++
        clauseEntries junction options) ∨ merged = true :=
      hkept.symm.imp_left fun hempty => distinct_clause (.inr hempty)
    have hread := @readEntry_options merged _ junction options hoptions hdistinct
      fun _ => .inr (by simp [Condition.entries])
    rw [clause_read_written hdistinct]
    simp only [hread, Condition.tag, script_fields_written _ hdistinct]
    rfl

/-! ### Aggregations -/

section Aggregations

variable (key : String) (aggregator : Aggregator) (children : List Aggregation)

theorem aggregation_last?_key :
    Object.last? (aggregationEntries key aggregator children) "key" = some (.str key) := by
  have hnone := Object.last?_eq_none (key_children_not_mem_entries aggregator).1
  rw [aggregationEntries, List.cons_append, Object.last?_cons, Object.last?_append, hnone,
    childrenEntries]
  split <;> simp

theorem aggregation_last?_children :
    Object.last? (aggregationEntries key aggregator children) "children" =
      if children.isEmpty then none else some (.arr (encodeAggregations children)) := by
  have hnone := Object.last?_eq_none (key_children_not_mem_entries aggregator).2
  rw [aggregationEntries, List.cons_append, Object.last?_cons, if_neg (by decide), Option.or_none,
    Object.last?_append, hnone, Option.or_none, childrenEntries]
  split <;> simp

theorem aggregation_last?_others {name : String} (hname : name ∉ ["key", "children"]) :
    Object.last? (aggregationEntries key aggregator children) name =
      Object.last? aggregator.entries name := by
  simp only [List.mem_cons, List.not_mem_nil, or_false, not_or] at hname
  rw [aggregationEntries, List.cons_append, Object.last?_cons, if_neg (Ne.symm hname.1),
    Option.or_none, Object.last?_append, childrenEntries]
  split <;> simp [Ne.symm hname.2]

/-- The members of an aggregation, but for its key and its children, are those of its aggregator. -/
theorem aggregation_members_hold :
    (Fields.keyed (membersOf merged (aggregationEntries key aggregator children))).Holds merged
      ["key", "children"] aggregator.entries := by
  intro position name hname
  have hdistinct := distinct_aggregation key aggregator children
  rw [membersOf_hold (.inl hdistinct) position name List.not_mem_nil,
    aggregation_last?_others _ _ _ hname]

theorem aggregation_query_written :
    readQueryUnder (isMember 0 "query")
        (membersOf merged (aggregationEntries key aggregator children)) =
      match aggregator.query? with
      | some query => (Query.read true (ofWritten merged query.toJson)).map some
      | none => .ok none := by
  have hdistinct := distinct_aggregation key aggregator children
  rw [readQueryUnder_eq, findEntry_congr (isMember_eq_isName (named_membersOf _) _ _),
    findEntry_membersOf (.inl hdistinct), aggregation_last?_others _ _ _ (by decide),
    Aggregator.last?_query]
  cases aggregator.query? <;> rfl

theorem aggregation_children_written :
    readAggregationsUnder inner (isName "children")
        (membersOf merged (aggregationEntries key aggregator children)) =
      readAggregationItems inner ((encodeAggregations children).map (ofWritten merged)) := by
  have hdistinct := distinct_aggregation key aggregator children
  rw [readAggregationsUnder_eq, findEntry_membersOf (.inl hdistinct), aggregation_last?_children]
  cases children with
  | nil => simp [encodeAggregations, readAggregationItems, ok_bind]
  | cons child rest => simp [ofWritten_arr, readAggregations, ok_bind]

/-- What is left to read of an aggregation: its children and its aggregator. -/
theorem aggregation_read_written :
    Aggregation.read inner
        (ofWritten merged ({ key, aggregator, children } : Aggregation).toJson) = do
      let members := membersOf merged (aggregationEntries key aggregator children)
      let children ←
        readAggregationItems inner ((encodeAggregations children).map (ofWritten merged))
      let aggregator ← Aggregator.ofFields aggregator.tag (.keyed members)
        (readQueryUnder (isMember 0 "query") members)
      return { key, aggregator, children } := by
  have hdistinct := distinct_aggregation key aggregator children
  have hnamed := @named_membersOf merged (aggregationEntries key aggregator children)
  have hkey := @findEntry_membersOf merged _ (.inl hdistinct) "key"
  rw [aggregation_last?_key, Option.map_some, ofWritten_str] at hkey
  have htag := @tagIn_written merged Aggregator.tags true _ aggregator.tag (.inl hdistinct)
    (by rw [aggregation_last?_others _ _ _ (by decide), Aggregator.last?_type])
    aggregator.tag_mem
  rw [aggregation_toJson, ofWritten_obj, Aggregation.read, hkey, htag, fields_ofEntries hnamed,
    aggregation_children_written]
  rfl

end Aggregations

/-- An aggregator is read back as soon as its sub-query is. -/
theorem aggregator_fields_written {aggregator : Aggregator} {members : List (Datum × Datum)}
    (h : aggregator.Storable)
    (hfields : (Fields.keyed members).Holds merged ["key", "children"] aggregator.entries) :
    Aggregator.ofFields aggregator.tag (.keyed members)
        (match aggregator.query? with
        | some query => (Query.read true (ofWritten merged query.toJson)).map some
        | none => .ok none) = .ok aggregator ↔
      ∀ query ∈ aggregator.query?,
        Query.read true (ofWritten merged query.toJson) = .ok query := by
  cases hpart : aggregator.query? with
  | none => exact iff_of_true (aggregator_leaf_written (.ok none) h hpart hfields) (by simp)
  | some part =>
    obtain rfl : aggregator = .filter part := by
      cases aggregator with
      | filter query => exact congrArg Aggregator.filter (Option.some.inj hpart)
      | _ => cases hpart
    simp [Aggregator.tag, filter_written]

/-- An aggregation is read back as soon as its sub-query and its children are. -/
theorem aggregation_written {key : String} {aggregator : Aggregator} {children : List Aggregation}
    (haggregator : aggregator.Storable) :
    Aggregation.read inner (ofWritten merged ({ key, aggregator, children } : Aggregation).toJson) =
        .ok { key, aggregator, children } ↔
      (∀ query ∈ aggregator.query?,
        Query.read true (ofWritten merged query.toJson) = .ok query) ∧
      readAggregationItems inner ((encodeAggregations children).map (ofWritten merged)) =
        .ok children := by
  have hfields := @aggregation_members_hold merged key aggregator children
  rw [aggregation_read_written, ← aggregator_fields_written haggregator hfields]
  simp only [aggregation_query_written, bind_eq_ok, pure_eq_ok, Aggregation.mk.injEq, true_and]
  constructor
  · rintro ⟨_, hread, _, haggregator, rfl, rfl⟩
    exact ⟨haggregator, hread⟩
  · rintro ⟨hread, hitems⟩
    exact ⟨_, hitems, _, hread, rfl, rfl⟩

/-! ### Queries -/

theorem clauses_under_written {query : Query} {list : List Clause} {position : Nat} {name : String}
    (h : Object.last? (queryEntries query) name = some (.arr (encodeClauses list))) :
    readClausesUnder inner (isMember position name) (membersOf merged (queryEntries query)) =
      readClauseItems inner ((encodeClauses list).map (ofWritten merged)) := by
  rw [readClausesUnder_eq, findEntry_congr (isMember_eq_isName (named_membersOf _) _ _),
    findEntry_membersOf (.inl (distinct_query query)), h, Option.map_some, ofWritten_arr]
  simp only [ok_bind, readClauses]

theorem aggregations_under_written (query : Query) :
    readAggregationsUnder inner (isMember 4 "aggregations")
        (membersOf merged (queryEntries query)) =
      readAggregationItems inner ((encodeAggregations query.aggregations).map
        (ofWritten merged)) := by
  have hlast : Object.last? (queryEntries query) "aggregations" =
      some (.arr (encodeAggregations query.aggregations)) := by
    simp [queryEntries]
  rw [readAggregationsUnder_eq, findEntry_congr (isMember_eq_isName (named_membersOf _) _ _),
    findEntry_membersOf (.inl (distinct_query query)), hlast, Option.map_some, ofWritten_arr]
  simp only [ok_bind, readAggregations]

/-- What a query holds beside its lists of clauses and aggregations is read back. -/
theorem query_fields_written {query : Query} (h : query.Storable)
    (wheres filters postFilters : List Clause) (aggregations : List Aggregation) :
    Query.ofFields inner (.keyed (membersOf merged (queryEntries query))) wheres filters
      postFilters aggregations =
        .ok { query with wheres, filters, postFilters, aggregations } := by
  obtain ⟨horders, hlimit, hoffset⟩ : (∀ key ∈ query.orders, key.kind.Storable) ∧
      CountStorable query.limit ∧ CountStorable query.offset := by
    cases query
    simp only [Query.Storable] at h
    exact h.2.2.2.2
  have hfields := @membersOf_hold merged _ (.inl (distinct_query query))
  have hcollection := hfields.given 0 "collection" "" (readText_written query.collection)
  have horders := hfields.given 5 "orders" []
    (readList_written fun key hkey => sortKey_written inner (horders key hkey))
  have hcolumns := hfields.given 6 "columns" none (columns_written query.columns)
  have hlimit := hfields.given 7 "limit" none (encodeCount_written hlimit)
  have hoffset := hfields.given 8 "offset" none (encodeCount_written hoffset)
  have hoptions := hfields.given 9 "options" {} (requestOptions_written inner query.options)
  rw [Query.ofFields, hcollection, horders, hcolumns, hlimit, hoffset, hoptions]
  rfl

/-- A query is read with the lists of clauses and aggregations that are read in it. -/
theorem query_read_written {query : Query} (h : query.Storable)
    (wheres filters postFilters : List Clause) (aggregations : List Aggregation) :
    Query.read inner (ofWritten merged query.toJson) =
        .ok { query with wheres, filters, postFilters, aggregations } ↔
      readClauseItems inner ((encodeClauses query.wheres).map (ofWritten merged)) = .ok wheres ∧
      readClauseItems inner ((encodeClauses query.filters).map (ofWritten merged)) = .ok filters ∧
      readClauseItems inner ((encodeClauses query.postFilters).map (ofWritten merged)) =
        .ok postFilters ∧
      readAggregationItems inner ((encodeAggregations query.aggregations).map
        (ofWritten merged)) = .ok aggregations := by
  have hwheres := @clauses_under_written merged inner query query.wheres 1 "wheres"
    (by simp [queryEntries])
  have hfilters := @clauses_under_written merged inner query query.filters 2 "filters"
    (by simp [queryEntries])
  have hpost := @clauses_under_written merged inner query query.postFilters 3 "post_filters"
    (by simp [queryEntries])
  rw [query_toJson, ofWritten_obj, Query.read, fields_ofEntries (named_membersOf _), hwheres,
    hfilters, hpost, aggregations_under_written]
  simp only [ok_bind, query_fields_written h, bind_eq_ok, Except.ok.injEq, Query.mk.injEq, and_true,
    true_and]
  constructor
  · rintro ⟨_, hwheres, _, hfilters, _, hpost, _, haggregations, rfl, rfl, rfl, rfl⟩
    exact ⟨hwheres, hfilters, hpost, haggregations⟩
  · rintro ⟨hwheres, hfilters, hpost, haggregations⟩
    exact ⟨_, hwheres, _, hfilters, _, hpost, _, haggregations, rfl, rfl, rfl, rfl⟩

/-! ### All queries -/

variable {holds : Object → ClauseOptions → Prop}

theorem onScripts_of_leaf {condition : Condition} (options : ClauseOptions)
    (hquery : condition.query? = none) (hscript : ∀ source own, condition ≠ .script source own) :
    Condition.OnScripts holds options condition := by
  cases condition with
  | nested | group | not | related => cases hquery
  | script source own => exact absurd rfl (hscript source own)
  | _ => trivial

mutual

/-- A storable query is read back exactly when all of its scripts are kept. -/
theorem query_written : (query : Query) → query.Storable → (inner : Bool) →
    (Query.read inner (ofWritten merged query.toJson) = .ok query ↔
      query.OnScripts (ScriptKept merged))
  | { collection, wheres, filters, postFilters, aggregations, orders, columns, limit, offset,
      options }, h, inner => by
    have hread := @query_read_written merged inner _ h wheres filters postFilters aggregations
    rw [Query.Storable] at h
    obtain ⟨hwheres, hfilters, hpost, haggregations, -⟩ := h
    rw [hread, clauses_written wheres hwheres, clauses_written filters hfilters,
      clauses_written postFilters hpost, aggregations_written aggregations haggregations,
      Query.OnScripts]

theorem clauses_written : (clauses : List Clause) → ClausesStorable clauses → (inner : Bool) →
    (readClauseItems inner ((encodeClauses clauses).map (ofWritten merged)) = .ok clauses ↔
      ClausesOnScripts (ScriptKept merged) clauses)
  | [], _, _ => by simp [encodeClauses, readClauseItems, ClausesOnScripts]
  | { condition, junction, options } :: rest, h, inner => by
    rw [ClausesStorable] at h
    obtain ⟨⟨hcondition, hoptions⟩, hrest⟩ := h
    have hclause := condition_written condition hcondition junction options hoptions inner
    have hitems := clauses_written rest hrest inner
    rw [ClausesOnScripts, ← hclause, ← hitems, encodeClauses, List.map_cons, readClauseItems]
    exact cons_eq_ok

theorem condition_written : (condition : Condition) → condition.Storable →
    (junction : Junction) → (options : ClauseOptions) → options.Storable → (inner : Bool) →
    (Clause.read inner (ofWritten merged ({ condition, junction, options } : Clause).toJson) =
        .ok { condition, junction, options } ↔
      Condition.OnScripts (ScriptKept merged) options condition)
  | .script source own, _, _, options, hoptions, _ => by
    rw [script_written hoptions, Condition.OnScripts]
  | .nested _ query _, h, _, _, hoptions, _ | .group query, h, _, _, hoptions, _
  | .not query, h, _, _, hoptions, _ | .related _ _ query, h, _, _, hoptions, _ => by
    have hquery := query_written query h true
    rw [clause_written h hoptions (by simp)]
    simp [Condition.query?, Condition.OnScripts, hquery]
  | .compare .., h, _, options, hoptions, _ | .isIn .., h, _, options, hoptions, _
  | .isNotIn .., h, _, options, hoptions, _ | .between .., h, _, options, hoptions, _
  | .isNull _, h, _, options, hoptions, _ | .isNotNull _, h, _, options, hoptions, _
  | .date .., h, _, options, hoptions, _ | .datePart .., h, _, options, hoptions, _
  | .geoDistance .., h, _, options, hoptions, _ | .geoBounds .., h, _, options, hoptions, _
  | .parentId .., h, _, options, hoptions, _ | .search .., h, _, options, hoptions, _
  | .startsWith .., h, _, options, hoptions, _ | .functionScore .., h, _, options, hoptions, _ => by
    rw [clause_written h hoptions (by simp)]
    exact iff_of_true (by simp [Condition.query?]) (onScripts_of_leaf options rfl (by simp))

theorem aggregations_written : (aggregations : List Aggregation) →
    AggregationsStorable aggregations → (inner : Bool) →
    (readAggregationItems inner ((encodeAggregations aggregations).map (ofWritten merged)) =
        .ok aggregations ↔
      AggregationsOnScripts (ScriptKept merged) aggregations)
  | [], _, _ => by simp [encodeAggregations, readAggregationItems, AggregationsOnScripts]
  | { key, aggregator, children } :: rest, h, inner => by
    rw [AggregationsStorable] at h
    obtain ⟨⟨haggregator, hchildren⟩, hrest⟩ := h
    have hparts := aggregator_written aggregator haggregator
    have hinside := aggregations_written children hchildren inner
    have hitems := aggregations_written rest hrest inner
    have hfirst := @aggregation_written merged inner key _ children haggregator
    rw [AggregationsOnScripts, ← hparts, ← hinside, ← hitems, ← hfirst, encodeAggregations,
      List.map_cons, readAggregationItems]
    exact cons_eq_ok

theorem aggregator_written : (aggregator : Aggregator) → aggregator.Storable →
    ((∀ query ∈ aggregator.query?,
        Query.read true (ofWritten merged query.toJson) = .ok query) ↔
      aggregator.OnScripts (ScriptKept merged))
  | .filter query, h => by
    have hquery := query_written query h true
    simp [Aggregator.query?, Aggregator.OnScripts, hquery]
  | .terms .., _ | .dateHistogram .., _ | .cardinality _, _ | .composite _, _ | .dateRange _, _
  | .exists _, _ | .missing _, _ | .reverseNested, _ | .nested _, _ | .children _, _
  | .metric .., _ => by
    simp [Aggregator.query?, Aggregator.OnScripts]

end

end SearchQuery
