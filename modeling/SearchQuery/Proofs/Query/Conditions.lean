import SearchQuery.Proofs.Query.Leaves
/-!
# Conditions and aggregators of stored queries

A condition is read back from its fields by its type, and so is an aggregator. One that holds a
sub-query is read back as soon as the sub-query is. The options of a script are the exception: they
are never among the fields.
-/

namespace SearchQuery

open Datum

variable {merged inner : Bool}

/-! ### Parts of conditions and aggregators -/

/-- The type of a condition. -/
def Condition.tag : Condition → String
  | .compare .. => "basic"
  | .isIn .. => "in"
  | .isNotIn .. => "not_in"
  | .between .. => "between"
  | .isNull _ => "null"
  | .isNotNull _ => "not_null"
  | .date .. => "date"
  | .datePart .. => "date_part"
  | .geoDistance .. => "geo_distance"
  | .geoBounds .. => "geo_bounds_in"
  | .nested .. => "nested_doc"
  | .group _ => "group"
  | .not _ => "not"
  | .related .. => "relationship"
  | .parentId .. => "parent_id"
  | .script .. => "script"
  | .search .. => "search"
  | .startsWith .. => "prefix"
  | .functionScore .. => "function_score"

/-- The sub-query of a condition. -/
def Condition.query? : Condition → Option Query
  | .nested _ query _ | .group query | .not query | .related _ _ query => some query
  | _ => none

/-- The type of an aggregator. -/
def Aggregator.tag : Aggregator → String
  | .terms .. => "terms"
  | .dateHistogram .. => "date_histogram"
  | .cardinality _ => "cardinality"
  | .composite _ => "composite"
  | .dateRange _ => "date_range"
  | .exists _ => "exists"
  | .missing _ => "missing"
  | .reverseNested => "reverse_nested"
  | .nested _ => "nested"
  | .children _ => "children"
  | .filter _ => "filter"
  | .metric .. => "metric"

/-- The sub-query of an aggregator. -/
def Aggregator.query? : Aggregator → Option Query
  | .filter query => some query
  | _ => none

theorem Condition.tag_mem (condition : Condition) : condition.tag ∈ Condition.tags := by
  cases condition <;> simp [tag, tags]

theorem Aggregator.tag_mem (aggregator : Aggregator) : aggregator.tag ∈ Aggregator.tags := by
  cases aggregator <;> simp [tag, tags]

theorem Condition.last?_type (condition : Condition) :
    Object.last? condition.entries "type" = some (.str condition.tag) := by
  cases condition <;> simp [entries, tag]

theorem Condition.last?_query (condition : Condition) :
    Object.last? condition.entries "query" = condition.query?.map Query.toJson := by
  cases condition <;> simp [entries, query?]

theorem Aggregator.last?_type (aggregator : Aggregator) :
    Object.last? aggregator.entries "type" = some (.str aggregator.tag) := by
  cases aggregator <;> simp [entries, tag, last?_encodeSome]

theorem Aggregator.last?_query (aggregator : Aggregator) :
    Object.last? aggregator.entries "query" = aggregator.query?.map Query.toJson := by
  cases aggregator <;> simp [entries, query?, last?_encodeSome]

/-! ### Conditions and aggregators -/

theorem readOperator_written (operator : Operator) :
    readOperator (ofWritten merged (.str operator.word)) = .ok operator :=
  operator_written true operator

/-- A condition without a sub-query that is no script is read back from its fields. -/
theorem leaf_written {condition : Condition} {members : List (Datum × Datum)}
    (query : Reading (Option Query)) (h : condition.Storable) (hquery : condition.query? = none)
    (hscript : ∀ source own, condition ≠ .script source own)
    (hfields : (Fields.keyed members).Holds merged ["boolean", "options"] condition.entries) :
    Condition.ofFields condition.tag (.keyed members) query = .ok condition := by
  cases condition with
  | nested | group | not | related => cases hquery
  | script source own => exact absurd rfl (hscript source own)
  | compare column operator value negate =>
    have hcolumn := hfields.required 0 "column" (readText_written column)
    have hoperator := hfields.required 1 "operator" (readOperator_written operator)
    have hvalue := hfields.given 2 "value" .null (clauseValue_written h)
    have hnegate := hfields.given 3 "negate" false (readBool_written negate)
    rw [Condition.tag, Condition.ofFields, hcolumn, hoperator, hvalue, hnegate]
    rfl
  | isIn column values =>
    have hcolumn := hfields.required 0 "column" (readText_written column)
    have hvalues := hfields.required 1 "values"
      (readList_written fun value hvalue => clauseValue_written (h value hvalue))
    rw [Condition.tag, Condition.ofFields, hcolumn, hvalues]
    rfl
  | isNotIn column values =>
    have hcolumn := hfields.required 0 "column" (readText_written column)
    have hvalues := hfields.required 1 "values"
      (readList_written fun value hvalue => clauseValue_written (h value hvalue))
    rw [Condition.tag, Condition.ofFields, hcolumn, hvalues]
    rfl
  | between column low high negate =>
    have hcolumn := hfields.required 0 "column" (readText_written column)
    have hlow := hfields.required 1 "low" (clauseValue_written h.1)
    have hhigh := hfields.required 2 "high" (clauseValue_written h.2)
    have hnegate := hfields.given 3 "negate" false (readBool_written negate)
    rw [Condition.tag, Condition.ofFields, hcolumn, hlow, hhigh, hnegate]
    rfl
  | isNull column =>
    have hcolumn := hfields.required 0 "column" (readText_written column)
    rw [Condition.tag, Condition.ofFields, hcolumn]
    rfl
  | isNotNull column =>
    have hcolumn := hfields.required 0 "column" (readText_written column)
    rw [Condition.tag, Condition.ofFields, hcolumn]
    rfl
  | date column operator value =>
    have hcolumn := hfields.required 0 "column" (readText_written column)
    have hoperator := hfields.required 1 "operator" (readOperator_written operator)
    have hvalue := hfields.required 2 "value" (clauseValue_written h)
    rw [Condition.tag, Condition.ofFields, hcolumn, hoperator, hvalue]
    rfl
  | datePart column part operator value =>
    have hcolumn := hfields.required 0 "column" (readText_written column)
    have hpart := hfields.required 1 "part" (datePart_written true part)
    have hoperator := hfields.required 2 "operator" (readOperator_written operator)
    have hvalue := hfields.required 3 "value" (readInt_written h.1 h.2)
    rw [Condition.tag, Condition.ofFields, hcolumn, hpart, hoperator, hvalue]
    rfl
  | geoDistance column location distance =>
    have hcolumn := hfields.required 0 "column" (readText_written column)
    have hlocation := hfields.required 1 "location" (readAny_written h)
    have hdistance := hfields.required 2 "distance" (readText_written distance)
    rw [Condition.tag, Condition.ofFields, hcolumn, hlocation, hdistance]
    rfl
  | geoBounds column bounds =>
    have hcolumn := hfields.required 0 "column" (readText_written column)
    have hbounds := hfields.required 1 "bounds" (readAny_written h)
    rw [Condition.tag, Condition.ofFields, hcolumn, hbounds]
    rfl
  | parentId parentType id =>
    have htype := hfields.required 0 "parent_type" (readText_written parentType)
    have hid := hfields.required 1 "id" (clauseValue_written h)
    rw [Condition.tag, Condition.ofFields, htype, hid]
    rfl
  | startsWith column value =>
    have hcolumn := hfields.required 0 "column" (readText_written column)
    have hvalue := hfields.required 1 "value" (readText_written value)
    rw [Condition.tag, Condition.ofFields, hcolumn, hvalue]
    rfl
  | functionScore functionType params =>
    have htype := hfields.required 0 "function_type" (readText_written functionType)
    have hparams := hfields.given 1 "params" [] (readObject_written h)
    rw [Condition.tag, Condition.ofFields, htype, hparams]
    rfl
  | search text fields matchType fuzziness constantScore =>
    have htext := hfields.required 0 "text" (readText_written text)
    have hsearched := hfields.given 1 "fields" []
      (readList_written fun field hfield => searchField_written (h.1 field hfield))
    have hmatch := hfields.given 2 "match_type" none (encodeText_written matchType)
    have hfuzziness := hfields.given 3 "fuzziness" none (getD_null_written h.2)
    have hconstant := hfields.given 4 "constant_score" false (readBool_written constantScore)
    rw [Condition.tag, Condition.ofFields, htext, hsearched, hmatch, hfuzziness, hconstant]
    rfl

-- The fields are found in any order, and one with a default may be left out.
example : Condition.ofFields "between"
    (.keyed [(.str "high", .count 9), (.str "column", .str "age"), (.str "low", .count 1)])
    (.ok none) = .ok (.between "age" (.plain (.int 1)) (.plain (.int 9)) false) := by
  cbv

/-- What is made of a needed sub-query is found where the sub-query is. -/
theorem needed_eq_ok {query : Reading (Option Query)} {part : Query} {make : Query → Condition}
    (hmake : ∀ other, make other = make part → other = part) :
    (needed query >>= fun found => pure (make found)) = .ok (make part) ↔
      query = .ok (some part) := by
  simp only [needed, bind_eq_ok, pure_eq_ok]
  constructor
  · rintro ⟨found, ⟨read, hread, hfound⟩, hmade⟩
    cases read with
    | none => cases hfound
    | some other =>
      obtain rfl := Except.ok.inj hfound
      rw [hread, hmake _ hmade]
  · intro h
    exact ⟨part, ⟨some part, h, rfl⟩, rfl⟩

/-- A condition with a sub-query is read back from its fields as soon as the sub-query is. -/
theorem nested_written {condition : Condition} {part : Query} {members : List (Datum × Datum)}
    {query : Reading (Option Query)} (hquery : condition.query? = some part)
    (hfields : (Fields.keyed members).Holds merged ["boolean", "options"] condition.entries) :
    Condition.ofFields condition.tag (.keyed members) query = .ok condition ↔
      query = .ok (some part) := by
  cases condition with
  | nested column inner negate =>
    obtain rfl : inner = part := Option.some.inj hquery
    have hcolumn := hfields.required 0 "column" (readText_written column)
    have hnegate := hfields.given 2 "negate" false (readBool_written negate)
    rw [Condition.tag, Condition.ofFields, hcolumn, hnegate]
    exact @needed_eq_ok query inner (.nested column · negate) (by simp)
  | group inner =>
    obtain rfl : inner = part := Option.some.inj hquery
    rw [Condition.tag, Condition.ofFields]
    exact @needed_eq_ok query inner .group (by simp)
  | not inner =>
    obtain rfl : inner = part := Option.some.inj hquery
    rw [Condition.tag, Condition.ofFields]
    exact @needed_eq_ok query inner .not (by simp)
  | related relation documentType inner =>
    obtain rfl : inner = part := Option.some.inj hquery
    have hrelation := hfields.required 0 "relation" (relation_written true relation)
    have htype := hfields.required 1 "document_type" (readText_written documentType)
    rw [Condition.tag, Condition.ofFields, hrelation, htype]
    exact @needed_eq_ok query inner (.related relation documentType) (by simp)
  | _ => cases hquery

/-- An aggregator without a sub-query is read back from its fields. -/
theorem aggregator_leaf_written {aggregator : Aggregator} {members : List (Datum × Datum)}
    (query : Reading (Option Query)) (h : aggregator.Storable) (hquery : aggregator.query? = none)
    (hfields : (Fields.keyed members).Holds merged ["key", "children"] aggregator.entries) :
    Aggregator.ofFields aggregator.tag (.keyed members) query = .ok aggregator := by
  cases aggregator with
  | filter => cases hquery
  | terms field options =>
    have hfield := hfields.required 0 "field" (readText_written field)
    have hoptions := hfields.given 1 "options" [] (readObject_written h)
    rw [Aggregator.tag, Aggregator.ofFields, hfield, hoptions]
    rfl
  | dateHistogram field options =>
    have hfield := hfields.required 0 "field" (readText_written field)
    have hoptions := hfields.given 1 "options" [] (readObject_written h)
    rw [Aggregator.tag, Aggregator.ofFields, hfield, hoptions]
    rfl
  | cardinality args =>
    have hargs := hfields.given 0 "args" [] (readObject_written h)
    rw [Aggregator.tag, Aggregator.ofFields, hargs]
    rfl
  | composite args =>
    have hargs := hfields.given 0 "args" [] (readObject_written h)
    rw [Aggregator.tag, Aggregator.ofFields, hargs]
    rfl
  | dateRange args =>
    have hargs := hfields.given 0 "args" [] (readObject_written h)
    rw [Aggregator.tag, Aggregator.ofFields, hargs]
    rfl
  | «exists» field =>
    have hfield := hfields.required 0 "field" (readText_written field)
    rw [Aggregator.tag, Aggregator.ofFields, hfield]
    rfl
  | missing field =>
    have hfield := hfields.required 0 "field" (readText_written field)
    rw [Aggregator.tag, Aggregator.ofFields, hfield]
    rfl
  | reverseNested => rfl
  | nested path =>
    have hpath := hfields.required 0 "path" (readText_written path)
    rw [Aggregator.tag, Aggregator.ofFields, hpath]
    rfl
  | children documentType =>
    have htype := hfields.required 0 "document_type" (readText_written documentType)
    rw [Aggregator.tag, Aggregator.ofFields, htype]
    rfl
  | metric metric field script =>
    have hmetric := hfields.required 0 "metric" (metric_written true metric)
    have hfield := hfields.given 1 "field" "" (readText_written field)
    have hscript := hfields.optional 2 "script" (json_written h)
    rw [Aggregator.tag, Aggregator.ofFields, hmetric, hfield, hscript]
    rfl

example : Aggregator.ofFields "metric" (.keyed [(.str "metric", .str "avg")]) (.ok none) =
    .ok (.metric .avg "" none) := by
  cbv

/-- A filter is read back from its fields as soon as its sub-query is. -/
theorem filter_written {part : Query} {members : List (Datum × Datum)} {read : Reading Query} :
    Aggregator.ofFields "filter" (.keyed members) (read.map some) = .ok (.filter part) ↔
      read = .ok part := by
  rw [Aggregator.ofFields]
  cases read with
  | error reason =>
    constructor
    · intro h
      cases h
    · intro h
      cases h
  | ok found =>
    constructor
    · intro h
      cases h
      rfl
    · intro h
      cases h
      rfl

end SearchQuery
