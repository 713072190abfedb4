import SearchQuery.Proofs.Datum.Members
import SearchQuery.Proofs.Query.Names
import SearchQuery.Proofs.Time.Timestamp
/-!
# Leaves of stored queries

The parts of a query that hold no clauses are read back from their stored form: words, clause
values, options, sort keys. Values of a storable query are valid, so it makes no difference to them
whether entries of one name are merged.
-/

namespace SearchQuery

open Datum

variable {merged inner : Bool} {α : Type}

/-! ### Values -/

theorem readText_written (text : String) :
    readText (ofWritten merged (.str text)) = .ok text := by
  rw [ofWritten_str, readText]

theorem readBool_written (value : Bool) :
    readBool (ofWritten merged (.bool value)) = .ok value := by
  rw [ofWritten_of_valid (by trivial), ofJson, readBool]

theorem readNumber_written {number : Binary64} (h : number.isFinite = true) :
    readNumber (ofWritten merged (.float number)) = .ok number := by
  have hvalid : (Json.float number).Valid := h
  rw [ofWritten_of_valid hvalid, ofJson, readNumber]

theorem readWhole_ofJson (value : Int) : readWhole (ofJson (.int value)) = .ok value := by
  rw [ofJson]
  split
  · next h => rw [readWhole, Int.toNat_of_nonneg h]
  · rw [readWhole]

theorem readInt_written {value : Int} (hlow : -(2 ^ 63) ≤ value) (hhigh : value < 2 ^ 63) :
    readInt (ofWritten merged (.int value)) = .ok value := by
  have hvalid : (Json.int value).Valid := ⟨hlow, by omega⟩
  rw [ofWritten_of_valid hvalid, readInt, readWhole_ofJson]
  exact if_pos ⟨hlow, hhigh⟩

theorem readCount_written {n : Nat} (h : n < 2 ^ 64) :
    readCount (ofWritten merged (.int n)) = .ok n := by
  have hvalid : (Json.int n).Valid := ⟨by omega, by omega⟩
  have hrange : (0 : Int) ≤ n ∧ (n : Int) < 2 ^ 64 := ⟨by omega, by omega⟩
  rw [ofWritten_of_valid hvalid, readCount, readWhole_ofJson, bind_eq_ok]
  refine ⟨n, rfl, ?_⟩
  rw [if_pos hrange, Int.toNat_natCast]

theorem readAny_written {value : Json} (h : value.Valid) :
    readAny (ofWritten merged value) = .ok value := by
  simp only [ofWritten_of_valid h, readAny, toJson?_ofJson, Json.canonical_of_valid value h]

theorem readObject_written {entries : Object} (h : (Json.obj entries).Valid) :
    readObject (ofWritten merged (.obj entries)) = .ok entries := by
  have hcanonical := Json.canonical_of_valid _ h
  rw [Json.canonical, Json.obj.injEq] at hcanonical
  simp only [ofWritten_of_valid h, ofJson, readObject, entriesToJson?_ofEntries, hcanonical]

theorem readOption_written {read : Datum → Reading α} {datum : Datum} {value : α}
    (hnull : datum.isNull = false) (h : read datum = .ok value) :
    readOption read datum = .ok (some value) := by
  have hnot : datum ≠ .null := by
    rintro rfl
    cases hnull
  rw [readOption, h, Except.map]
  exact hnot

theorem mapM_written {read : Datum → Reading α} {write : α → Json} {values : List α}
    (h : ∀ value ∈ values, read (ofWritten merged (write value)) = .ok value) :
    ((values.map write).map (ofWritten merged)).mapM read = .ok values := by
  induction values with
  | nil => rfl
  | cons value rest ih =>
    rw [List.map_cons, List.map_cons, List.mapM_cons, h value List.mem_cons_self,
      ih fun other hother => h other (List.mem_cons_of_mem _ hother)]
    rfl

theorem readList_written {read : Datum → Reading α} {write : α → Json} {values : List α}
    (h : ∀ value ∈ values, read (ofWritten merged (write value)) = .ok value) :
    readList read (ofWritten merged (.arr (values.map write))) = .ok values := by
  rw [ofWritten_arr, readList, mapM_written h]

/-- A word stands for the only element that has it. -/
theorem findWord_word {all : List α} {word : α → String} {value : α} (hmem : value ∈ all)
    (hwords : ∀ other ∈ all, word other = word value → other = value) :
    findWord all word (.str (word value)) = .ok value := by
  have hfind : all.find? (word · == word value) = some value := by
    induction all with
    | nil => cases hmem
    | cons first rest ih =>
      by_cases hfirst : word first = word value
      · obtain rfl := hwords first List.mem_cons_self hfirst
        simp
      · have hne : value ≠ first := by
          rintro rfl
          exact hfirst rfl
        rw [List.find?_cons_of_neg (by simpa using hfirst)]
        exact ih (List.mem_of_ne_of_mem hne hmem) fun other hother =>
          hwords other (List.mem_cons_of_mem _ hother)
  simp only [findWord, hfind]

theorem readWord_written {all : List α} {word : α → String} {value : α} (hmem : value ∈ all)
    (hwords : ∀ other ∈ all, word other = word value → other = value) :
    readWord inner all word (ofWritten merged (.str (word value))) = .ok value := by
  rw [ofWritten_str, readWord, findWord_word hmem hwords]

theorem clauseValue_written {value : ClauseValue} (h : value.Storable) :
    ClauseValue.read (ofWritten merged value.toJson) = .ok value := by
  cases value with
  | instant time =>
    have hvalid : (ClauseValue.instant time).toJson.Valid :=
      ⟨List.pairwise_singleton _ _, trivial, trivial⟩
    have hinstant : ClauseValue.instant? (ofJson (ClauseValue.instant time).toJson) = some time :=
      Timestamp.parse_text time
    rw [ofWritten_of_valid hvalid, ClauseValue.read, hinstant]
  | plain value =>
    rw [ClauseValue.toJson, ClauseValue.read, ofWritten_of_valid h.1, h.2]
    have hany : readAny (ofJson value) = .ok value := by
      rw [← ofWritten_of_valid h.1]
      exact @readAny_written merged value h.1
    rw [hany]
    rfl

/-! ### Members -/

theorem fields_written (entries : Object) :
    Fields.ofDatum (ofWritten merged (.obj entries)) = .ok (.keyed (membersOf merged entries)) := by
  rw [ofWritten_obj, Fields.ofDatum, fields_ofEntries (named_membersOf entries)]

/-- Whether fields hold what is written of the entries, save under names that belong to others. -/
def Fields.Holds (fields : Fields) (merged : Bool) (others : List String) (entries : Object) :
    Prop :=
  ∀ position name, name ∉ others →
    fields.get position name = .ok ((Object.last? entries name).map (ofWritten merged))

theorem membersOf_hold {entries : Object} (h : Object.Distinct entries ∨ merged = true) :
    (Fields.keyed (membersOf merged entries)).Holds merged [] entries := by
  intro position name _
  rw [Fields.get, findEntry_congr (isMember_eq_isName (named_membersOf entries) position name),
    findEntry_membersOf h]

theorem optional_none {fields : Fields} {position : Nat} {name : String}
    (h : fields.get position name = .ok none) (default : α) (read : Datum → Reading α) :
    fields.optional position name default read = .ok default := by
  rw [Fields.optional, h]
  rfl

section Holds

variable {fields : Fields} {others : List String} {entries : Object}
  (h : fields.Holds merged others entries) (position : Nat) (name : String)

include h

theorem Fields.Holds.required {json : Json} {read : Datum → Reading α} {value : α}
    (hread : read (ofWritten merged json) = .ok value)
    (hlast : Object.last? entries name = some json := by
      simp [Condition.entries, Aggregator.entries, queryEntries, last?_encodeSome])
    (hname : name ∉ others := by decide) : fields.required position name read = .ok value := by
  rw [Fields.required, h position name hname, hlast]
  exact hread

theorem Fields.Holds.given (default : α) {json : Json} {read : Datum → Reading α} {value : α}
    (hread : read (ofWritten merged json) = .ok value)
    (hlast : Object.last? entries name = some json := by
      simp [Condition.entries, Aggregator.entries, queryEntries, last?_encodeSome])
    (hname : name ∉ others := by decide) :
    fields.optional position name default read = .ok value := by
  rw [Fields.optional, h position name hname, hlast]
  exact hread

/-- A member that is left out when there is no value. -/
theorem Fields.Holds.optional {value : Option α} {write : α → Json} {read : Datum → Reading α}
    (hread : ∀ part ∈ value, (ofWritten merged (write part)).isNull = false ∧
      read (ofWritten merged (write part)) = .ok part)
    (hlast : Object.last? entries name = value.map write := by
      simp [Condition.entries, Aggregator.entries, queryEntries, last?_encodeSome])
    (hname : name ∉ others := by decide) :
    fields.optional position name none (readOption read) = .ok value := by
  have hget := h position name hname
  rw [hlast] at hget
  cases value with
  | none => exact optional_none hget none _
  | some part =>
    obtain ⟨hnull, hpart⟩ := hread part rfl
    rw [Fields.optional, hget]
    exact readOption_written hnull hpart

end Holds

theorem isNull_written_str (text : String) : (ofWritten merged (.str text)).isNull = false := by
  rw [ofWritten_str]
  rfl

theorem isNull_written {value : Json} (h : value.ValidSome) :
    (ofWritten merged value).isNull = false := by
  rw [ofWritten_of_valid h.1]
  cases value with
  | null => cases h.2
  | int value =>
    rw [ofJson]
    split <;> rfl
  | _ => rfl

theorem written_null : ofWritten merged .null = .null := by
  rw [ofWritten_of_valid (by trivial), ofJson]

theorem encodeText_written (value : Option String) :
    readOption readText (ofWritten merged (encodeText value)) = .ok value := by
  cases value with
  | none => rw [encodeText, written_null, readOption]
  | some text => exact readOption_written (isNull_written_str text) (readText_written text)

theorem encodeCount_written {value : Option Nat} (h : CountStorable value) :
    readOption readCount (ofWritten merged (encodeCount value)) = .ok value := by
  cases value with
  | none => rw [encodeCount, written_null, readOption]
  | some n =>
    have hsome : (Json.int n).ValidSome := by
      have hlt := h n rfl
      exact ⟨⟨by omega, by omega⟩, rfl⟩
    exact readOption_written (isNull_written hsome) (readCount_written (h n rfl))

theorem getD_null_written {value : Option Json} (h : ∀ part ∈ value, part.ValidSome) :
    readOption readAny (ofWritten merged (value.getD .null)) = .ok value := by
  cases value with
  | none => rw [Option.getD_none, written_null, readOption]
  | some part =>
    have hpart := h part rfl
    exact readOption_written (isNull_written hpart) (readAny_written hpart.1)

theorem columns_written (columns : Option (List String)) :
    readOption (readList readText) (ofWritten merged ((columns.map Json.ofStrings).getD .null)) =
      .ok columns := by
  cases columns with
  | none => rw [Option.map_none, Option.getD_none, written_null, readOption]
  | some texts =>
    have hlist : readList readText (ofWritten merged (Json.ofStrings texts)) = .ok texts :=
      readList_written fun text _ => readText_written text
    have hnull : (ofWritten merged (Json.ofStrings texts)).isNull = false := by
      rw [Json.ofStrings, ofWritten_arr]
      rfl
    exact readOption_written hnull hlist

/-! ### Words -/

theorem junction_written (inner : Bool) (junction : Junction) :
    readWord inner Junction.all Junction.word (ofWritten merged (.str junction.word)) =
      .ok junction :=
  readWord_written (by cases junction <;> decide) (by cases junction <;> decide)

theorem operator_written (inner : Bool) (operator : Operator) :
    readWord inner Operator.all Operator.word (ofWritten merged (.str operator.word)) =
      .ok operator :=
  readWord_written (by cases operator <;> decide) (by cases operator <;> decide)

theorem relation_written (inner : Bool) (relation : Relation) :
    readWord inner Relation.all Relation.word (ofWritten merged (.str relation.word)) =
      .ok relation :=
  readWord_written (by cases relation <;> decide) (by cases relation <;> decide)

theorem datePart_written (inner : Bool) (part : DatePart) :
    readWord inner DatePart.all DatePart.word (ofWritten merged (.str part.word)) = .ok part :=
  readWord_written (by cases part <;> decide) (by cases part <;> decide)

theorem direction_written (inner : Bool) (direction : Direction) :
    readWord inner Direction.all Direction.word (ofWritten merged (.str direction.word)) =
      .ok direction :=
  readWord_written (by cases direction <;> decide) (by cases direction <;> decide)

theorem conflicts_written (inner : Bool) (conflicts : Conflicts) :
    readWord inner Conflicts.all Conflicts.word (ofWritten merged (.str conflicts.word)) =
      .ok conflicts :=
  readWord_written (by cases conflicts <;> decide) (by cases conflicts <;> decide)

theorem refresh_written (inner : Bool) (refresh : Refresh) :
    readWord inner Refresh.all Refresh.word (ofWritten merged (.str refresh.word)) = .ok refresh :=
  readWord_written (by cases refresh <;> decide) (by cases refresh <;> decide)

theorem metric_written (inner : Bool) (metric : Metric) :
    readWord inner Metric.all Metric.word (ofWritten merged (.str metric.word)) = .ok metric :=
  readWord_written (by cases metric <;> decide) (by cases metric <;> decide)

/-! ### Structures -/

theorem boost_written {boost : Option Binary64} (h : ∀ part ∈ boost, part.isFinite = true) :
    ∀ part ∈ boost, (ofWritten merged (.float part)).isNull = false ∧
      readNumber (ofWritten merged (.float part)) = .ok part := by
  intro part hpart
  have hvalid : (Json.float part).ValidSome := ⟨h part hpart, rfl⟩
  exact ⟨isNull_written hvalid, readNumber_written (h part hpart)⟩

theorem json_written {value : Option Json} (h : ∀ part ∈ value, part.ValidSome) :
    ∀ part ∈ value, (ofWritten merged (id part)).isNull = false ∧
      readAny (ofWritten merged (id part)) = .ok part := fun part hpart =>
  ⟨isNull_written (h part hpart), readAny_written (h part hpart).1⟩

theorem text_written (value : Option String) :
    ∀ part ∈ value, (ofWritten merged (.str part)).isNull = false ∧
      readText (ofWritten merged (.str part)) = .ok part := fun part _ =>
  ⟨isNull_written_str part, readText_written part⟩

theorem clauseOptions_written {options : ClauseOptions} (h : options.Storable) :
    ClauseOptions.read (ofWritten merged options.toJson) = .ok options := by
  obtain ⟨boost, innerHits⟩ := options
  have hfields := @membersOf_hold merged _
    (.inl (distinct_clauseOptions (boost.map .float) innerHits))
  have hboost := hfields.optional 0 "boost" (boost_written h.boost)
  have hinner := hfields.optional 1 "inner_hits" (json_written h.innerHits)
  simp only [ClauseOptions.toJson, ClauseOptions.read, fields_written, Fields.atMost, hboost,
    hinner, bind_eq_ok, pure_eq_ok, Except.ok.injEq, exists_eq_left', exists_const, and_self]

theorem searchField_written {field : SearchField} (h : field.Storable) :
    SearchField.read (ofWritten merged field.toJson) = .ok field := by
  obtain ⟨name, boost⟩ := field
  have hfields := @membersOf_hold merged _
    (.inl (distinct_searchField (.str name) (boost.map .float)))
  have hname := hfields.required 0 "name" (readText_written name)
  have hboost := hfields.optional 1 "boost" (boost_written h)
  simp only [SearchField.toJson, SearchField.read, fields_written, Fields.atMost, hname, hboost,
    bind_eq_ok, pure_eq_ok, Except.ok.injEq, exists_eq_left', exists_const, and_self]

theorem tagIn_written {tags : List String} {numbered : Bool} {entries : Object} {tag : String}
    (h : Object.Distinct entries ∨ merged = true)
    (htag : Object.last? entries "type" = some (.str tag)) (hmem : tag ∈ tags) :
    tagIn tags numbered (membersOf merged entries) = .ok tag := by
  have hword : findWord tags id (.str (id tag)) = .ok tag :=
    findWord_word hmem fun _ _ hsame => hsame
  rw [tagIn, findEntry_membersOf h, htag, Option.map_some, ofWritten_str]
  exact hword

theorem sortKind_written (inner : Bool) {kind : SortKind} (h : kind.Storable) :
    SortKind.read inner (ofWritten merged kind.toJson) = .ok kind := by
  cases kind with
  | value missing mode =>
    have hnames := distinct_sortValue (.str "basic") missing (mode.map .str)
    have hfields := @membersOf_hold merged _ (.inl hnames)
    have htag := @tagIn_written merged SortKind.tags inner _ "basic" (.inl hnames)
      (by simp [last?_encodeSome]) (by decide)
    have hmissing := hfields.optional 0 "missing" (json_written h)
    have hmode := hfields.optional 1 "mode" (text_written mode)
    simp only [SortKind.toJson, List.cons_append, SortKind.read, ofWritten_obj, tagged, htag,
      fields_ofEntries (named_membersOf _), Fields.atMost, hmissing, hmode, bind_eq_ok, pure_eq_ok,
      Except.ok.injEq, exists_eq_left', exists_const, and_self]
  | distance coordinates unit distanceType =>
    have hnames := distinct_sortDistance (.str "geo_distance") coordinates (unit.map .str)
      (distanceType.map .str)
    have hfields := @membersOf_hold merged _ (.inl hnames)
    have htag := @tagIn_written merged SortKind.tags inner _ "geo_distance" (.inl hnames)
      (by simp [last?_encodeSome]) (by decide)
    have hcoordinates := hfields.required 0 "coordinates" (readAny_written h)
    have hunit := hfields.optional 1 "unit" (text_written unit)
    have htype := hfields.optional 2 "distance_type" (text_written distanceType)
    simp only [SortKind.toJson, List.cons_append, SortKind.read, ofWritten_obj, tagged, htag,
      fields_ofEntries (named_membersOf _), Fields.atMost, hcoordinates, hunit,
      htype, bind_eq_ok, pure_eq_ok, Except.ok.injEq, exists_eq_left', exists_const, and_self]

theorem sortKey_written (inner : Bool) {key : SortKey} (h : key.kind.Storable) :
    SortKey.read inner (ofWritten merged key.toJson) = .ok key := by
  obtain ⟨column, direction, kind⟩ := key
  have hfields := @membersOf_hold merged _
    (.inl (distinct_sortKey (.str column) (.str direction.word) kind.toJson))
  have hcolumn := hfields.required 0 "column" (readText_written column)
  have hdirection := hfields.given 1 "direction" .ascending (direction_written inner direction)
  have hkind := hfields.given 2 "kind" (.value none none) (sortKind_written inner h)
  simp only [SortKey.toJson, SortKey.read, fields_written, Fields.atMost, hcolumn, hdirection,
    hkind, bind_eq_ok, pure_eq_ok, Except.ok.injEq, exists_eq_left', exists_const, and_self]

theorem requestOptions_written (inner : Bool) (options : RequestOptions) :
    RequestOptions.read inner (ofWritten merged options.toJson) = .ok options := by
  obtain ⟨routing, parentId, conflicts, refresh, includeInnerHits⟩ := options
  have hfields := @membersOf_hold merged _ (.inl (distinct_requestOptions (routing.map .str)
    (parentId.map .str) (conflicts.map (.str ·.word)) (refresh.map (.str ·.word))
    (.bool includeInnerHits)))
  have hrouting := hfields.optional 0 "routing" (text_written routing)
  have hparent := hfields.optional 1 "parent_id" (text_written parentId)
  have hconflicts := hfields.optional 2 "conflicts" fun part (_ : part ∈ conflicts) =>
    ⟨isNull_written_str part.word, conflicts_written inner part⟩
  have hrefresh := hfields.optional 3 "refresh" fun part (_ : part ∈ refresh) =>
    ⟨isNull_written_str part.word, refresh_written inner part⟩
  have hinclude := hfields.given 4 "include_inner_hits" false (readBool_written includeInnerHits)
  simp only [RequestOptions.toJson, List.append_assoc, RequestOptions.read, fields_written,
    Fields.atMost, hrouting, hparent, hconflicts, hrefresh, hinclude, bind_eq_ok, pure_eq_ok,
    Except.ok.injEq, exists_eq_left', exists_const, and_self]

end SearchQuery
