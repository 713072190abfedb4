import SearchQuery.Datum.Fields
import SearchQuery.Proofs.Except
import SearchQuery.Proofs.Json.Valid
/-!
# Members of written structures

What is found under a name in the data made of an object. A value is written as it is, with all
entries of its objects, or in canonical form, where entries of one name are merged into the last.
Either way an object with distinct names yields the value under each name.
-/

namespace SearchQuery

/-! ### Entries under wanted keys -/

theorem findEntry_cons (wanted : Datum → Bool) (key value : Datum) (rest : List (Datum × Datum)) :
    findEntry wanted ((key, value) :: rest) =
      if wanted key then
        if rest.any (wanted ·.1) then .error "duplicate field" else .ok (some value)
      else findEntry wanted rest := by
  by_cases hkey : wanted key = true
  · simp only [findEntry, List.filter_cons, hkey, if_true]
    cases hrest : rest.filter (wanted ·.1) with
    | nil =>
      have hany : rest.any (wanted ·.1) = false := by
        simpa [List.any_eq_false] using List.filter_eq_nil_iff.mp hrest
      simp only [hany, Bool.false_eq_true, if_false]
    | cons entry others =>
      have hany : rest.any (wanted ·.1) = true := by
        have hentry : entry ∈ rest.filter (wanted ·.1) := by rw [hrest]; exact List.mem_cons_self
        exact List.any_eq_true.mpr ⟨entry, List.mem_filter.mp hentry⟩
      simp only [hany, if_true]
  · simp only [findEntry, List.filter_cons, hkey, Bool.false_eq_true, if_false]

theorem findEntry_congr {wanted other : Datum → Bool} {members : List (Datum × Datum)}
    (h : ∀ member ∈ members, wanted member.1 = other member.1) :
    findEntry wanted members = findEntry other members := by
  unfold findEntry
  rw [List.filter_congr h]

theorem findEntry_filter {wanted : Datum → Bool} {keep : Datum × Datum → Bool}
    {members : List (Datum × Datum)}
    (h : ∀ member ∈ members, wanted member.1 = true → keep member = true) :
    findEntry wanted (members.filter keep) = findEntry wanted members := by
  have hboth : ∀ member ∈ members,
      (wanted member.1 && keep member) = wanted member.1 := by
    intro member hmember
    cases hwanted : wanted member.1 with
    | false => rfl
    | true => exact h member hmember hwanted
  unfold findEntry
  rw [List.filter_filter, List.filter_congr hboth]

theorem findEntry_eq_none {wanted : Datum → Bool} {members : List (Datum × Datum)}
    (h : ∀ member ∈ members, wanted member.1 = false) : findEntry wanted members = .ok none := by
  have hnil : members.filter (wanted ·.1) = [] := by
    rw [List.filter_eq_nil_iff]
    simpa using h
  simp only [findEntry, hnil]

namespace Datum

/-- Whether every key of a map is a text. -/
def Named (members : List (Datum × Datum)) : Prop :=
  ∀ member ∈ members, ∃ name, member.1 = .str name

theorem ofEntries_eq_map (entries : Object) :
    ofEntries entries = entries.map fun entry => (.str entry.1, ofJson entry.2) := by
  induction entries with
  | nil => rfl
  | cons entry rest ih =>
    obtain ⟨name, value⟩ := entry
    rw [ofEntries, ih, List.map_cons]

theorem named_ofEntries (entries : Object) : Named (ofEntries entries) := by
  induction entries with
  | nil => simp [Named, ofEntries]
  | cons entry rest ih =>
    obtain ⟨name, value⟩ := entry
    rintro member (_ | ⟨_, hmember⟩)
    · exact ⟨name, rfl⟩
    · exact ih member hmember

theorem isMember_eq_isName {members : List (Datum × Datum)} (h : Named members) (position : Nat)
    (name : String) :
    ∀ member ∈ members, isMember position name member.1 = isName name member.1 := by
  intro member hmember
  obtain ⟨text, htext⟩ := h member hmember
  rw [htext]
  rfl

theorem fields_ofEntries {members : List (Datum × Datum)} (h : Named members) :
    Fields.ofEntries members = .ok (.keyed members) := by
  have hall : (members.all fun entry => entry.1.isFieldKey) = true := by
    rw [List.all_eq_true]
    intro member hmember
    obtain ⟨text, htext⟩ := h member hmember
    rw [htext]
    rfl
  rw [Fields.ofEntries, if_pos hall]

theorem Named.filter {members : List (Datum × Datum)} (h : Named members)
    (keep : Datum × Datum → Bool) : Named (members.filter keep) := fun member hmember =>
  h member (List.mem_filter.mp hmember).1

theorem any_isName_ofEntries (entries : Object) (name : String) :
    (ofEntries entries).any (isName name ·.1) = decide (name ∈ entries.map (·.1)) := by
  induction entries with
  | nil => rfl
  | cons entry rest ih =>
    obtain ⟨key, value⟩ := entry
    have hfirst : isName name (.str key) = decide (name = key) := by
      rw [Bool.eq_iff_iff, isName, beq_iff_eq, decide_eq_true_eq]
      exact eq_comm
    rw [ofEntries, List.any_cons, ih, hfirst, List.map_cons, ← Bool.decide_or]
    simp only [List.mem_cons]

theorem findEntry_ofEntries {entries : Object} (h : Object.Distinct entries) (name : String) :
    findEntry (isName name) (ofEntries entries) = .ok ((Object.get? entries name).map ofJson) := by
  induction entries with
  | nil => rfl
  | cons entry rest ih =>
    obtain ⟨key, value⟩ := entry
    rw [Object.Distinct, List.map_cons, List.nodup_cons] at h
    rw [ofEntries, findEntry_cons, any_isName_ofEntries, Object.get?_cons, ih h.2]
    by_cases hkey : key = name
    · subst hkey
      have hfresh : decide (key ∈ rest.map (·.1)) = false := by simpa using h.1
      simp only [isName, beq_self_eq_true, if_true, hfresh, Bool.false_eq_true, if_false,
        Option.map_some]
    · simp [isName, hkey]

/-- The data of a value as it is, or in canonical form where entries of one name are merged. -/
def ofWritten (merged : Bool) (value : Json) : Datum :=
  ofJson (if merged then value.canonical else value)

/-- The members of an object in that data. -/
def membersOf (merged : Bool) (entries : Object) : List (Datum × Datum) :=
  ofEntries (if merged then Object.ofList (Json.canonicalEntries entries) else entries)

variable {merged : Bool}

theorem ofWritten_obj (entries : Object) :
    ofWritten merged (.obj entries) = .map (membersOf merged entries) := by
  cases merged <;> simp [ofWritten, membersOf, Json.canonical, ofJson]

theorem ofItems_eq_map (items : List Json) : ofItems items = items.map ofJson := by
  induction items with
  | nil => rfl
  | cons item rest ih => rw [ofItems, ih, List.map_cons]

theorem ofWritten_arr (items : List Json) :
    ofWritten merged (.arr items) = .list (items.map (ofWritten merged)) := by
  cases merged with
  | false => simp [ofWritten, ofJson, ofItems_eq_map]
  | true =>
    have hitems : Json.canonicalItems items = items.map Json.canonical := by
      induction items with
      | nil => simp [Json.canonicalItems]
      | cons item rest ih => rw [Json.canonicalItems, ih, List.map_cons]
    simp [ofWritten, Json.canonical, ofJson, ofItems_eq_map, hitems]

theorem ofWritten_of_valid {value : Json} (h : value.Valid) :
    ofWritten merged value = ofJson value := by
  rw [ofWritten, Json.canonical_of_valid value h, ite_self]

theorem ofWritten_str (text : String) : ofWritten merged (.str text) = .str text := by
  rw [ofWritten_of_valid (by trivial), ofJson]

theorem named_membersOf (entries : Object) : Named (membersOf merged entries) :=
  named_ofEntries _

/-- Under each name an object has what its last entry of that name holds, if its names are distinct
or its entries are merged. -/
theorem findEntry_membersOf {entries : Object} (h : Object.Distinct entries ∨ merged = true)
    (name : String) :
    findEntry (isName name) (membersOf merged entries) =
      .ok ((Object.last? entries name).map (ofWritten merged)) := by
  cases merged with
  | false =>
    have hdistinct : Object.Distinct entries := by simpa using h
    rw [Object.last?_eq_get? hdistinct]
    exact findEntry_ofEntries hdistinct name
  | true =>
    have hsorted := Object.sorted_ofList (Json.canonicalEntries entries)
    have hfind := findEntry_ofEntries hsorted.distinct name
    rw [Object.get?_ofList, Json.last?_canonicalEntries, Option.map_map] at hfind
    exact hfind

end Datum

end SearchQuery
