import SearchQuery.Proofs.Json.Object
/-!
# Valid values

The values that JSON text can have: whole numbers fit sixty-four bits, floating-point numbers are
finite, and the names of an object increase. Such a value is in canonical form.
-/

namespace SearchQuery

namespace Json

mutual

/-- Whether a value is one that JSON text can have. -/
def Valid : Json → Prop
  | .null | .bool _ | .str _ => True
  | .int value => -(2 ^ 63) ≤ value ∧ value < 2 ^ 64
  | .float value => value.isFinite = true
  | .arr items => ItemsValid items
  | .obj entries => Object.Sorted entries ∧ EntriesValid entries

/-- Whether every item is valid. -/
def ItemsValid : List Json → Prop
  | [] => True
  | item :: rest => item.Valid ∧ ItemsValid rest

/-- Whether the value of every entry is valid. -/
def EntriesValid : List (String × Json) → Prop
  | [] => True
  | (_, value) :: rest => value.Valid ∧ EntriesValid rest

end

theorem itemsValid_iff (items : List Json) : ItemsValid items ↔ ∀ item ∈ items, item.Valid := by
  induction items with
  | nil => simp [ItemsValid]
  | cons item rest ih => simp [ItemsValid, ih]

theorem entriesValid_iff (entries : List (String × Json)) :
    EntriesValid entries ↔ ∀ entry ∈ entries, entry.2.Valid := by
  induction entries with
  | nil => simp [EntriesValid]
  | cons entry rest ih =>
    obtain ⟨name, value⟩ := entry
    simp [EntriesValid, ih]

theorem Valid.field? {value found : Json} {name : String} (h : value.Valid)
    (hfound : value.field? name = some found) : found.Valid := by
  cases value with
  | obj entries =>
    rw [Valid, entriesValid_iff] at h
    exact h.2 _ (Object.mem_of_get? hfound)
  | _ => cases hfound

theorem Valid.insert {entries : Object} (h : (obj entries).Valid) (name : String) {value : Json}
    (hvalue : value.Valid) : (obj (Object.insert entries name value)).Valid := by
  rw [Valid, entriesValid_iff] at h ⊢
  refine ⟨h.1.insert name value, ?_⟩
  intro entry hentry
  rcases Object.mem_insert hentry with rfl | hentry
  · exact hvalue
  · exact h.2 entry hentry

mutual

theorem canonical_of_valid : (value : Json) → value.Valid → value.canonical = value
  | .null, _ | .bool _, _ | .int _, _ | .str _, _ => by simp [canonical]
  | .float value, h => by
    rw [Valid] at h
    rw [canonical, ofBinary64, if_pos h]
  | .arr items, h => by
    rw [Valid] at h
    rw [canonical, canonicalItems_of_valid items h]
  | .obj entries, h => by
    rw [Valid] at h
    rw [canonical, canonicalEntries_of_valid entries h.2, Object.ofList_of_sorted h.1]

theorem canonicalItems_of_valid : (items : List Json) → ItemsValid items →
    canonicalItems items = items
  | [], _ => by simp [canonicalItems]
  | item :: rest, h => by
    rw [ItemsValid] at h
    rw [canonicalItems, canonical_of_valid item h.1, canonicalItems_of_valid rest h.2]

theorem canonicalEntries_of_valid : (entries : List (String × Json)) → EntriesValid entries →
    canonicalEntries entries = entries
  | [], _ => by simp [canonicalEntries]
  | (name, value) :: rest, h => by
    rw [EntriesValid] at h
    rw [canonicalEntries, canonical_of_valid value h.1, canonicalEntries_of_valid rest h.2]

end

theorem last?_canonicalEntries (entries : List (String × Json)) (name : String) :
    Object.last? (canonicalEntries entries) name = (Object.last? entries name).map canonical := by
  induction entries with
  | nil => simp [canonicalEntries]
  | cons entry rest ih =>
    obtain ⟨key, value⟩ := entry
    rw [canonicalEntries, Object.last?_cons, Object.last?_cons, ih]
    cases Object.last? rest name with
    | none => split <;> rfl
    | some _ => rfl

end Json

end SearchQuery
