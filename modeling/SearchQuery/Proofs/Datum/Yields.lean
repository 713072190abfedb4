import SearchQuery.Proofs.Datum.Members
import SearchQuery.Proofs.Number.Finite
/-!
# What readers yield

A property that a reader gives to everything it makes of valid values. A valid value is made of
valid values, so the property passes to structures and lists of what the reader makes.
-/

namespace SearchQuery

variable {α : Type}

theorem findEntry_mem {wanted : Datum → Bool} {members : List (Datum × Datum)} {datum : Datum}
    (h : findEntry wanted members = .ok (some datum)) :
    ∃ member ∈ members, member.2 = datum := by
  unfold findEntry at h
  split at h
  · cases h
  · next member hfound =>
    have hmember : member ∈ members.filter (wanted ·.1) := by
      rw [hfound]
      exact List.mem_cons_self
    exact ⟨member, (List.mem_filter.mp hmember).1, Option.some.inj (Except.ok.inj h)⟩
  · cases h

/-- Whether the data are those of a valid value. -/
def Datum.OfValid (datum : Datum) : Prop := ∃ value : Json, value.Valid ∧ Datum.ofJson value = datum

/-- Whether the members of a structure are those of valid values. -/
def Fields.OfValid : Fields → Prop
  | .keyed members => ∀ member ∈ members, member.2.OfValid
  | .positional items => ∀ item ∈ items, item.OfValid

/-- Whether a reader makes only results with a property of valid values. -/
def Yields (read : Datum → Reading α) (holds : α → Prop) : Prop :=
  ∀ datum, datum.OfValid → ∀ result, read datum = .ok result → holds result

/-! ### Parts of valid values -/

namespace Datum

theorem ofValid_items {items : List Json} (h : Json.ItemsValid items) :
    ∀ item ∈ items.map ofJson, item.OfValid := by
  intro item hitem
  obtain ⟨value, hvalue, rfl⟩ := List.mem_map.mp hitem
  exact ⟨value, (Json.itemsValid_iff items).mp h value hvalue, rfl⟩

theorem ofValid_entries {entries : Object} (h : Json.EntriesValid entries) :
    ∀ member ∈ ofEntries entries, member.2.OfValid := by
  intro member hmember
  rw [ofEntries_eq_map] at hmember
  obtain ⟨entry, hentry, rfl⟩ := List.mem_map.mp hmember
  exact ⟨entry.2, (Json.entriesValid_iff entries).mp h entry hentry, rfl⟩

theorem OfValid.of_list {items : List Datum} (h : (Datum.list items).OfValid) :
    ∀ item ∈ items, item.OfValid := by
  obtain ⟨value, hvalid, hvalue⟩ := h
  cases value with
  | arr values =>
    rw [ofJson, ofItems_eq_map, list.injEq] at hvalue
    rw [Json.Valid] at hvalid
    rw [← hvalue]
    exact ofValid_items hvalid
  | int value =>
    rw [ofJson] at hvalue
    split at hvalue <;> cases hvalue
  | _ => cases hvalue

theorem OfValid.entries {members : List (Datum × Datum)} (h : (Datum.map members).OfValid) :
    ∃ entries, Json.EntriesValid entries ∧ ofEntries entries = members := by
  obtain ⟨value, hvalid, hvalue⟩ := h
  cases value with
  | obj entries =>
    rw [ofJson, map.injEq] at hvalue
    rw [Json.Valid] at hvalid
    exact ⟨entries, hvalid.2, hvalue⟩
  | int value =>
    rw [ofJson] at hvalue
    split at hvalue <;> cases hvalue
  | _ => cases hvalue

theorem OfValid.of_map {members : List (Datum × Datum)} (h : (Datum.map members).OfValid) :
    ∀ member ∈ members, member.2.OfValid := by
  obtain ⟨entries, hvalid, rfl⟩ := h.entries
  exact ofValid_entries hvalid

theorem OfValid.named {members : List (Datum × Datum)} (h : (Datum.map members).OfValid) :
    Named members := by
  obtain ⟨entries, -, rfl⟩ := h.entries
  exact named_ofEntries entries

end Datum

namespace Fields

theorem ofValid_ofEntries {members : List (Datum × Datum)} {fields : Fields}
    (hmembers : ∀ member ∈ members, member.2.OfValid) (h : ofEntries members = .ok fields) :
    fields.OfValid := by
  rw [ofEntries] at h
  split at h
  · cases h
    exact hmembers
  · cases h

theorem yields_ofDatum : Yields ofDatum OfValid := by
  intro datum hdatum fields h
  cases datum with
  | map members => exact ofValid_ofEntries hdatum.of_map h
  | list items =>
    cases h
    exact hdatum.of_list
  | _ => cases h

variable {fields : Fields} {position : Nat} {name : String}

theorem OfValid.get (hfields : fields.OfValid) {datum : Datum}
    (h : fields.get position name = .ok (some datum)) : datum.OfValid := by
  cases fields with
  | keyed members =>
    obtain ⟨member, hmember, rfl⟩ := findEntry_mem h
    exact hfields member hmember
  | positional items =>
    have hitem : items[position]? = some datum := Except.ok.inj h
    exact hfields datum (List.mem_of_getElem? hitem)

theorem OfValid.required (hfields : fields.OfValid) {read : Datum → Reading α} {holds : α → Prop}
    (hread : Yields read holds) {value : α} (h : fields.required position name read = .ok value) :
    holds value := by
  rw [Fields.required, bind_eq_ok] at h
  obtain ⟨found, hget, hfound⟩ := h
  cases found with
  | none => cases hfound
  | some datum => exact hread datum (hfields.get hget) value hfound

theorem OfValid.optional (hfields : fields.OfValid) {read : Datum → Reading α} {holds : α → Prop}
    (hread : Yields read holds) {default : α} (hdefault : holds default) {value : α}
    (h : fields.optional position name default read = .ok value) : holds value := by
  rw [Fields.optional, bind_eq_ok] at h
  obtain ⟨found, hget, hfound⟩ := h
  cases found with
  | none =>
    cases hfound
    exact hdefault
  | some datum => exact hread datum (hfields.get hget) value hfound

end Fields

/-! ### Readers -/

namespace Datum

theorem yields_readAny : Yields readAny Json.Valid := by
  rintro _ ⟨value, hvalid, rfl⟩ result h
  simp only [readAny, toJson?_ofJson, Json.canonical_of_valid value hvalid] at h
  cases h
  exact hvalid

theorem yields_readObject : Yields readObject fun entries => (Json.obj entries).Valid := by
  rintro _ ⟨value, hvalid, rfl⟩ result h
  cases value with
  | obj entries =>
    have hcanonical := Json.canonical_of_valid _ hvalid
    rw [Json.canonical, Json.obj.injEq] at hcanonical
    simp only [ofJson, readObject, entriesToJson?_ofEntries, hcanonical] at h
    cases h
    exact hvalid
  | int value =>
    rw [ofJson] at h
    split at h <;> cases h
  | _ => cases h

theorem yields_readNumber : Yields readNumber fun number => number.isFinite = true := by
  rintro _ ⟨value, hvalid, rfl⟩ result h
  cases value with
  | float number =>
    cases h
    exact hvalid
  | int value =>
    rw [Json.Valid] at hvalid
    have hfinite := Binary64.isFinite_ofInt hvalid.1 hvalid.2
    rw [ofJson] at h
    split at h
    · next hpositive =>
      cases h
      rw [Int.toNat_of_nonneg hpositive]
      exact hfinite
    · cases h
      exact hfinite
  | _ => cases h

theorem yields_readInt : Yields readInt fun value => -(2 ^ 63) ≤ value ∧ value < 2 ^ 63 := by
  intro datum _ result h
  rw [readInt, bind_eq_ok] at h
  obtain ⟨value, -, hvalue⟩ := h
  split at hvalue
  · next hrange =>
    cases hvalue
    exact hrange
  · cases hvalue

theorem yields_readCount : Yields readCount fun n => n < 2 ^ 64 := by
  intro datum _ result h
  rw [readCount, bind_eq_ok] at h
  obtain ⟨value, -, hvalue⟩ := h
  split at hvalue
  · next hrange =>
    cases hvalue
    omega
  · cases hvalue

theorem yields_readOption {read : Datum → Reading α} {holds : α → Prop}
    (hread : ∀ datum, datum.OfValid → datum.isNull = false → ∀ result, read datum = .ok result →
      holds result) :
    Yields (readOption read) fun value => ∀ part ∈ value, holds part := by
  intro datum hdatum result h part hpart
  by_cases hnull : datum = .null
  · subst hnull
    rw [readOption] at h
    cases h
    cases hpart
  · have hsome : datum.isNull = false := by
      cases datum with
      | null => exact absurd rfl hnull
      | _ => rfl
    rw [readOption.eq_2 _ _ hnull] at h
    obtain rfl : result = some part := hpart
    exact hread datum hdatum hsome part (map_some_eq_ok.mp h)

/-- An optional value is not null when it is there. -/
theorem yields_readOption_readAny :
    Yields (readOption readAny) fun value => ∀ part ∈ value, part.Valid ∧ part.isNull = false := by
  apply yields_readOption
  intro datum hdatum hnull result h
  refine ⟨yields_readAny datum hdatum result h, ?_⟩
  obtain ⟨value, hvalid, rfl⟩ := hdatum
  simp only [readAny, toJson?_ofJson, Json.canonical_of_valid value hvalid] at h
  cases h
  cases result with
  | null => cases hnull
  | _ => rfl

theorem yields_readList {read : Datum → Reading α} {holds : α → Prop} (hread : Yields read holds) :
    Yields (readList read) fun values => ∀ value ∈ values, holds value := by
  intro datum hdatum results h
  cases datum with
  | list items =>
    have hitems := hdatum.of_list
    rw [readList] at h
    clear hdatum
    induction items generalizing results with
    | nil =>
      cases h
      simp
    | cons item rest ih =>
      rw [List.mapM_cons, bind_eq_ok] at h
      obtain ⟨first, hfirst, h⟩ := h
      rw [bind_eq_ok] at h
      obtain ⟨others, hothers, h⟩ := h
      cases h
      rintro value (_ | ⟨_, hvalue⟩)
      · exact hread item (hitems item List.mem_cons_self) first hfirst
      · exact ih others hothers (fun other hother => hitems other (List.mem_cons_of_mem _ hother))
          value hvalue
  | _ => cases h

end Datum

end SearchQuery
