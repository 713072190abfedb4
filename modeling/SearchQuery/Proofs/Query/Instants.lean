import SearchQuery.Dsl.Target
import SearchQuery.Proofs.Json.Valid
import SearchQuery.Query.Decode
/-!
# Values that mark an instant

A value of a clause marks an instant by an object with a tag alone, or it is plain. Since the marked
form is read like any structure, it may also be a list of its one member; there a plain value is
taken for an instant, and only there.
-/

namespace SearchQuery

/-- The marked form of an instant: an object with the tag alone, and with a timestamp behind it. -/
def IsMarked (value : Json) (time : Timestamp) : Prop :=
  ∃ text, value = .single instantTag (.str text) ∧ Timestamp.parse text = some time

/-- A list of one timestamp. -/
def IsListed (value : Json) (time : Timestamp) : Prop :=
  ∃ text, value = .arr [.str text] ∧ Timestamp.parse text = some time

namespace ClauseValue

theorem instant?_ofJson_iff {value : Json} {time : Timestamp} :
    instant? (.ofJson value) = some time ↔ IsMarked value time ∨ IsListed value time := by
  constructor
  · intro h
    -- What the reader finds in the data stands in the value that the data was made of.
    have hback := Datum.toJson?_ofJson value
    unfold instant? at h
    split at h
    · next key text hvalue =>
      rw [hvalue] at hback
      cases key with
      | str name =>
        split at h
        · next hname =>
          obtain rfl : name = instantTag := by simpa [Datum.isMember] using hname
          exact .inl ⟨text, (Option.some.inj hback).symm, h⟩
        · cases h
      | _ => cases hback
    · next text hvalue =>
      rw [hvalue] at hback
      exact .inr ⟨text, (Option.some.inj hback).symm, h⟩
    · cases h
  · rintro (⟨text, rfl, h⟩ | ⟨text, rfl, h⟩)
    · exact h
    · exact h

theorem read_ofJson (value : Json) : read (.ofJson value) = .ok (ofJson value) := by
  have hany : (Datum.ofJson value).readAny = .ok value.canonical := by
    rw [Datum.readAny, Datum.toJson?_ofJson]
  unfold read ofJson
  cases instant? (.ofJson value) with
  | some time => rfl
  | none =>
    dsimp only
    rw [hany]
    rfl

theorem ofJson_eq_instant_iff {value : Json} {time : Timestamp} :
    ofJson value = .instant time ↔ IsMarked value time ∨ IsListed value time := by
  rw [← instant?_ofJson_iff]
  unfold ofJson
  cases instant? (.ofJson value) with
  | some found => simp
  | none => simp

theorem ofJson_of_valid {value : Json} (h : value.Valid) (hmarked : ∀ time, ¬ IsMarked value time)
    (hlisted : ∀ time, ¬ IsListed value time) : ofJson value = .plain value := by
  have hnone : instant? (.ofJson value) = none := by
    rw [Option.eq_none_iff_forall_ne_some]
    intro time hinstant
    rcases instant?_ofJson_iff.mp hinstant with hvalue | hvalue
    · exact hmarked time hvalue
    · exact hlisted time hvalue
  rw [ofJson, hnone, Json.canonical_of_valid value h]

theorem not_isMarked_of_isListed {value : Json} {time other : Timestamp} (h : IsListed value time) :
    ¬ IsMarked value other := by
  rintro ⟨_, rfl, _⟩
  obtain ⟨_, hvalue, _⟩ := h
  cases hvalue

/-- What is to be read from a value: an instant exactly if the value is marked as one, and otherwise
the value itself, which is then written as it is in every date pattern. -/
structure ReadsByMark (value : Json) : Prop where
  instant : ∀ time, read (.ofJson value) = .ok (.instant time) ↔ IsMarked value time
  plain : (∀ time, ¬ IsMarked value time) → read (.ofJson value) = .ok (.plain value)
  verbatim : (∀ time, ¬ IsMarked value time) → ∀ target : Target,
    (read (.ofJson value)).map target.render = .ok value

/-- Every value is read by its mark, save for the lists of one timestamp. -/
theorem readsByMark_iff {value : Json} (h : value.Valid) :
    ReadsByMark value ↔ ∀ time, ¬ IsListed value time := by
  constructor
  · intro hreads time hlisted
    have hinstant : ofJson value = .instant time := ofJson_eq_instant_iff.mpr (.inr hlisted)
    have hmarked := (hreads.instant time).mp (by rw [read_ofJson, hinstant])
    exact not_isMarked_of_isListed hlisted hmarked
  · intro hlisted
    refine ⟨?_, ?_, ?_⟩
    · intro time
      rw [read_ofJson, Except.ok.injEq, ofJson_eq_instant_iff]
      exact or_iff_left (hlisted time)
    · intro hmarked
      rw [read_ofJson, ofJson_of_valid h hmarked hlisted]
    · intro hmarked target
      rw [read_ofJson, ofJson_of_valid h hmarked hlisted]
      rfl

/-- A list of a marked instant and an object with more than the tag. -/
def nestedInstants : Json :=
  .arr [.single instantTag (.str "2024-01-01T10:00:00Z"),
    .obj [(instantTag, .str "2024-01-01T10:00:00Z"), ("note", .str "x")]]

theorem readsByMark_nestedInstants :
    nestedInstants.Valid ∧ (∀ time, ¬ IsListed nestedInstants time) ∧
      read (.ofJson nestedInstants) = .ok (.plain nestedInstants) := by
  have hvalid : nestedInstants.Valid := by
    simp only [nestedInstants, Json.single, Object.single, instantTag, Json.Valid, Json.ItemsValid,
      Json.EntriesValid, Object.Sorted]
    decide
  have hlisted : ∀ time, ¬ IsListed nestedInstants time := by
    rintro time ⟨_, hvalue, _⟩
    cases hvalue
  have hmarked : ∀ time, ¬ IsMarked nestedInstants time := by
    rintro time ⟨_, hvalue, _⟩
    cases hvalue
  exact ⟨hvalid, hlisted, ((readsByMark_iff hvalid).mpr hlisted).plain hmarked⟩

/-- A list of one timestamp. -/
def listedTimestamp : Json := .arr [.str "2024-01-01T10:00:00Z"]

/-- It is not marked as an instant, but read as one, and so never written as it is. -/
theorem listedTimestamp_is_taken_for_instant :
    (∀ time, ¬ IsMarked listedTimestamp time) ∧
      ∃ time, read (.ofJson listedTimestamp) = .ok (.instant time) ∧
        ∀ target : Target, target.render (.instant time) ≠ listedTimestamp := by
  constructor
  · rintro time ⟨_, hvalue, _⟩
    cases hvalue
  · exact ⟨_, rfl, fun target hwritten => by cases hwritten⟩

end ClauseValue

end SearchQuery
