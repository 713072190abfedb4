import SearchQuery.Datum.Basic
/-!
# Comparing data

Whether two data are the same, in a form that can be computed.
-/

namespace SearchQuery

namespace Datum

mutual

/-- Whether two data are the same. -/
def same : Datum → Datum → Bool
  | .null, .null => true
  | .bool value, .bool other => value == other
  | .count value, .count other => value == other
  | .signed value, .signed other => value == other
  | .float value, .float other => decide (value = other)
  | .str value, .str other => value == other
  | .list items, .list others => sameItems items others
  | .map members, .map others => sameMembers members others
  | _, _ => false

/-- Whether two lists have the same items. -/
def sameItems : List Datum → List Datum → Bool
  | [], [] => true
  | item :: rest, other :: others => same item other && sameItems rest others
  | _, _ => false

/-- Whether two maps have the same members in the same order. -/
def sameMembers : List (Datum × Datum) → List (Datum × Datum) → Bool
  | [], [] => true
  | (key, value) :: rest, (otherKey, otherValue) :: others =>
    same key otherKey && same value otherValue && sameMembers rest others
  | _, _ => false

end

mutual

theorem eq_of_same : (datum other : Datum) → same datum other = true → datum = other
  | .null, other, h => by
    cases other <;> simp [same] at h ⊢
  | .bool _, other, h | .count _, other, h | .signed _, other, h | .float _, other, h
  | .str _, other, h => by
    cases other <;> simp [same] at h ⊢
    exact h
  | .list items, other, h => by
    cases other with
    | list others =>
      rw [same] at h
      rw [eq_of_sameItems items others h]
    | _ => simp [same] at h
  | .map members, other, h => by
    cases other with
    | map others =>
      rw [same] at h
      rw [eq_of_sameMembers members others h]
    | _ => simp [same] at h

theorem eq_of_sameItems : (items others : List Datum) → sameItems items others = true →
    items = others
  | [], others, h => by
    cases others with
    | nil => rfl
    | cons => simp [sameItems] at h
  | item :: rest, others, h => by
    cases others with
    | nil => simp [sameItems] at h
    | cons other others =>
      rw [sameItems, Bool.and_eq_true] at h
      rw [eq_of_same item other h.1, eq_of_sameItems rest others h.2]

theorem eq_of_sameMembers : (members others : List (Datum × Datum)) →
    sameMembers members others = true → members = others
  | [], others, h => by
    cases others with
    | nil => rfl
    | cons => simp [sameMembers] at h
  | (key, value) :: rest, others, h => by
    cases others with
    | nil => simp [sameMembers] at h
    | cons other others =>
      obtain ⟨otherKey, otherValue⟩ := other
      rw [sameMembers, Bool.and_eq_true, Bool.and_eq_true] at h
      rw [eq_of_same key otherKey h.1.1, eq_of_same value otherValue h.1.2,
        eq_of_sameMembers rest others h.2]

end

end Datum

end SearchQuery
