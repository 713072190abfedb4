import SearchQuery.Dsl.Target
/-!
# Column names

A column may be qualified: the collection and a dot stand in front of its name. A qualified name
stands for the column behind the dot, and every other name for itself.
-/

namespace SearchQuery

theorem afterFront?_eq_some {front text rest : List Char} :
    afterFront? front text = some rest ↔ text = front ++ rest := by
  induction front generalizing text with
  | nil => simp [afterFront?]
  | cons c front ih =>
    cases text with
    | nil => simp [afterFront?]
    | cons d text =>
      by_cases h : c = d
      · simp [afterFront?, h, ih]
      · simp [afterFront?, h, Ne.symm h]

/-- The column with the collection in front. -/
def qualified (collection column : String) : String := collection ++ "." ++ column

/-- Whether the collection and a dot stand in front of a column name. -/
def IsQualified (collection column : String) : Prop := ∃ rest, column = qualified collection rest

theorem toList_qualified (collection column : String) :
    (qualified collection column).toList = (collection.toList ++ ['.']) ++ column.toList := by
  rw [qualified, String.toList_append, String.toList_append]
  rfl

theorem isQualified_iff {collection column : String} :
    IsQualified collection column ↔
      (afterFront? (collection.toList ++ ['.']) column.toList).isSome = true := by
  simp only [Option.isSome_iff_exists, afterFront?_eq_some]
  constructor
  · rintro ⟨rest, rfl⟩
    exact ⟨rest.toList, toList_qualified collection rest⟩
  · rintro ⟨rest, h⟩
    refine ⟨String.ofList rest, ?_⟩
    rw [← String.toList_inj, toList_qualified, h, String.toList_ofList]

instance (collection column : String) : Decidable (IsQualified collection column) :=
  decidable_of_iff _ isQualified_iff.symm

theorem qualified_ne (collection column : String) : qualified collection column ≠ column := by
  intro h
  have hlength := congrArg (·.toList.length) h
  simp only [toList_qualified, List.length_append, List.length_singleton] at hlength
  omega

theorem bareColumn_qualified {collection : String} (h : collection ≠ "") (column : String) :
    bareColumn collection (qualified collection column) = column := by
  have hempty : ¬ collection.isEmpty = true := by simpa using h
  have hfront : afterFront? (collection.toList ++ ['.']) (qualified collection column).toList =
      some column.toList := afterFront?_eq_some.mpr (toList_qualified collection column)
  rw [bareColumn, if_neg hempty, hfront]
  exact String.ofList_toList

theorem bareColumn_of_not_isQualified {collection column : String}
    (h : ¬ IsQualified collection column) : bareColumn collection column = column := by
  rw [isQualified_iff, Bool.not_eq_true, Option.isSome_eq_false_iff, Option.isNone_iff_eq_none] at h
  rw [bareColumn, h]
  split <;> rfl

/-- A column without a dot is not taken for one of the collection. -/
theorem bareColumn_of_no_dot (collection : String) {column : String}
    (h : '.' ∉ column.toList) : bareColumn collection column = column := by
  apply bareColumn_of_not_isQualified
  rintro ⟨rest, rfl⟩
  exact h (by simp [toList_qualified])

/-- A character of the bare column is one of the column as it was given. -/
theorem mem_of_mem_bareColumn {collection column : String} {c : Char}
    (h : c ∈ (bareColumn collection column).toList) : c ∈ column.toList := by
  by_cases hqualified : IsQualified collection column
  · obtain ⟨rest, rfl⟩ := hqualified
    by_cases hcollection : collection = ""
    · rwa [bareColumn, if_pos (by simpa using hcollection)] at h
    · rw [bareColumn_qualified hcollection] at h
      rw [toList_qualified]
      exact List.mem_append_right _ h
  · rwa [bareColumn_of_not_isQualified hqualified] at h

/-- A name that goes on behind the letters of the collection without a dot is not qualified. -/
theorem not_isQualified_append {collection rest : String} (h : rest.toList.head? ≠ some '.') :
    ¬ IsQualified collection (collection ++ rest) := by
  rintro ⟨column, hcolumn⟩
  rw [← String.toList_inj, toList_qualified, String.toList_append, List.append_assoc,
    List.append_cancel_left_eq] at hcolumn
  exact h (by rw [hcolumn]; rfl)

end SearchQuery
