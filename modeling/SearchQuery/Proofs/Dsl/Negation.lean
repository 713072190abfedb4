import SearchQuery.Proofs.Dsl.Select
/-!
# Negated clauses

Comparisons and nested conditions have a flag that negates them. A negated condition compiles to a
tree that matches exactly the other documents, with one exception: a comparison whose operator and
value ask for the opposite of its shape already is compiled to the same tree either way.
-/

namespace SearchQuery

namespace Dsl

/-- Whether the operator and the value of a comparison ask for the opposite of its shape: another
value than the one given, a missing column, or a column that shall not exist. -/
def AsksOpposite (operator : Operator) (value : Json) : Prop :=
  (operator = .ne ∧ value ≠ .null) ∨ (operator = .eq ∧ value = .null) ∨
    (operator = .exists ∧ isTruthy value = false)

theorem isNull_iff (value : Json) : value.isNull = true ↔ value = .null := by
  cases value <;> simp [Json.isNull]

theorem compare_negated (column : String) (operator : Operator) (value : Json) (negate : Bool) :
    (compare column operator value negate).negated = true ↔
      negate = true ∨ AsksOpposite operator value := by
  simp [compare, AsksOpposite, isNull_iff, ← Bool.not_eq_true, or_assoc]

/-- The flag has no say in the shape itself. -/
theorem compare_query (column : String) (operator : Operator) (value : Json) (negate : Bool) :
    (compare column operator value negate).query = (compare column operator value false).query :=
  rfl

variable {Doc : Type} (judge : Judgement Doc) (document : Doc)

/-- Two shapes of one query match opposite documents exactly if one of them is negated and the other
is not. -/
theorem matches_finish_opposite {negated plain : Shape} (options : ClauseOptions)
    (hquery : negated.query = plain.query) :
    (Matches judge document (negated.finish options) ↔
        ¬ Matches judge document (plain.finish options)) ↔
      negated.negated ≠ plain.negated := by
  rw [matches_finish, matches_finish, hquery]
  by_cases hmatches : Matches judge document (applyOptions plain.query options) <;>
    cases negated.negated <;> cases plain.negated <;> simp [hmatches]

theorem clause_of_shapeOf {target : Target} {collection : String} {condition : Condition}
    {shape : Shape} (h : shapeOf target collection condition = .ok shape) (junction : Junction)
    (options : ClauseOptions) :
    clause target collection { condition, junction, options } = .ok (shape.finish options) := by
  rw [clause, h]
  rfl

/-- A nested condition and its negation compile to shapes of one query. -/
theorem shapeOf_nested_negate {target : Target} {collection column : String} {query : Query}
    {negate : Bool} {shape : Shape}
    (h : shapeOf target collection (.nested column query negate) = .ok shape) :
    shape.negated = negate ∧
      shapeOf target collection (.nested column query (!negate)) =
        .ok { shape with negated := !negate } := by
  simp only [shapeOf, bind_eq_ok, pure_eq_ok] at h
  obtain ⟨compiled, hcompiled, inner, hinner, rfl⟩ := h
  refine ⟨rfl, ?_⟩
  rw [shapeOf, hcompiled, ok_bind, hinner]
  rfl

/-- A nested condition that compiles and its negation match opposite documents. A comparison and its
negation, which always compile, match opposite documents exactly if operator and value do not ask
for the opposite already. -/
theorem negation_matches_opposite_iff (target : Target) (collection : String) (junction : Junction)
    (options : ClauseOptions) :
    (∀ column operator value, ∃ plain negated,
      clause target collection
          { condition := .compare column operator value false, junction, options } = .ok plain ∧
        clause target collection
          { condition := .compare column operator value true, junction, options } = .ok negated ∧
        ((Matches judge document negated ↔ ¬ Matches judge document plain) ↔
          ¬ AsksOpposite operator (target.render value))) ∧
    ∀ column query negate tree,
      clause target collection
          { condition := .nested column query negate, junction, options } = .ok tree →
        ∃ opposite, clause target collection
            { condition := .nested column query (!negate), junction, options } = .ok opposite ∧
          (Matches judge document opposite ↔ ¬ Matches judge document tree) := by
  constructor
  · intro column operator value
    let shape := compare (bareColumn collection column) operator (target.render value)
    refine ⟨(shape false).finish options, (shape true).finish options,
      clause_of_shapeOf rfl junction options, clause_of_shapeOf rfl junction options, ?_⟩
    have hquery : (shape true).query = (shape false).query := compare_query _ _ _ _
    have htrue : (shape true).negated = true := (compare_negated _ _ _ _).mpr (.inl rfl)
    have hfalse : (shape false).negated = true ↔ AsksOpposite operator (target.render value) :=
      (compare_negated _ _ _ _).trans (or_iff_right Bool.false_ne_true)
    rw [matches_finish_opposite judge document options hquery, htrue, ← hfalse]
    exact ne_comm
  · intro column query negate tree h
    simp only [clause, bind_eq_ok, pure_eq_ok] at h
    obtain ⟨shape, hshape, rfl⟩ := h
    obtain ⟨hnegated, hother⟩ := shapeOf_nested_negate hshape
    refine ⟨_, clause_of_shapeOf hother junction options, ?_⟩
    have hquery : ({ shape with negated := !negate } : Shape).query = shape.query := rfl
    rw [matches_finish_opposite judge document options hquery, hnegated]
    simp

/-- The negation of an inequality matches what the inequality matches. -/
theorem negated_inequality_matches_alike : ∃ tree,
    clause {} "posts" { condition := .compare "a" .ne (.plain (.int 1)) false } = .ok tree ∧
      clause {} "posts" { condition := .compare "a" .ne (.plain (.int 1)) true } = .ok tree ∧
      ∀ judge : Judgement Unit, ¬ (Matches judge () tree ↔ ¬ Matches judge () tree) :=
  ⟨_, rfl, rfl, fun _ => iff_not_self⟩

end Dsl

end SearchQuery
