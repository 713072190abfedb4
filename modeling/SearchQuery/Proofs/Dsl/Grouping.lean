import Mathlib.Data.List.TakeWhile
import Mathlib.Tactic.Tauto
import SearchQuery.Proofs.Dsl.Meaning
/-!
# Meaning of grouped clauses

A list of clauses splits at its first OR. The clauses in front of it are one alternative, all of
them together, and every clause from there on is one more; a list without OR demands all of its
clauses. A filter that joins a query restricts it and changes nothing else.
-/

namespace SearchQuery

namespace Dsl

/-- Whether a list of clauses holds, each given by what it demands. -/
def Joined (clauses : List (Junction × Prop)) : Prop :=
  let front := clauses.takeWhile (·.1 = .and)
  match clauses.dropWhile (·.1 = .and) with
  | [] => ∀ clause ∈ front, clause.2
  | alternatives => (front ≠ [] ∧ ∀ clause ∈ front, clause.2) ∨ ∃ clause ∈ alternatives, clause.2

theorem joined_front {front : List (Junction × Prop)} (hfront : ∀ clause ∈ front, clause.1 = .and) :
    Joined front ↔ ∀ clause ∈ front, clause.2 := by
  have htake : front.takeWhile (·.1 = .and) = front := by
    rw [List.takeWhile_eq_self_iff]
    simpa using hfront
  have hdrop : front.dropWhile (·.1 = .and) = [] := by
    rw [List.dropWhile_eq_nil_iff]
    simpa using hfront
  simp only [Joined, htake, hdrop]

theorem joined_alternatives {front rest : List (Junction × Prop)} {first : Prop}
    (hfront : ∀ clause ∈ front, clause.1 = .and) :
    Joined (front ++ (.or, first) :: rest) ↔
      (front ≠ [] ∧ ∀ clause ∈ front, clause.2) ∨ first ∨ ∃ clause ∈ rest, clause.2 := by
  have hand : ∀ clause ∈ front, decide (clause.1 = .and) = true := by simpa using hfront
  have htake : (front ++ (.or, first) :: rest).takeWhile (·.1 = .and) = front := by
    rw [List.takeWhile_append_of_pos hand]
    simp
  have hdrop : (front ++ (.or, first) :: rest).dropWhile (·.1 = .and) = (.or, first) :: rest := by
    rw [List.dropWhile_append_of_pos hand]
    simp
  simp only [Joined, htake, hdrop, List.mem_cons, exists_eq_or_imp]

/-- A list of clauses has no OR, or splits at the first one. -/
theorem split_or {α : Type} (clauses : List (Junction × α)) :
    (∀ clause ∈ clauses, clause.1 = .and) ∨
      ∃ front first rest, clauses = front ++ (.or, first) :: rest ∧
        ∀ clause ∈ front, clause.1 = .and := by
  induction clauses with
  | nil => simp
  | cons clause others ih =>
    obtain ⟨junction, value⟩ := clause
    cases junction with
    | or => exact .inr ⟨[], value, others, rfl, by simp⟩
    | and =>
      rcases ih with hall | ⟨front, first, rest, rfl, hfront⟩
      · exact .inl (by simpa using hall)
      · exact .inr ⟨(.and, value) :: front, first, rest, rfl, by simpa using hfront⟩

/-! ### The tree of a list -/

@[simp] theorem must_union (front back : List Json) :
    (must front).union (must back) = must (front ++ back) := by
  simp [must, Json.single, Object.single, Json.union, Json.unionEntries, Object.get?,
    Object.insert]

theorem Grouping.add_any (alternatives : List Json) (junction : Junction) (query : Json) :
    (Grouping.any alternatives).add junction query = .any (alternatives ++ [query]) := by
  cases junction <;> rfl

theorem Grouping.add_must (queries : List Json) (query : Json) :
    (Grouping.all (some (must queries))).add .and (wrapped .and query) =
      .all (some (must (queries ++ [query]))) := by
  rw [wrapped, Grouping.add, must_union]

private theorem foldl_add_any (alternatives : List Json) (clauses : List (Junction × Json)) :
    clauses.foldl (fun grouping clause => grouping.add clause.1 clause.2)
      (.any alternatives) = Grouping.any (alternatives ++ clauses.map (·.2)) := by
  induction clauses generalizing alternatives with
  | nil => simp
  | cons clause rest ih => rw [List.foldl_cons, Grouping.add_any, ih, List.map_cons,
      List.append_assoc, List.singleton_append]

private theorem foldl_add_must (queries : List Json) (clauses : List (Junction × Json))
    (hclauses : ∀ clause ∈ clauses, clause.1 = .and) :
    (clauses.map fun clause => (clause.1, wrapped clause.1 clause.2)).foldl
      (fun grouping clause => grouping.add clause.1 clause.2) (.all (some (must queries))) =
      Grouping.all (some (must (queries ++ clauses.map (·.2)))) := by
  induction clauses generalizing queries with
  | nil => simp
  | cons clause rest ih =>
    obtain ⟨junction, query⟩ := clause
    obtain ⟨rfl, hrest⟩ : junction = .and ∧ ∀ clause ∈ rest, clause.1 = .and := by
      simpa using hclauses
    rw [List.map_cons, List.foldl_cons, Grouping.add_must, ih _ hrest, List.map_cons,
      List.append_assoc, List.singleton_append]

/-- The first alternative, which the clauses in front of the first OR make together. -/
def frontAlternative (front : List (Junction × Json)) : List Json :=
  if front = [] then [] else [must (front.map (·.2))]

@[simp] theorem group_nil : group [] = none := rfl

@[simp] theorem group_single (query : Json) : group [(.and, query)] = some query := rfl

/-- Several clauses without OR are one `must` list. -/
theorem group_front {clauses : List (Junction × Json)} (hlength : 2 ≤ clauses.length)
    (hclauses : ∀ clause ∈ clauses, clause.1 = .and) :
    group clauses = some (must (clauses.map (·.2))) := by
  match clauses, hlength with
  | (junction, query) :: second :: rest, _ =>
    obtain ⟨rfl, hrest⟩ : junction = .and ∧ ∀ clause ∈ second :: rest, clause.1 = .and := by
      simpa using hclauses
    have hlong : ¬ ((.and, query) :: second :: rest : List (Junction × Json)).length ≤ 1 := by
      simp
    simp only [group, if_neg hlong, List.map_cons (l := second :: rest), List.foldl_cons]
    change Grouping.tree (List.foldl _ (Grouping.all (some (must [query]))) _) = _
    rw [foldl_add_must _ _ hrest]
    rfl

/-- From the first OR on every clause is an alternative of its own. -/
theorem group_alternatives {front rest : List (Junction × Json)} {first : Json}
    (hfront : ∀ clause ∈ front, clause.1 = .and) :
    group (front ++ (.or, first) :: rest) = some (should
      (frontAlternative front ++ first :: rest.map fun clause => wrapped clause.1 clause.2)) := by
  match front with
  | [] =>
    cases rest with
    | nil => rfl
    | cons second rest =>
      have hlong : ¬ ((.or, first) :: second :: rest : List (Junction × Json)).length ≤ 1 := by
        simp
      simp only [group, List.nil_append, if_neg hlong, List.map_cons (l := second :: rest),
        List.foldl_cons]
      change Grouping.tree (List.foldl _ (Grouping.any [first]) _) = _
      rw [foldl_add_any]
      simp [Grouping.tree, frontAlternative, Function.comp_def]
  | (junction, query) :: others =>
    obtain ⟨rfl, hothers⟩ : junction = .and ∧ ∀ clause ∈ others, clause.1 = .and := by
      simpa using hfront
    have hlong : ¬ ((.and, query) :: others ++ (.or, first) :: rest :
        List (Junction × Json)).length ≤ 1 := by
      simp
    simp only [group, if_neg hlong, List.map_append, List.foldl_append]
    rw [List.map_cons, List.foldl_cons]
    change Grouping.tree (List.foldl _ (List.foldl _ (Grouping.all (some (must [query]))) _) _) = _
    rw [foldl_add_must _ _ hothers, List.map_cons, List.foldl_cons]
    change Grouping.tree (List.foldl _
      (Grouping.any [must ([query] ++ others.map (·.2)), first]) _) = _
    rw [foldl_add_any]
    simp [Grouping.tree, frontAlternative, Function.comp_def]

variable {Doc : Type} (judge : Judgement Doc) (document : Doc)

@[simp] theorem matches_wrapped (junction : Junction) (query : Json) :
    Matches judge document (wrapped junction query) ↔ Matches judge document query := by
  cases junction <;> simp [wrapped]

/-- The tree of a list of clauses matches where the list holds. -/
theorem accepts_group (clauses : List (Junction × Json)) :
    Accepts judge document (group clauses) ↔
      Joined (clauses.map fun clause => (clause.1, Matches judge document clause.2)) := by
  rcases split_or clauses with hall | ⟨front, first, rest, rfl, hfront⟩
  · rw [joined_front (List.forall_mem_map.mpr hall), List.forall_mem_map]
    match clauses, hall with
    | [], _ => simp
    | [(junction, query)], hall =>
      obtain rfl : junction = .and := by simpa using hall
      simp
    | first :: second :: rest, hall =>
      rw [group_front (by simp) hall, accepts_some, matches_must, List.forall_mem_map]
  · rw [group_alternatives hfront, List.map_append, List.map_cons,
      joined_alternatives (List.forall_mem_map.mpr hfront), List.forall_mem_map]
    simp only [accepts_some, matches_should, List.mem_append, List.mem_cons, or_and_right,
      exists_or, exists_eq_left, List.mem_map, exists_exists_and_eq_and, matches_wrapped]
    refine or_congr ?_ Iff.rfl
    by_cases hempty : front = []
    · simp [frontAlternative, hempty]
    · rw [frontAlternative, if_neg hempty]
      simp only [List.mem_singleton, exists_eq_left, matches_must, List.forall_mem_map, ne_eq,
        List.map_eq_nil_iff, hempty, not_false_eq_true, true_and]

/-- A query with a filter matches where both match. -/
theorem matches_attachFilter (query : Option Json) {filter : Json}
    (hfilter : filter.isObject = true) :
    Matches judge document (attachFilter query filter) ↔
      Accepts judge document query ∧ Matches judge document filter := by
  obtain ⟨entries, rfl⟩ : ∃ entries, filter = .obj entries := by
    cases filter <;> simp_all [Json.isObject]
  unfold attachFilter
  split
  · simp [Json.single, Object.single, matches_bool, sectionQueries, wantsAlternative, Object.has]
  · next inner =>
    split
    · simp [Json.single, Object.single, matches_bool, sectionQueries, wantsAlternative,
        Object.has, and_comm]
    · next hinner =>
      have hshould : Object.get? inner "should" = none :=
        Object.get?_eq_none_of_has fun h => hinner (.inl h)
      have hnone : Object.get? inner "filter" = none :=
        Object.get?_eq_none_of_has fun h => hinner (.inr h)
      simp [Json.single, Object.single, matches_bool, sectionQueries, wantsAlternative,
        Object.has, hshould, hnone]
      tauto
  · simp [Json.single, Object.single, matches_bool, sectionQueries, wantsAlternative, Object.has,
      and_comm]

end Dsl

end SearchQuery
