import SearchQuery.Dsl.Clause
import SearchQuery.Proofs.Dsl.Grouping
import SearchQuery.Proofs.Except
/-!
# Closed form of grouped clauses

The tree of a list of clauses, written down from the trees of the clauses: where they stand in it
depends on nothing but the junctions, and each is in it as it is, whatever it looks like.
-/

namespace SearchQuery

namespace Dsl

variable {target : Target} {collection : String}

/-- Clauses are compiled each on its own. -/
theorem clauses_eq_mapM (list : List Clause) :
    clauses target collection list =
      (list.mapM (clause target collection)).map ((list.map (·.junction)).zip ·) := by
  induction list with
  | nil => rfl
  | cons first rest ih =>
    obtain ⟨condition, junction, options⟩ := first
    rw [clauses, ih, List.mapM_cons, clause]
    cases shapeOf target collection condition with
    | error failure => rfl
    | ok shape =>
      cases rest.mapM (clause target collection) with
      | error failure => rfl
      | ok trees => rfl

/-- The tree of clauses that split at the first OR, by its position. -/
theorem group_zip {junctions : List Junction} {trees : List Json}
    (hlength : trees.length = junctions.length) {k : Nat} (hk : k < junctions.length)
    (hfront : ∀ junction ∈ junctions.take k, junction = .and) (hor : junctions[k] = .or) :
    group (junctions.zip trees) = some (should ((if k = 0 then [] else [must (trees.take k)]) ++
      List.zipWith wrapped (junctions.drop k) (trees.drop k))) := by
  have hk' : k < trees.length := hlength ▸ hk
  -- Both lists are cut in front of the first OR, so that the zipped list splits there.
  have hsplit : junctions.zip trees =
      (junctions.take k).zip (trees.take k) ++
        (.or, trees[k]) :: (junctions.drop (k + 1)).zip (trees.drop (k + 1)) := by
    rw [← List.zip_cons_cons, ← hor, List.getElem_cons_drop, List.getElem_cons_drop,
      ← List.zip_append (by simp [hlength]), List.take_append_drop, List.take_append_drop]
  have hand : ∀ clause ∈ (junctions.take k).zip (trees.take k), clause.1 = .and := by
    rintro ⟨junction, tree⟩ hmem
    exact hfront junction (List.of_mem_zip hmem).1
  have hrest : List.zipWith wrapped (junctions.drop k) (trees.drop k) =
      trees[k] :: ((junctions.drop (k + 1)).zip (trees.drop (k + 1))).map
        fun clause => wrapped clause.1 clause.2 := by
    rw [List.drop_eq_getElem_cons hk, List.drop_eq_getElem_cons hk', hor, List.zip,
      List.map_zipWith]
    rfl
  have htrees : ((junctions.take k).zip (trees.take k)).map (·.2) = trees.take k :=
    List.map_snd_zip (by simp [hlength])
  have hempty : (junctions.take k).zip (trees.take k) = [] ↔ k = 0 := by
    rw [← List.length_eq_zero_iff, List.length_zip, List.length_take, List.length_take]
    omega
  rw [hsplit, group_alternatives hand, hrest, frontAlternative, htrees]
  simp only [hempty]

/-- The tree of a list of clauses in terms of the trees of the clauses. The clauses in front of the
first OR, if any, are one alternative; from there on each is one of its own, wrapped under AND. -/
theorem clauseTree_closedForm {list : List Clause} {trees : List Json}
    (h : list.mapM (clause target collection) = .ok trees) :
    (list = [] → clauseTree target collection list = .ok none) ∧
    (∀ lone, list = [lone] → lone.junction = .and →
      ∃ tree, trees = [tree] ∧ clauseTree target collection list = .ok (some tree)) ∧
    (2 ≤ list.length → (∀ clause ∈ list, clause.junction = .and) →
      clauseTree target collection list = .ok (some (must trees))) ∧
    ∀ k (hk : k < list.length), (∀ clause ∈ list.take k, clause.junction = .and) →
      list[k].junction = .or →
      clauseTree target collection list =
        .ok (some (should ((if k = 0 then [] else [must (trees.take k)]) ++
          List.zipWith (fun clause tree => wrapped clause.junction tree)
            (list.drop k) (trees.drop k)))) := by
  have hlength := length_mapM h
  have htree : clauseTree target collection list =
      .ok (group ((list.map (·.junction)).zip trees)) := by
    rw [clauseTree, clauses_eq_mapM, h]
    rfl
  rw [htree]
  refine ⟨?_, ?_, ?_, ?_⟩
  · rintro rfl
    rfl
  · rintro lone rfl hand
    obtain ⟨tree, rfl⟩ := List.length_eq_one_iff.mp hlength
    refine ⟨tree, rfl, ?_⟩
    rw [List.map_singleton, hand]
    rfl
  · intro hlong hand
    have hfront : ∀ clause ∈ (list.map (·.junction)).zip trees, clause.1 = .and := by
      rintro ⟨junction, tree⟩ hmem
      obtain ⟨clause, hclause, rfl⟩ := List.mem_map.mp (List.of_mem_zip hmem).1
      exact hand clause hclause
    rw [group_front (by simpa [hlength] using hlong) hfront,
      List.map_snd_zip (by simp [hlength])]
  · intro k hk hand hor
    rw [group_zip (by simpa using hlength) (by simpa using hk) (by simpa [← List.map_take] using hand)
      (by simpa using hor), ← List.map_drop, List.zipWith_map_left]

/-- Clauses whose trees are equal to each other, on one column, or `bool` trees themselves; the
third is the first one under OR. -/
def alikeClauses : List Clause := [
  { condition := .compare "n" .eq (.plain (.int 1)) false },
  { condition := .compare "n" .ne (.plain (.int 1)) false },
  { condition := .compare "n" .eq (.plain (.int 1)) false, junction := .or },
  { condition := .group { wheres := [{ condition := .isNull "n" }, { condition := .isNull "n" }] } },
  { condition := .not {}, junction := .or }]

theorem clauseTree_closedForm_alikeClauses :
    let one : Json := .single "term" (.single "n" (.int 1))
    let missing : Json := mustNot [.single "exists" (.single "field" (.str "n"))]
    clauseTree {} "posts" alikeClauses = .ok (some (should
      [must [one, mustNot [one]], one, must [must [missing, missing]], mustNot [matchAll]])) := by
  obtain ⟨-, -, -, hsplit⟩ := @clauseTree_closedForm {} "posts" alikeClauses _ rfl
  exact hsplit 2 (by decide) (by decide) (by decide)

end Dsl

end SearchQuery
