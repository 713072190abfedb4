import Mathlib.Data.List.Perm.Basic
import SearchQuery.Query.Build
/-!
# Clauses of blocks

A block of steps moves the clauses that it adds itself into its context when it ends, which is after
the blocks inside of it have ended. In every context the clauses from before stay in front. The
scoring context gains what is added outside of all blocks, in the order of the calls. The other
contexts gain, block by block in the order in which the blocks end, what each block adds itself.
-/

namespace SearchQuery

/-- The contexts that the clauses of a query stand in. -/
inductive Context where
  | scoring
  | filter
  | postFilter
deriving DecidableEq

def Query.clausesIn (query : Query) : Context → List Clause
  | .scoring => query.wheres
  | .filter => query.filters
  | .postFilter => query.postFilters

/-- Steps together with the context that the clauses they add go into. -/
structure Block where
  context : Context
  steps : List BuildStep

mutual

/-- The blocks that a step is or holds, in the order in which they end. -/
def BuildStep.blocks : BuildStep → List Block
  | .filter steps => blocksOf steps ++ [⟨.filter, steps⟩]
  | .postFilter steps => blocksOf steps ++ [⟨.postFilter, steps⟩]
  | .push _ | .nest .. | .aggregate _ => []

/-- The blocks of steps at any depth, in the order in which they end. -/
def blocksOf : List BuildStep → List Block
  | [] => []
  | step :: rest => step.blocks ++ blocksOf rest

end

section Clauses

variable (collection : String)

/-- The clause that a step adds itself, to a query over a collection. -/
def BuildStep.ownClause? : BuildStep → Option Clause
  | .push clause => some clause
  | .nest nesting junction steps =>
    some { condition := nesting.condition (Query.buildAll { collection } steps), junction }
  | .filter _ | .postFilter _ | .aggregate _ => none

/-- The clauses that steps add outside of all blocks in them, in the order of the calls. -/
def ownClauses (steps : List BuildStep) : List Clause :=
  steps.filterMap (BuildStep.ownClause? collection)

/-- The clauses that blocks move into a context, one block after the other. -/
def movedTo (context : Context) (blocks : List Block) : List Clause :=
  (blocks.filter (·.context = context)).flatMap fun block => ownClauses collection block.steps

mutual

/-- The clauses that a step adds, in the order of the calls, each with the context of the innermost
block around it; `around` is the context of the block that the step is in. -/
def BuildStep.calls (around : Context) : BuildStep → List (Context × Clause)
  | .filter steps => callsOf .filter steps
  | .postFilter steps => callsOf .postFilter steps
  | step => (step.ownClause? collection).toList.map (around, ·)

/-- The clauses that steps add, in the order of the calls, each with the context of the innermost
block around it. -/
def callsOf (around : Context) : List BuildStep → List (Context × Clause)
  | [] => []
  | step :: rest => step.calls around ++ callsOf around rest

end

/-- The clauses of calls whose innermost block has the given context. -/
def calledIn (context : Context) (calls : List (Context × Clause)) : List Clause :=
  (calls.filter (·.1 = context)).map (·.2)

end Clauses

variable {collection : String}

@[simp] theorem movedTo_nil (context : Context) : movedTo collection context [] = [] := rfl

@[simp] theorem movedTo_append (context : Context) (front back : List Block) :
    movedTo collection context (front ++ back) =
      movedTo collection context front ++ movedTo collection context back := by
  simp [movedTo]

theorem movedTo_singleton (context : Context) (block : Block) :
    movedTo collection context [block] =
      if block.context = context then ownClauses collection block.steps else [] := by
  by_cases h : block.context = context <;> simp [movedTo, h]

@[simp] theorem calledIn_append (context : Context) (front back : List (Context × Clause)) :
    calledIn context (front ++ back) = calledIn context front ++ calledIn context back := by
  simp [calledIn]

theorem calledIn_map (context around : Context) (clauses : List Clause) :
    calledIn context (clauses.map (around, ·)) = if around = context then clauses else [] := by
  by_cases h : around = context <;> simp [calledIn, List.filter_map, Function.comp_def, h]

theorem ownClauses_cons (step : BuildStep) (rest : List BuildStep) :
    ownClauses collection (step :: rest) =
      (step.ownClause? collection).toList ++ ownClauses collection rest := by
  rw [ownClauses, List.filterMap_cons]
  cases step.ownClause? collection <;> rfl

/-! ### What a query gains -/

mutual

theorem collection_build (query : Query) :
    (step : BuildStep) → (query.build step).collection = query.collection
  | .filter steps | .postFilter steps => by
    rw [Query.build]
    exact collection_buildAll query steps
  | .push _ | .nest .. => by rw [Query.build, Query.push]
  | .aggregate _ => by rw [Query.build]

theorem collection_buildAll (query : Query) :
    (steps : List BuildStep) → (query.buildAll steps).collection = query.collection
  | [] => by rw [Query.buildAll]
  | step :: rest => by
    rw [Query.buildAll, collection_buildAll (query.build step) rest, collection_build query step]

end

mutual

/-- A step adds its own clause to the scoring context, and nothing else. -/
theorem wheres_build (query : Query) : (step : BuildStep) →
    (query.build step).wheres = query.wheres ++ (step.ownClause? query.collection).toList
  | .filter steps | .postFilter steps => by
    -- Whatever the block has added is cut off at the length from before it.
    have hbuilt := wheres_buildAll query steps
    simp [Query.build, Query.moveToFilters, Query.moveToPostFilters, hbuilt, BuildStep.ownClause?]
  | .push _ | .nest .. => by simp [Query.build, Query.push, BuildStep.ownClause?]
  | .aggregate _ => by simp [Query.build, BuildStep.ownClause?]

theorem wheres_buildAll (query : Query) : (steps : List BuildStep) →
    (query.buildAll steps).wheres = query.wheres ++ ownClauses query.collection steps
  | [] => by
    rw [Query.buildAll]
    exact (List.append_nil _).symm
  | step :: rest => by
    rw [Query.buildAll, wheres_buildAll (query.build step) rest, wheres_build query step,
      collection_build, ownClauses_cons, List.append_assoc]

end

mutual

/-- Into a context of blocks a step moves what its blocks of that context move. -/
theorem clausesIn_build (query : Query) {context : Context} (hcontext : context ≠ .scoring) :
    (step : BuildStep) → (query.build step).clausesIn context =
      query.clausesIn context ++ movedTo query.collection context step.blocks
  | .filter steps | .postFilter steps => by
    have hinner := clausesIn_buildAll query hcontext steps
    -- The block moves what stands behind the scoring clauses from before it.
    have hown := wheres_buildAll query steps
    rw [BuildStep.blocks, movedTo_append, movedTo_singleton, ← List.append_assoc, ← hinner,
      Query.build]
    cases context with
    | scoring => exact absurd rfl hcontext
    | _ => simp [Query.clausesIn, Query.moveToFilters, Query.moveToPostFilters, hown]
  | .push _ | .nest .. | .aggregate _ => by
    rw [BuildStep.blocks, movedTo_nil, List.append_nil, Query.build]
    cases context with
    | scoring => exact absurd rfl hcontext
    | _ => rfl

theorem clausesIn_buildAll (query : Query) {context : Context} (hcontext : context ≠ .scoring) :
    (steps : List BuildStep) → (query.buildAll steps).clausesIn context =
      query.clausesIn context ++ movedTo query.collection context (blocksOf steps)
  | [] => by
    rw [Query.buildAll, blocksOf, movedTo_nil, List.append_nil]
  | step :: rest => by
    rw [Query.buildAll, clausesIn_buildAll (query.build step) hcontext rest,
      clausesIn_build query hcontext step, collection_build, blocksOf, movedTo_append,
      List.append_assoc]

end

/-! ### Every clause once -/

/-- Two lists that each have a front and a back, put together front to front and back to back. -/
theorem perm_regroup {α : Type} (front back front' back' : List α) :
    ((front ++ back) ++ (front' ++ back')).Perm ((front ++ front') ++ (back ++ back')) := by
  simpa only [List.append_assoc] using
    (List.perm_append_comm_assoc back front' back').append_left front

mutual

theorem calledIn_calls (context around : Context) : (step : BuildStep) →
    (calledIn context (step.calls collection around)).Perm
      ((if around = context then (step.ownClause? collection).toList else []) ++
        movedTo collection context step.blocks)
  | .filter steps | .postFilter steps => by
    rw [BuildStep.calls, BuildStep.blocks, movedTo_append, movedTo_singleton]
    simpa [BuildStep.ownClause?] using
      (calledIn_callsOf context _ steps).trans List.perm_append_comm
  | .push _ | .nest .. | .aggregate _ => by
    rw [BuildStep.blocks, movedTo_nil, List.append_nil, ← calledIn_map]
    exact .refl _

/-- What is called in a context is what the steps add there themselves and what blocks move
there. -/
theorem calledIn_callsOf (context around : Context) : (steps : List BuildStep) →
    (calledIn context (callsOf collection around steps)).Perm
      ((if around = context then ownClauses collection steps else []) ++
        movedTo collection context (blocksOf steps))
  | [] => by
    rw [callsOf, blocksOf]
    simp [calledIn, ownClauses]
  | step :: rest => by
    have hboth := (calledIn_calls context around step).append (calledIn_callsOf context around rest)
    rw [callsOf, calledIn_append, blocksOf, movedTo_append, ownClauses_cons]
    refine hboth.trans ((perm_regroup _ _ _ _).trans ?_)
    by_cases h : around = context <;> simp [h]

end

/-! ### Where a block stands -/

/-- Whether each of the blocks stands right behind the blocks inside of it. -/
def EndInsideOut (blocks : List Block) : Prop :=
  ∀ before block after, blocks = before ++ block :: after → blocksOf block.steps <:+ before

theorem EndInsideOut.append {front back : List Block} (hfront : EndInsideOut front)
    (hback : EndInsideOut back) : EndInsideOut (front ++ back) := by
  intro before block after h
  obtain ⟨inner, hbefore, hinner⟩ | ⟨inner, hbefore, hinner⟩ := List.append_eq_append_iff.mp h
  · -- The block is one of the back.
    obtain ⟨outer, houter⟩ := hback inner block after hinner
    exact ⟨front ++ outer, by rw [List.append_assoc, houter, hbefore]⟩
  · cases inner with
    | nil =>
      obtain ⟨outer, houter⟩ := hback [] block after hinner.symm
      obtain ⟨rfl, hempty⟩ := List.append_eq_nil_iff.mp houter
      rw [hempty]
      exact List.nil_suffix
    | cons first rest =>
      obtain ⟨rfl, -⟩ := List.cons_eq_cons.mp hinner
      exact hfront before block rest hbefore

theorem endInsideOut_snoc {context : Context} {steps : List BuildStep}
    (h : EndInsideOut (blocksOf steps)) : EndInsideOut (blocksOf steps ++ [⟨context, steps⟩]) := by
  intro before block after hsplit
  obtain rfl | ⟨init, last, rfl⟩ := List.eq_nil_or_concat' after
  · obtain ⟨rfl, hblock⟩ := List.append_inj' hsplit rfl
    obtain rfl := List.singleton_inj.mp hblock
    exact List.suffix_rfl
  · rw [← List.cons_append, ← List.append_assoc] at hsplit
    exact h before block init (List.append_inj' hsplit rfl).1

mutual

theorem endInsideOut_blocks : (step : BuildStep) → EndInsideOut step.blocks
  | .filter steps | .postFilter steps => by
    rw [BuildStep.blocks]
    exact endInsideOut_snoc (endInsideOut_blocksOf steps)
  | .push _ | .nest .. | .aggregate _ => by
    intro before block after h
    simp [BuildStep.blocks] at h

theorem endInsideOut_blocksOf : (steps : List BuildStep) → EndInsideOut (blocksOf steps)
  | [] => by
    intro before block after h
    simp [blocksOf] at h
  | step :: rest => by
    rw [blocksOf]
    exact (endInsideOut_blocks step).append (endInsideOut_blocksOf rest)

end

mutual

theorem context_of_mem_blocks {block : Block} :
    (step : BuildStep) → block ∈ step.blocks → block.context ≠ .scoring
  | .filter steps, h | .postFilter steps, h => by
    rw [BuildStep.blocks, List.mem_append, List.mem_singleton] at h
    obtain hinner | rfl := h
    · exact context_of_mem_blocksOf steps hinner
    · simp
  | .push _, h | .nest .., h | .aggregate _, h => by simp [BuildStep.blocks] at h

/-- No block has the scoring context. -/
theorem context_of_mem_blocksOf {block : Block} :
    (steps : List BuildStep) → block ∈ blocksOf steps → block.context ≠ .scoring
  | [], h => by simp [blocksOf] at h
  | step :: rest, h => by
    rw [blocksOf, List.mem_append] at h
    exact h.elim (context_of_mem_blocks step) (context_of_mem_blocksOf rest)

end

theorem movedTo_scoring (steps : List BuildStep) :
    movedTo collection .scoring (blocksOf steps) = [] := by
  rw [movedTo, List.filter_eq_nil_iff.mpr]
  · rfl
  · intro block hblock
    simpa using context_of_mem_blocksOf steps hblock

/-- The clauses that steps add to the contexts of a query over a collection. -/
def gained (collection : String) (steps : List BuildStep) : Context → List Clause
  | .scoring => ownClauses collection steps
  | context => movedTo collection context (blocksOf steps)

/-- `query.MovesBlocks steps added`: the steps add the clauses `added` to the contexts of `query`,
and every block of them moves exactly its own clauses. -/
structure Query.MovesBlocks (query : Query) (steps : List BuildStep)
    (added : Context → List Clause) : Prop where
  /-- In every context the clauses from before stay in front. -/
  kept (context : Context) :
    (query.buildAll steps).clausesIn context = query.clausesIn context ++ added context
  /-- The scoring context gains what is added outside of all blocks, in the order of the calls. -/
  outside : added .scoring = ownClauses query.collection steps
  /-- Every context gains exactly the clauses whose innermost block has that context. -/
  once (context : Context) :
    (added context).Perm (calledIn context (callsOf query.collection .scoring steps))
  /-- The own clauses of a block stay together, in the order of the calls and right behind those
  that blocks inside of it move into the same context. -/
  together (before : List Block) (block : Block) (after : List Block) :
    blocksOf steps = before ++ block :: after → ∃ outer, before = outer ++ blocksOf block.steps ∧
      added block.context = movedTo query.collection block.context outer ++
        (movedTo query.collection block.context (blocksOf block.steps) ++
          ownClauses query.collection block.steps) ++
        movedTo query.collection block.context after

/-- However blocks are nested, each moves exactly its own clauses. -/
theorem buildAll_moves_blocks (query : Query) (steps : List BuildStep) :
    ∃ added, query.MovesBlocks steps added := by
  refine ⟨gained query.collection steps, ?kept, rfl, ?once, ?together⟩
  case kept =>
    intro context
    cases context with
    | scoring => exact wheres_buildAll query steps
    | _ => exact clausesIn_buildAll query (by simp) steps
  case once =>
    intro context
    refine .trans ?_ (calledIn_callsOf context .scoring steps).symm
    cases context with
    | scoring => simp [gained, movedTo_scoring]
    | _ => simp [gained]
  case together =>
    intro before block after hsplit
    obtain ⟨outer, rfl⟩ := endInsideOut_blocksOf steps before block after hsplit
    refine ⟨outer, rfl, ?_⟩
    have hcontext : block.context ≠ .scoring := context_of_mem_blocksOf steps (by simp [hsplit])
    have hgained : gained query.collection steps block.context =
        movedTo query.collection block.context (blocksOf steps) := by
      cases hcase : block.context with
      | scoring => exact absurd hcase hcontext
      | _ => rfl
    rw [hgained, hsplit, List.append_cons, movedTo_append, movedTo_append, movedTo_append,
      movedTo_singleton, if_pos rfl, List.append_assoc (movedTo _ _ outer)]

/-- The inner block ends first. -/
example (first inner last : Clause) :
    (Query.buildAll {} [.filter [.push first, .filter [.push inner], .push last]]).filters =
      [inner, first, last] := rfl

end SearchQuery
