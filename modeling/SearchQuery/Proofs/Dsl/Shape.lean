import SearchQuery.Proofs.Dsl.Failure
import SearchQuery.Proofs.Dsl.Grouping
import SearchQuery.Proofs.Json.Object
/-!
# Shape of compiled queries

A compiled query has one name, that of its kind, with an object under it. Options of a clause go
into that object. So the shape is what keeps options from being dropped; it is kept wherever trees
are put together, for trees inside of trees as well, since a group passes on what is in it.
-/

namespace SearchQuery

namespace Dsl

/-- Whether a tree has a single name, with an object under it whose names increase. -/
def IsTree (tree : Json) : Prop :=
  ∃ name content, tree = .single name (.obj content) ∧ Object.Sorted content

theorem isTree_single (name inner : String) (value : Json) :
    IsTree (.single name (.single inner value)) :=
  ⟨name, _, rfl, List.pairwise_singleton _ _⟩

theorem IsTree.isObject {tree : Json} (h : IsTree tree) : tree.isObject = true := by
  obtain ⟨name, content, rfl, -⟩ := h
  rfl

/-! ### Putting trees together -/

theorem isTree_attachFilter {query : Option Json} (hquery : ∀ tree ∈ query, IsTree tree)
    (filter : Json) : IsTree (attachFilter query filter) := by
  have hwrapped (inner : Json) :
      IsTree (.single "bool" (.obj [("filter", filter), ("must", inner)])) :=
    ⟨_, _, rfl, Object.sorted_pair (by decide) _ _⟩
  unfold attachFilter
  split
  · exact isTree_single ..
  · next inner =>
    split
    · exact hwrapped _
    · obtain ⟨name, content, hsingle, hsorted⟩ := hquery _ rfl
      cases hsingle
      exact ⟨_, _, rfl, hsorted.insert _ _⟩
  · exact hwrapped _

theorem isTree_group {clauses : List (Junction × Json)}
    (hclauses : ∀ clause ∈ clauses, IsTree clause.2) : ∀ tree ∈ group clauses, IsTree tree := by
  -- A lone clause under AND is passed on as it is; every other list makes a `bool` tree.
  rcases split_or clauses with hall | ⟨front, first, rest, rfl, hfront⟩
  · match clauses, hall with
    | [], _ => simp
    | [(junction, query)], hall =>
      obtain rfl : junction = .and := by simpa using hall
      simpa using hclauses
    | first :: second :: rest, hall =>
      rw [group_front (by simp) hall]
      rintro tree ⟨⟩
      exact isTree_single ..
  · rw [group_alternatives hfront]
    rintro tree ⟨⟩
    exact isTree_single ..

theorem isTree_joined {contexts : Contexts} (hquery : ∀ tree ∈ contexts.query, IsTree tree) :
    IsTree contexts.joined := by
  unfold Contexts.joined
  split
  · exact isTree_attachFilter hquery _
  · next query hq _ => exact hquery query hq
  · exact ⟨_, _, rfl, List.Pairwise.nil⟩

/-! ### Options -/

/-- What a value is under a boost: an object with the boost in it, and with all that it was, or
with the value in it if it was no object. -/
def Boosted (boost former value : Json) : Prop :=
  ∃ entries, value = .obj entries ∧ Object.get? entries "boost" = some boost ∧
    match former with
    | .obj old => ∀ name, name ≠ "boost" → Object.get? entries name = Object.get? old name
    | former => Object.get? entries "value" = some former ∧
        ∀ name, name ≠ "boost" → name ≠ "value" → Object.get? entries name = none

/-- What options make of the object under the name of a tree. -/
structure Applied (options : ClauseOptions) (name : String) (former content : Object) : Prop where
  boost : ∀ boost ∈ options.boost, name ≠ "term" →
    Object.get? content "boost" = some (.ofBinary64 boost)
  /-- A `term` query takes the boost into its fields. -/
  fields : ∀ boost ∈ options.boost, name = "term" →
    ∀ field, (field = "inner_hits" → options.innerHits = none) →
      Option.Rel (Boosted (.ofBinary64 boost)) (Object.get? former field)
        (Object.get? content field)
  innerHits : ∀ settings ∈ options.innerHits,
    Object.get? content "inner_hits" = some (if settings.isObject then settings else .obj [])
  /-- All other entries are what they were. -/
  others : ∀ field, (field = "inner_hits" → options.innerHits = none) →
    (name = "term" ∨ field = "boost" → options.boost = none) →
    Object.get? content field = Object.get? former field

theorem boosted_boostedField (boost former : Json) :
    Boosted boost former (boostedField boost former) := by
  cases former with
  | obj old => exact ⟨_, rfl, by simp, fun name hname => by simp [Ne.symm hname]⟩
  | _ =>
    exact ⟨_, rfl, by simp, by simp, fun name hboost hvalue => by
      simp [Ne.symm hboost, Ne.symm hvalue]⟩

/-- The boost goes in first, so that hits that the same clause asks for do not get it. -/
theorem applyOptions_boost (boost : Option Binary64) (name : String) {former : Object}
    (hsorted : Object.Sorted former) :
    ∃ content, (∀ innerHits, applyOptions (.single name (.obj former)) { boost, innerHits } =
        applyOptions (.single name (.obj content)) { innerHits }) ∧
      Object.Sorted content ∧ Applied { boost } name former content := by
  cases boost with
  | none => exact ⟨former, fun _ => rfl, hsorted, by constructor <;> simp⟩
  | some boost =>
    by_cases hterm : name = "term"
    · refine ⟨former.map fun entry => (entry.1, boostedField (.ofBinary64 boost) entry.2),
        fun innerHits => ?_, hsorted.map _, ?_⟩
      · simp only [Json.single, Object.single, applyOptions, if_pos hterm]
      · constructor
        · simp [hterm]
        · rintro _ ⟨⟩ - field -
          rw [Object.get?_map]
          cases Object.get? former field with
          | none => exact .none
          | some value => exact .some (boosted_boostedField _ _)
        · simp
        · simp [hterm]
    · refine ⟨Object.insert former "boost" (.ofBinary64 boost), fun innerHits => ?_,
        hsorted.insert _ _, ?_⟩
      · simp only [Json.single, Object.single, applyOptions, if_neg hterm]
      · constructor
        · simp
        · exact fun _ _ h => absurd h hterm
        · simp
        · rintro field - hboost
          have hne : "boost" ≠ field := fun h => by simp [h] at hboost
          rw [Object.get?_insert, if_neg hne]

theorem Applied.insert_innerHits {boost : Option Binary64} {name : String}
    {former content : Object} (h : Applied { boost } name former content) (settings : Json) :
    Applied { boost, innerHits := some settings } name former
      (Object.insert content "inner_hits" (if settings.isObject then settings else .obj [])) := by
  have hkept (field : String) (hfield : "inner_hits" ≠ field) :
      Object.get? (Object.insert content "inner_hits"
        (if settings.isObject then settings else .obj [])) field = Object.get? content field := by
    rw [Object.get?_insert, if_neg hfield]
  have hne {field : String} (hfield : field = "inner_hits" → some settings = none) :
      "inner_hits" ≠ field := fun heq => by simpa using hfield heq.symm
  constructor
  · intro boost hboost hname
    rw [hkept "boost" (by decide), h.boost boost hboost hname]
  · intro boost hboost hname field hfield
    rw [hkept field (hne hfield)]
    exact h.fields boost hboost hname field fun _ => rfl
  · rintro _ ⟨⟩
    rw [Object.get?_insert, if_pos rfl]
  · intro field hfield hboost
    rw [hkept field (hne hfield), h.others field (fun _ => rfl) hboost]

/-- Options change the object under the name of a tree, and nothing else. -/
theorem applyOptions_single (options : ClauseOptions) (name : String) {former : Object}
    (hsorted : Object.Sorted former) :
    ∃ content, applyOptions (.single name (.obj former)) options = .single name (.obj content) ∧
      Object.Sorted content ∧ Applied options name former content := by
  obtain ⟨boost, innerHits⟩ := options
  obtain ⟨content, happly, hcontent, happlied⟩ := applyOptions_boost boost name hsorted
  rw [happly]
  cases innerHits with
  | none => exact ⟨content, rfl, hcontent, happlied⟩
  | some settings =>
    refine ⟨_, ?_, hcontent.insert _ _, happlied.insert_innerHits settings⟩
    cases settings <;> rfl

/-- A tree, or a tree that demands its opposite. -/
def opposite (negated : Bool) (tree : Json) : Json := if negated then mustNot [tree] else tree

/-- The query of a shape with options next to its query without: both negated or none, with the
same name in front of the object that the options go into. -/
theorem finish_options {shape : Shape} (hshape : IsTree shape.query) (options : ClauseOptions) :
    ∃ name former content,
      shape.finish {} = opposite shape.negated (.single name (.obj former)) ∧
      shape.finish options = opposite shape.negated (.single name (.obj content)) ∧
      Object.Sorted former ∧ Object.Sorted content ∧ Applied options name former content := by
  obtain ⟨name, former, hquery, hsorted⟩ := hshape
  obtain ⟨content, happly, hcontent, happlied⟩ := applyOptions_single options name hsorted
  refine ⟨name, former, content, ?_, ?_, hsorted, hcontent, happlied⟩
  · rw [Shape.finish, hquery]
    rfl
  · rw [Shape.finish, hquery, happly]
    rfl

theorem isTree_finish {shape : Shape} (options : ClauseOptions) (hshape : IsTree shape.query) :
    IsTree (shape.finish options) := by
  obtain ⟨name, former, content, -, hfinish, -, hcontent, -⟩ := finish_options hshape options
  rw [hfinish, opposite]
  split
  · exact isTree_single ..
  · exact ⟨name, content, rfl, hcontent⟩

/-! ### Conditions -/

theorem isTree_compare (column : String) (operator : Operator) (value : Json) (negate : Bool) :
    IsTree (compare column operator value negate).query := by
  unfold compare
  dsimp only
  split
  · exact isTree_single ..
  · split
    · exact isTree_single ..
    · split <;> exact isTree_single ..

theorem isTree_between (column : String) (low high : Json) (negate : Bool) :
    IsTree (between column low high negate) := by
  cases negate <;> exact isTree_single ..

theorem isTree_search (collection text : String) (fields : List SearchField)
    (matchType : Option String) (fuzziness : Option Json) (constantScore : Bool) :
    IsTree (search collection text fields matchType fuzziness constantScore) := by
  cases constantScore with
  | true => exact isTree_single ..
  | false =>
    simp only [search, Bool.false_eq_true, if_false]
    split
    · exact isTree_single ..
    · exact isTree_single ..
    · have hsorted (several : Json) : Object.Sorted [("fields", several), ("query", .str text),
          ("type", .str (matchType.getD "most_fields"))] :=
        .cons_cons (by decide) (Object.sorted_pair (by decide) _ _)
      cases fuzziness with
      | none => exact ⟨_, _, rfl, hsorted _⟩
      | some value => exact ⟨_, _, rfl, (hsorted _).insert _ _⟩

variable {target : Target} {collection : String}

theorem isTree_shapeOf_of_not_group {condition : Condition} {shape : Shape}
    (h : shapeOf target collection condition = .ok shape)
    (hgroup : ∀ query, condition ≠ .group query) : IsTree shape.query := by
  cases condition with
  | group query => exact absurd rfl (hgroup query)
  | date column operator value =>
    simp only [shapeOf] at h
    split at h
    · obtain rfl := Except.ok.inj h
      exact isTree_between _ _ _ false
    · obtain rfl := Except.ok.inj h
      exact isTree_compare ..
  | related relation documentType query =>
    simp only [shapeOf, bind_eq_ok] at h
    obtain ⟨compiled, -, inner, -, h⟩ := h
    cases relation <;> cases h <;> exact ⟨_, _, rfl, Object.sorted_pair (by decide) _ _⟩
  | datePart =>
    simp only [shapeOf, bind_eq_ok, pure_eq_ok] at h
    obtain ⟨_, -, rfl⟩ := h
    exact isTree_single ..
  | not =>
    simp only [shapeOf, bind_eq_ok, pure_eq_ok] at h
    obtain ⟨_, -, _, -, rfl⟩ := h
    exact isTree_single ..
  | nested =>
    simp only [shapeOf, bind_eq_ok, pure_eq_ok] at h
    obtain ⟨_, -, _, -, rfl⟩ := h
    exact ⟨_, _, rfl, Object.sorted_pair (by decide) _ _⟩
  | compare | isNull | isNotNull =>
    obtain rfl := Except.ok.inj h
    exact isTree_compare ..
  | between =>
    obtain rfl := Except.ok.inj h
    exact isTree_between ..
  | search =>
    obtain rfl := Except.ok.inj h
    exact isTree_search ..
  | geoDistance =>
    obtain rfl := Except.ok.inj h
    exact ⟨_, _, rfl, Object.Sorted.insert (List.pairwise_singleton _ _) _ _⟩
  | parentId =>
    obtain rfl := Except.ok.inj h
    exact ⟨_, _, rfl, Object.sorted_pair (by decide) _ _⟩
  | _ =>
    cases h
    exact isTree_single ..

mutual

theorem isTree_contexts : (query : Query) → (compiled : Contexts) →
    contexts target collection query = .ok compiled →
    (∀ tree ∈ compiled.query, IsTree tree) ∧ ∀ tree ∈ compiled.filter, IsTree tree
  | { wheres, filters, .. }, compiled, h => by
    simp only [contexts, bind_eq_ok, pure_eq_ok] at h
    obtain ⟨query, hquery, filter, hfilter, postFilter, -, rfl⟩ := h
    exact ⟨isTree_group (isTree_clauses wheres query hquery),
      isTree_group (isTree_clauses filters filter hfilter)⟩

theorem isTree_clauses : (list : List Clause) → (compiled : List (Junction × Json)) →
    clauses target collection list = .ok compiled → ∀ clause ∈ compiled, IsTree clause.2
  | [], compiled, h => by
    simp only [clauses, Except.ok.injEq] at h
    simp [← h]
  | { condition, junction, options } :: rest, compiled, h => by
    simp only [clauses, bind_eq_ok, pure_eq_ok] at h
    obtain ⟨shape, hshape, others, hothers, rfl⟩ := h
    rintro clause (_ | ⟨_, hclause⟩)
    · exact isTree_finish options (isTree_shapeOf condition shape hshape)
    · exact isTree_clauses rest others hothers clause hclause

theorem isTree_shapeOf : (condition : Condition) → (shape : Shape) →
    shapeOf target collection condition = .ok shape → IsTree shape.query := by
  intro condition shape h
  -- Any other condition has a name of its own in front of the trees inside of it.
  cases condition with
  | group query =>
    simp only [shapeOf, bind_eq_ok, pure_eq_ok] at h
    obtain ⟨compiled, hcompiled, rfl⟩ := h
    exact isTree_joined (isTree_contexts query compiled hcompiled).1
  | _ => exact isTree_shapeOf_of_not_group h (by simp)

end

/-! ### Clauses -/

/-- Whether the opposite of what a condition compiles to can be meant. -/
def MayBeNegated : Condition → Prop
  | .compare .. | .isNull _ | .date .. | .isNotIn .. | .nested .. => True
  | _ => False

theorem mayBeNegated_of_shapeOf {condition : Condition} {shape : Shape}
    (h : shapeOf target collection condition = .ok shape) (hnegated : shape.negated = true) :
    MayBeNegated condition := by
  cases condition with
  | compare | isNull | date | isNotIn | nested => trivial
  | isNotNull column =>
    cases h
    simp [compare, Json.isNull] at hnegated
  | datePart | group =>
    simp only [shapeOf, bind_eq_ok, pure_eq_ok] at h
    obtain ⟨_, -, rfl⟩ := h
    cases hnegated
  | not =>
    simp only [shapeOf, bind_eq_ok, pure_eq_ok] at h
    obtain ⟨_, -, _, -, rfl⟩ := h
    cases hnegated
  | related relation =>
    simp only [shapeOf, bind_eq_ok] at h
    obtain ⟨_, -, _, -, h⟩ := h
    cases relation <;> cases h <;> cases hnegated
  | _ =>
    cases h
    cases hnegated

/-- Every compiled clause and every list of clauses is one object under one name. Options of a
clause change that object as they should, whether it is under a negation or not. -/
theorem options_are_applied (target : Target) (collection : String) :
    (∀ clause tree, Dsl.clause target collection clause = .ok tree → IsTree tree) ∧
    (∀ list result, list ≠ [] → clauseTree target collection list = .ok result →
      ∃ tree, result = some tree ∧ IsTree tree) ∧
    ∀ clause tree, Dsl.clause target collection clause = .ok tree →
      ∃ shape name former content, shapeOf target collection clause.condition = .ok shape ∧
        (shape.negated = true → MayBeNegated clause.condition) ∧
        Dsl.clause target collection { clause with options := {} } =
          .ok (opposite shape.negated (.single name (.obj former))) ∧
        tree = opposite shape.negated (.single name (.obj content)) ∧
        Object.Sorted former ∧ Object.Sorted content ∧
        Applied clause.options name former content := by
  refine ⟨?_, ?_, ?_⟩
  · intro clause tree h
    simp only [Dsl.clause, bind_eq_ok, pure_eq_ok] at h
    obtain ⟨shape, hshape, rfl⟩ := h
    exact isTree_finish clause.options (isTree_shapeOf clause.condition shape hshape)
  · intro list result hne h
    simp only [clauseTree, bind_eq_ok, pure_eq_ok] at h
    obtain ⟨compiled, hcompiled, rfl⟩ := h
    have hsome : (group compiled).isSome = true := by
      rw [isSome_group, isEmpty_clauses hcompiled]
      simpa using hne
    obtain ⟨tree, htree⟩ := Option.isSome_iff_exists.mp hsome
    exact ⟨tree, htree, isTree_group (isTree_clauses list compiled hcompiled) tree htree⟩
  · intro clause tree h
    simp only [Dsl.clause, bind_eq_ok, pure_eq_ok] at h
    obtain ⟨shape, hshape, rfl⟩ := h
    obtain ⟨name, former, content, hplain, hfinish, hsorted⟩ :=
      finish_options (isTree_shapeOf clause.condition shape hshape) clause.options
    refine ⟨shape, name, former, content, hshape, mayBeNegated_of_shapeOf hshape, ?_, hfinish,
      hsorted⟩
    simp only [Dsl.clause, hshape, ok_bind, hplain]
    rfl

/-- A group of one comparison, which asks for its hits; the boost of the group finds both in the
`term` query of the comparison. -/
def boostedGroup : Clause where
  condition := .group { wheres := [
    { condition := .compare "n" .eq (.plain (.int 1)) false
      options := { innerHits := some (.obj [("size", .int 3)]) } }] }
  options := { boost := some (.ofNat 2) }

theorem options_are_applied_boostedGroup : ∃ content,
    clause {} "posts" boostedGroup = .ok (.single "term" (.obj content)) ∧
    Option.Rel (Boosted (.ofBinary64 (.ofNat 2))) (some (.int 1)) (Object.get? content "n") ∧
    Option.Rel (Boosted (.ofBinary64 (.ofNat 2))) (some (.obj [("size", .int 3)]))
      (Object.get? content "inner_hits") := by
  obtain ⟨-, -, hoptions⟩ := options_are_applied {} "posts"
  obtain ⟨shape, name, former, content, hshape, -, hplain, htree, -, -, happlied⟩ :=
    hoptions boostedGroup _ rfl
  cases hshape
  cases hplain
  exact ⟨content, congrArg Except.ok htree, happlied.fields _ rfl rfl "n" (by simp),
    happlied.fields _ rfl rfl "inner_hits" fun _ => rfl⟩

end Dsl

end SearchQuery
