import SearchQuery.Proofs.Dsl.Bulk
/-!
# Places of documents

A write sends a document to a place: an id, and a routing and a parent if there are any. The cluster
picks the shard of the document by its routing, or else by its parent, or else by its id. Shown are
when the children of a document come to the shard of the document, and when a null in the document
counts as no routing or no parent.
-/

namespace SearchQuery

/-- Whether an id is one that a supply has still to give out. -/
def IdSupply.CanGive (supply : IdSupply) (id : String) : Prop :=
  ∃ n, supply.used ≤ n ∧ supply.text n = id

/-- Where a document is sent to. -/
structure Place where
  id : String
  routing : Option String
  parent : Option String
deriving DecidableEq

/-- The text that the cluster picks a shard by. -/
def Place.shardKey (place : Place) : String := (place.routing.or place.parent).getD place.id

def IndexRequest.place (request : IndexRequest) : Place where
  id := request.id
  routing := request.routing
  parent := request.parent

/-- The place in the action of an operation. -/
def BulkOperation.place? (operation : BulkOperation) : Option Place :=
  operation.id?.map fun id =>
    { id
      routing := (operation.field? "routing").bind Json.str?
      parent := (operation.field? "parent").bind Json.str? }

def BulkOperation.shardKey? (operation : BulkOperation) : Option String :=
  operation.place?.map Place.shardKey

namespace Dsl

/-- The text of a field, or else what the request has for it. -/
def textOr (document : Document) (name : String) (fallback : Option String) : Option String :=
  ((Object.get? document name).map Json.plainText).or fallback

/-- The text of a field that is not null, or else what the request has for it. -/
def nonNullTextOr (document : Document) (name : String) (fallback : Option String) :
    Option String :=
  ((nonNull? document name).map Json.plainText).or fallback

/-- The place that a document gets, its id from a supply if it has none. -/
def placeOf (options : RequestOptions) (document : Document) (supply : IdSupply) : Place where
  id := ((idOf document).run supply).1
  routing := textOr document "_routing" options.routing
  parent := textOr document "_parent" options.parentId

variable (index : String) (options : RequestOptions) (document : Document) (supply : IdSupply)

theorem place_request (isPartial : Bool) :
    (((prepare index options document).run supply).1.request index isPartial).place =
      placeOf options document supply := by
  rw [run_prepare]
  rfl

theorem place?_operation :
    (((prepare index options document).run supply).1.operation index).place? =
      some (placeOf options document supply) := by
  have htext (text : Option String) : (text.map Json.str).bind Json.str? = text := by
    cases text <;> rfl
  obtain ⟨hid, -, hrouting, hparent⟩ :=
    field?_operation index ((prepare index options document).run supply).1
  rw [BulkOperation.place?, BulkOperation.id?, hid, hrouting, hparent, htext, htext, run_prepare]
  rfl

theorem shardKey?_childOperation (parentId : String) (child : Json) :
    ((childOperation index parentId child).run supply).1.shardKey? = some parentId := by
  rw [run_childOperation]
  rfl

/-! ### Children -/

/-- The routing that a document is sent with, or else its parent. -/
def sentKey? : Option String :=
  (textOr document "_routing" options.routing).or (textOr document "_parent" options.parentId)

/-- The operations of a document with an id: those of its children, which go to the shard of this
id, and its own. -/
structure IsFamily (id : String) (children : List BulkOperation) (own : BulkOperation) : Prop where
  count : children.length = (childrenOf document).length
  childKey : ∀ child ∈ children, child.shardKey? = some id
  ownId : own.id? = some id
  ownKey : own.shardKey? = some ((sentKey? options document).getD id)

/-- A block is the operations of a document, and its children have the shard of the document exactly
when the document is sent without routing and parent, or with its own id for the first of them. -/
def TogetherIff (block : List BulkOperation) : Prop :=
  ∃ id children own, block = children ++ [own] ∧ IsFamily options document id children own ∧
    ((∀ child ∈ children, child.shardKey? = own.shardKey?) ↔
      childrenOf document = [] ∨ ∀ key, sentKey? options document = some key → key = id)

variable {options document}

theorem IsFamily.together_iff {id : String} {children : List BulkOperation} {own : BulkOperation}
    (h : IsFamily options document id children own) :
    (∀ child ∈ children, child.shardKey? = own.shardKey?) ↔
      childrenOf document = [] ∨ ∀ key, sentKey? options document = some key → key = id := by
  constructor
  · intro hsame
    by_cases hnone : childrenOf document = []
    · exact .inl hnone
    · right
      intro key hkey
      have hpos : 0 < children.length := by
        rw [h.count]
        exact List.length_pos_iff.mpr hnone
      have hchild := List.getElem_mem hpos
      have hkeys := hsame _ hchild
      rw [h.childKey _ hchild, h.ownKey, hkey] at hkeys
      exact (Option.some.inj hkeys).symm
  · rintro (hnone | hkey) child hchild
    · have hempty : children = [] := by
        rw [← List.length_eq_zero_iff, h.count, hnone]
        rfl
      rw [hempty] at hchild
      cases hchild
    · rw [h.childKey child hchild, h.ownKey]
      cases hsent : sentKey? options document with
      | none => rfl
      | some key => rw [hkey key hsent, Option.getD_some]

variable (options document)

theorem shardKey?_of_mem_children {parentId : String} {children : List Json}
    {operation : BulkOperation}
    (h : operation ∈ ((children.mapM (childOperation index parentId)).run supply).1) :
    operation.shardKey? = some parentId := by
  have hkeys := map_mapM supply
    (fun child supply => shardKey?_childOperation index supply parentId child) children
  have hmem := List.mem_map_of_mem (f := BulkOperation.shardKey?) h
  rw [hkeys] at hmem
  obtain ⟨_, -, hkey⟩ := List.mem_map.mp hmem
  exact hkey.symm

theorem isFamily_prepare : IsFamily options document ((idOf document).run supply).1
    ((prepare index options document).run supply).1.children
    (((prepare index options document).run supply).1.operation index) := by
  have hplace := place?_operation index options document supply
  refine ⟨length_children_prepare index options document supply, ?_, ?_, ?_⟩
  · intro child hchild
    rw [run_prepare] at hchild
    exact shardKey?_of_mem_children index _ hchild
  · rw [BulkOperation.id?, (field?_operation index _).1, run_prepare]
    rfl
  · rw [BulkOperation.shardKey?, hplace]
    rfl

theorem togetherIff_prepare :
    let prepared := ((prepare index options document).run supply).1
    TogetherIff options document (prepared.children ++ [prepared.operation index]) := by
  have hfamily := isFamily_prepare index options document supply
  exact ⟨_, _, _, rfl, hfamily, hfamily.together_iff⟩

/-- The children of a document, written alone or in a batch, come to the shard of the document
exactly when it is sent without routing and parent, or with its own id for the first of them. -/
theorem children_share_shard_iff (target : Target) (query : Query) (document : Document)
    (documents : List Document) (supply : IdSupply) :
    (match ((insert target query document).run supply).1 with
      | .bulk request => TogetherIff query.options document request.operations
      | .index _ => childrenOf document = []) ∧
    ∃ blocks, ((insertMany target query documents).run supply).1.operations = blocks.flatten ∧
      List.Forall₂ (TogetherIff query.options) documents blocks := by
  let index := target.indexName query.collection
  constructor
  · rcases insert_cases target query document supply with ⟨hnone, -, hrequest⟩ | ⟨-, hrequest⟩
    · rw [hrequest]
      exact hnone
    · rw [hrequest]
      exact togetherIff_prepare index query.options document supply
  · have hblocks := (forall₂_mapM (fun _ => TogetherIff query.options) (fun h _ => h)
      (fun document supply => ⟨_, issues_blockStep index query.options document supply⟩)
      (togetherIff_prepare index query.options) documents supply).2
    exact ⟨_, rfl, hblocks⟩

/-- A question with an answer and a routing of its own. -/
def routedQuestion : Document :=
  [("_id", .str "q1"), ("_routing", .str "tenant-1"),
    ("child_documents", .arr [.obj [("document", .single "body" (.str "Like this")),
      ("id", .str "a1")]]), ("title", .str "How?")]

/-- The answer is kept on the shard of the id of the question, and the question on that of its
routing. -/
theorem child_on_other_shard :
    ∃ child own, ((insert {} { collection := "posts" } routedQuestion).run {}).1 =
        .bulk { operations := [child, own] } ∧
      child.shardKey? = some "q1" ∧ own.shardKey? = some "tenant-1" ∧
      child.shardKey? ≠ own.shardKey? := by
  refine ⟨_, _, rfl, rfl, rfl, ?_⟩
  exact fun h => absurd (Option.some.inj h) (by decide)

/-! ### Ways to write a document -/

/-- A document is written by an insert, by an update, or in a batch with other documents. -/
inductive Writing where
  | insert
  | update
  | batch (before after : List Document)

/-- Where a write sends a document. In a batch its operation comes behind those of the documents in
front of it, and behind its children. -/
def Writing.place? (writing : Writing) (target : Target) (query : Query) (document : Document)
    (supply : IdSupply) : Option Place :=
  match writing with
  | .insert =>
    match ((Dsl.insert target query document).run supply).1 with
    | .index request => some request.place
    | .bulk request => request.operations.getLast?.bind BulkOperation.place?
  | .update => some ((Dsl.update target query document).run supply).1.place
  | .batch before after =>
    let documents := before ++ document :: after
    let position := (before.flatMap partsOf).length + (childrenOf document).length
    ((insertMany target query documents).run supply).1.operations[position]?.bind
      BulkOperation.place?

theorem run_mapM_append {α β : Type} (step : α → StateM IdSupply β) (front back : List α)
    (supply : IdSupply) : ((front ++ back).mapM step).run supply =
      let first := (front.mapM step).run supply
      let second := (back.mapM step).run first.2
      (first.1 ++ second.1, second.2) := by
  induction front generalizing supply with
  | nil => rfl
  | cons element rest ih =>
    rw [List.cons_append, run_mapM_cons, run_mapM_cons]
    dsimp only
    rw [ih]
    rfl

theorem length_blockStep :
    ((blockStep index options document).run supply).1.length = (partsOf document).length := by
  rw [run_blockStep]
  dsimp only
  rw [List.length_append, length_children_prepare, partsOf, List.length_append, List.length_map]
  rfl

theorem length_blocks (documents : List Document) :
    ((documents.mapM (blockStep index options)).run supply).1.flatten.length =
      (documents.flatMap partsOf).length := by
  rw [List.length_flatten, List.length_flatMap,
    map_mapM supply (length_blockStep index options)]

theorem operations_batch (target : Target) (query : Query) (before after : List Document)
    (document : Document) (supply : IdSupply) :
    let step := blockStep (target.indexName query.collection) query.options
    let front := (before.mapM step).run supply
    let block := (step document).run front.2
    ((insertMany target query (before ++ document :: after)).run supply).1.operations =
      front.1.flatten ++ (block.1 ++ ((after.mapM step).run block.2).1.flatten) := by
  rw [operations_insertMany, run_mapM_append]
  dsimp only
  rw [run_mapM_cons, List.flatten_append, List.flatten_cons]

theorem place?_insert (target : Target) (query : Query) :
    Writing.insert.place? target query document supply =
      some (placeOf query.options document supply) := by
  rw [Writing.place?]
  rcases insert_cases target query document supply with ⟨-, -, hrequest⟩ | ⟨-, hrequest⟩
  · rw [hrequest]
    exact congrArg some (place_request _ _ _ _ _)
  · rw [hrequest]
    dsimp only
    rw [List.getLast?_concat]
    exact place?_operation _ query.options document supply

theorem place?_batch (target : Target) (query : Query) (before after : List Document) :
    let step := blockStep (target.indexName query.collection) query.options
    (Writing.batch before after).place? target query document supply =
      some (placeOf query.options document ((before.mapM step).run supply).2) := by
  let index := target.indexName query.collection
  let between := ((before.mapM (blockStep index query.options)).run supply).2
  have hcount := length_children_prepare index query.options document between
  have hlength := length_blocks index query.options supply before
  dsimp only
  rw [Writing.place?, operations_batch, ← hcount, ← hlength, run_blockStep]
  dsimp only
  -- The position lies behind the blocks in front and behind the children, so at the last operation
  -- of the block.
  rw [List.getElem?_append_right (Nat.le_add_right _ _), Nat.add_sub_cancel_left, List.append_assoc,
    List.getElem?_append_right (Nat.le_refl _), Nat.sub_self]
  exact place?_operation index query.options document between

/-- A document gets its place from the supply, or in a batch from a later state of the supply, which
does not depend on the document. -/
theorem exists_place (writing : Writing) (target : Target) (query : Query) :
    ∃ between : IdSupply, between.text = supply.text ∧ supply.used ≤ between.used ∧
      ∀ document, writing.place? target query document supply =
        some (placeOf query.options document between) := by
  cases writing with
  | insert =>
    exact ⟨supply, rfl, Nat.le_refl _, fun document => place?_insert document supply target query⟩
  | update =>
    refine ⟨supply, rfl, Nat.le_refl _, fun document => ?_⟩
    exact congrArg some (place_request _ _ _ _ _)
  | batch before after =>
    let index := target.indexName query.collection
    have hissues := issues_mapM partsOf id (length_blockStep index query.options)
      (issues_blockStep index query.options) before supply
    exact ⟨_, hissues.text, hissues.le, fun document =>
      place?_batch document supply target query before after⟩

/-! ### Nulls -/

theorem hasId_placeOf {between : IdSupply} (htext : between.text = supply.text)
    (hle : supply.used ≤ between.used) :
    HasId supply.CanGive document (placeOf options document between).id := by
  refine (hasId_idOf between document).mono ?_
  rintro id ⟨n, hn, -, hid⟩
  exact ⟨n, Nat.le_trans hle hn, by rw [← htext, hid]⟩

/-- A null is taken for a text, so it counts as missing only where the request has this text. -/
theorem textOr_eq_iff (name : String) (fallback : Option String) :
    textOr document name fallback = nonNullTextOr document name fallback ↔
      Object.get? document name ≠ some .null ∨ fallback = some "null" := by
  unfold textOr nonNullTextOr nonNull?
  cases Object.get? document name with
  | none => exact iff_of_true rfl (.inl (Option.some_ne_none _).symm)
  | some value =>
    cases value with
    | null =>
      constructor
      · intro h
        exact .inr h.symm
      · rintro (hvalue | rfl)
        · exact absurd rfl hvalue
        · rfl
    -- Any other value has the same text on both sides.
    | _ => exact iff_of_true rfl (.inl (by simp))

theorem textOr_insert_null (name other : String) (fallback : Option String) :
    textOr (Object.insert document name .null) other fallback =
      if name = other then some "null" else textOr document other fallback := by
  unfold textOr
  rw [Object.get?_insert]
  split <;> rfl

/-- Putting a null under a name makes it the text of this name. -/
theorem textOr_insert_null_iff (name other : String) (fallback : Option String) :
    textOr (Object.insert document name .null) other fallback = textOr document other fallback ↔
      (name = other → textOr document other fallback = some "null") := by
  rw [textOr_insert_null]
  split
  · next heq => rw [forall_prop_of_true heq, eq_comm]
  · next hne => exact iff_of_true rfl fun heq => absurd heq hne

theorem idOf_insert_null {document : Document} {name : String}
    (h : Object.get? document name = none) :
    idOf (Object.insert document name .null) = idOf document := by
  have hnonNull (other : String) :
      nonNull? (Object.insert document name .null) other = nonNull? document other := by
    unfold nonNull?
    rw [Object.get?_insert]
    split
    · next heq =>
      subst heq
      rw [h]
      rfl
    · rfl
  simp only [idOf, ownId?, hnonNull]

/-- Whatever the way a document is written, its id is its own that is not null, or a generated one.
Its routing, and likewise its parent, is its own that is not null, or that of the request, exactly
if the document has no null there or the request has the text of null. A null that is put under a
name leaves the routing as it is exactly if this is not the name of the routing or the routing was
the text of null before, and likewise the parent; under a new name it leaves the id as it is. -/
theorem null_counts_as_missing_iff (writing : Writing) (target : Target) (query : Query)
    (document : Document) (supply : IdSupply) :
    ∃ place, writing.place? target query document supply = some place ∧
      HasId supply.CanGive document place.id ∧
      (place.routing = nonNullTextOr document "_routing" query.options.routing ↔
        Object.get? document "_routing" ≠ some .null ∨ query.options.routing = some "null") ∧
      (place.parent = nonNullTextOr document "_parent" query.options.parentId ↔
        Object.get? document "_parent" ≠ some .null ∨ query.options.parentId = some "null") ∧
      ∀ name, ∃ changed,
        writing.place? target query (Object.insert document name .null) supply = some changed ∧
          (changed.routing = place.routing ↔ (name = "_routing" → place.routing = some "null")) ∧
          (changed.parent = place.parent ↔ (name = "_parent" → place.parent = some "null")) ∧
          (Object.get? document name = none → changed.id = place.id) := by
  obtain ⟨between, htext, hle, hplace⟩ := exists_place supply writing target query
  refine ⟨_, hplace document, hasId_placeOf _ _ _ htext hle, textOr_eq_iff _ _ _,
    textOr_eq_iff _ _ _, ?_⟩
  intro name
  refine ⟨_, hplace _, textOr_insert_null_iff _ _ _ _, textOr_insert_null_iff _ _ _ _, ?_⟩
  intro hnone
  simp only [placeOf, idOf_insert_null hnone]

/-- A document with a null for its routing. -/
def nullRouting : Document := [("_id", .str "p1"), ("_routing", .null), ("title", .str "a")]

/-- It is sent with the text of null for its routing, and not without one. -/
theorem null_routing_is_sent :
    Writing.insert.place? {} { collection := "posts" } nullRouting {} =
        some { id := "p1", routing := some "null", parent := none } ∧
      nonNullTextOr nullRouting "_routing" none = none := ⟨rfl, rfl⟩

end Dsl

end SearchQuery
