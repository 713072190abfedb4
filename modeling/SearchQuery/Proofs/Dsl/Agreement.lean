import SearchQuery.Proofs.Dsl.Bulk
/-!
# One document, alone or in a batch

The insert of a document and a batch that holds this document alone describe the same write. Each
takes its ids from a supply of its own, so the generated ones may differ. The two runs are followed
in step: from the same turn of their supplies they come to the same turn, and what they have made
until then is the same up to the ids of the turns between.
-/

namespace SearchQuery

namespace IdSupply

/-- A supply that has given out some more ids. -/
def later (supply : IdSupply) (turns : Nat) : IdSupply :=
  { supply with used := supply.used + turns }

variable (first second : IdSupply)

/-- Two texts that are the same up to generated ids: one text, or the ids that two supplies give out
at the same turn. -/
def SameText (text other : String) : Prop :=
  text = other ∨
    ∃ turn, text = first.text (first.used + turn) ∧ other = second.text (second.used + turn)

variable {α β : Type}

/-- Begun at the same turn of two supplies, two computations have related results and end at the
same turn. -/
def InStep (Related : α → β → Prop) (one : StateM IdSupply α) (other : StateM IdSupply β) : Prop :=
  ∀ turn, Related (one.run (first.later turn)).1 (other.run (second.later turn)).1 ∧
    ∃ ended, (one.run (first.later turn)).2 = first.later ended ∧
      (other.run (second.later turn)).2 = second.later ended

end IdSupply

namespace Dsl

open IdSupply

variable (first second : IdSupply)

/-- Entries of two actions that are the same up to generated ids, which an action has as its id and
as its parent. -/
def SameEntry (entry other : String × Json) : Prop :=
  entry = other ∨ ∃ name ∈ ["_id", "parent"], ∃ text same,
    entry = (name, .str text) ∧ other = (name, .str same) ∧ first.SameText second text same

/-- Two operations that are the same up to generated ids. -/
structure SameOperation (operation other : BulkOperation) : Prop where
  action : ∃ entries others, operation.action = .single "index" (.obj entries) ∧
    other.action = .single "index" (.obj others) ∧
    List.Forall₂ (SameEntry first second) entries others
  source : operation.source = other.source

/-- A request for one document, and an operation that writes it to the same place, up to generated
ids. -/
structure SameWrite (request : IndexRequest) (operation : BulkOperation) : Prop where
  index : operation.field? "_index" = some (.str request.index)
  id : ∃ id, operation.field? "_id" = some (.str id) ∧ first.SameText second request.id id
  routing : operation.field? "routing" = request.routing.map .str
  parent : operation.field? "parent" = request.parent.map .str
  source : operation.source = request.body
  whole : request.isPartial = false

/-- Two documents taken apart in the same way, up to generated ids. -/
structure SamePrepared (prepared other : Prepared) : Prop where
  id : first.SameText second prepared.id other.id
  routing : prepared.routing = other.routing
  parent : prepared.parent = other.parent
  children : List.Forall₂ (SameOperation first second) prepared.children other.children
  body : prepared.body = other.body

variable {first second}

theorem sameEntry_of_sameText {name text other : String} (hname : name ∈ ["_id", "parent"])
    (h : first.SameText second text other) :
    SameEntry first second (name, .str text) (name, .str other) :=
  .inr ⟨name, hname, text, other, rfl, rfl, h⟩

/-! ### Runs in step -/

theorem inStep_mapM {α β γ : Type} {Related : β → γ → Prop} {step : α → StateM IdSupply β}
    {counterpart : α → StateM IdSupply γ}
    (h : ∀ element, first.InStep second Related (step element) (counterpart element))
    (list : List α) :
    first.InStep second (List.Forall₂ Related) (list.mapM step) (list.mapM counterpart) := by
  induction list with
  | nil => exact fun turn => ⟨.nil, turn, rfl, rfl⟩
  | cons element rest ih =>
    intro turn
    obtain ⟨hhead, between, hfirst, hsecond⟩ := h element turn
    obtain ⟨htail, ended, hends⟩ := ih between
    rw [run_mapM_cons, run_mapM_cons]
    dsimp only
    rw [hfirst, hsecond]
    exact ⟨.cons hhead htail, ended, hends⟩

theorem inStep_idOf (fields : Document) :
    first.InStep second (first.SameText second) (idOf fields) (idOf fields) := by
  intro turn
  cases h : identity? fields with
  | some value =>
    rw [run_idOf_of_identity _ h, run_idOf_of_identity _ h]
    exact ⟨.inl rfl, turn, rfl, rfl⟩
  | none =>
    rw [run_idOf_of_none _ h, run_idOf_of_none _ h]
    exact ⟨.inr ⟨turn, rfl, rfl⟩, turn + 1, rfl, rfl⟩

theorem inStep_childOperation (index : String) {parentId otherParent : String}
    (hparent : first.SameText second parentId otherParent) (child : Json) :
    first.InStep second (SameOperation first second) (childOperation index parentId child)
      (childOperation index otherParent child) := by
  intro turn
  obtain ⟨hid, hends⟩ := @inStep_idOf first second (childFields child) turn
  rw [run_childOperation, run_childOperation]
  have hidEntry := sameEntry_of_sameText (by decide : "_id" ∈ ["_id", "parent"]) hid
  have hparentEntry := sameEntry_of_sameText (by decide : "parent" ∈ ["_id", "parent"]) hparent
  refine ⟨⟨⟨_, _, rfl, rfl, ?_⟩, rfl⟩, hends⟩
  exact .cons hidEntry (.cons (.inl rfl) (.cons hparentEntry .nil))

theorem inStep_prepare (index : String) (options : RequestOptions) (document : Document) :
    first.InStep second (SamePrepared first second) (prepare index options document)
      (prepare index options document) := by
  intro turn
  obtain ⟨hid, between, hfirst, hsecond⟩ := @inStep_idOf first second document turn
  -- The children have the id of the document for their parent, so the two runs go through different
  -- steps here.
  have hchildren := inStep_mapM (fun child => inStep_childOperation index hid child)
    (childrenOf document)
  obtain ⟨hsame, hends⟩ := hchildren between
  rw [run_prepare, run_prepare]
  dsimp only
  rw [hfirst, hsecond]
  exact ⟨⟨hid, rfl, rfl, hsame, rfl⟩, hends⟩

/-! ### The document itself -/

theorem SamePrepared.operation {prepared other : Prepared}
    (h : SamePrepared first second prepared other) (index : String) :
    SameOperation first second (prepared.operation index) (other.operation index) := by
  obtain ⟨id, routing, parent, children, body⟩ := prepared
  obtain ⟨otherId, _, _, _, _⟩ := other
  obtain ⟨hid, hrouting, hparent, -, hbody⟩ := h
  dsimp only at hid hrouting hparent hbody
  subst hrouting hparent hbody
  have hfront : List.Forall₂ (SameEntry first second) [("_id", .str id), ("_index", .str index)]
      [("_id", .str otherId), ("_index", .str index)] :=
    .cons (sameEntry_of_sameText (by decide) hid) (.cons (.inl rfl) .nil)
  refine ⟨⟨_, _, rfl, rfl, List.rel_append hfront ?_⟩, rfl⟩
  exact List.forall₂_same.mpr fun _ _ => .inl rfl

theorem SamePrepared.write {prepared other : Prepared}
    (h : SamePrepared first second prepared other) (index : String) :
    SameWrite first second (prepared.request index false) (other.operation index) := by
  obtain ⟨hid, hindex, hrouting, hparent⟩ := field?_operation index other
  exact {
    index := hindex
    id := ⟨other.id, hid, h.id⟩
    routing := by rw [hrouting, ← h.routing]; rfl
    parent := by rw [hparent, ← h.parent]; rfl
    source := h.body.symm
    whole := rfl }

/-- The insert of a document and the batch of this document alone are the same write up to generated
ids, from whatever supplies these come: as a bulk request the insert has the operations of the batch
one by one, and as a request for one document it is the only operation of the batch. -/
theorem insert_agrees_with_batch (target : Target) (query : Query) (document : Document)
    (supply other : IdSupply) :
    let batch := ((insertMany target query [document]).run other).1.operations
    match ((insert target query document).run supply).1 with
    | .bulk request => List.Forall₂ (SameOperation supply other) request.operations batch
    | .index request => ∃ operation, batch = [operation] ∧
        SameWrite supply other request operation := by
  let index := target.indexName query.collection
  have hsame : SamePrepared supply other ((prepare index query.options document).run supply).1
      ((prepare index query.options document).run other).1 :=
    (inStep_prepare index query.options document 0).1
  have hbatch : ((insertMany target query [document]).run other).1.operations =
      ((prepare index query.options document).run other).1.children ++
        [((prepare index query.options document).run other).1.operation index] := by
    rw [operations_insertMany, run_mapM_cons, run_blockStep]
    exact List.append_nil _
  rw [hbatch]
  dsimp only
  rcases insert_cases target query document supply with ⟨-, hnone, hrequest⟩ | ⟨-, hrequest⟩
  · have hchildren := hsame.children
    rw [hnone, List.forall₂_nil_left_iff] at hchildren
    rw [hrequest, hchildren]
    exact ⟨_, rfl, hsame.write index⟩
  · rw [hrequest]
    exact List.rel_append hsame.children (.cons (hsame.operation index) .nil)

end Dsl

end SearchQuery
