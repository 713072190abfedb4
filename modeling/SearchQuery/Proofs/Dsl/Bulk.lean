import Mathlib.Algebra.GroupWithZero.Nat
import SearchQuery.Proofs.Dsl.Prepared
/-!
# Bulk writes

A bulk write is a block of operations for each document, one after the other: the children of the
document in their order, each with the id of the document as its parent, and the document itself.
No two generated ids of a bulk write are the same.
-/

namespace SearchQuery

namespace Dsl

/-- The objects that the operations of a block are known by: the children, and the document. -/
def partsOf (document : Document) : List Document :=
  (childrenOf document).map childFields ++ [document]

/-- The ids of those operations whose objects have no id of their own. -/
def generatedIds (parts : List Document) (operations : List BulkOperation) : List String :=
  (parts.zip operations).filterMap fun (fields, operation) =>
    if (identity? fields).isNone then operation.id? else none

/-- The write of a child. Where the child is no object, or holds something else than an object as
its document, nothing is said about what is stored. -/
structure IsChildWrite (index parentId : String) (fresh : String → Prop) (child : Json)
    (operation : BulkOperation) : Prop where
  id : ∃ id, operation.field? "_id" = some (.str id) ∧ HasId fresh (childFields child) id
  index : operation.field? "_index" = some (.str index)
  parent : operation.field? "parent" = some (.str parentId)
  document : ∀ entries document, child = .obj entries →
    Object.get? entries "document" = some (.obj document) → operation.source = document
  fields : ∀ entries, child = .obj entries → Object.get? entries "document" = none →
    operation.source = withoutId entries

/-- The write of a document itself. -/
structure IsOwnWrite (index : String) (options : RequestOptions) (document : Document)
    (id : String) (operation : BulkOperation) : Prop where
  id : operation.field? "_id" = some (.str id)
  index : operation.field? "_index" = some (.str index)
  routing : operation.field? "routing" =
    (((Object.get? document "_routing").map Json.plainText).or options.routing).map .str
  parent : operation.field? "parent" =
    (((Object.get? document "_parent").map Json.plainText).or options.parentId).map .str
  source : operation.source = bodyOf document

/-- The writes of a document: first its children, and then itself. -/
def IsBlock (index : String) (options : RequestOptions) (fresh : String → Prop)
    (document : Document) (block : List BulkOperation) : Prop :=
  ∃ id children own, block = children ++ [own] ∧ HasId fresh document id ∧
    List.Forall₂ (IsChildWrite index id fresh) (childrenOf document) children ∧
    IsOwnWrite index options document id own

theorem IsChildWrite.mono {index parentId : String} {fresh other : String → Prop} {child : Json}
    {operation : BulkOperation} (h : IsChildWrite index parentId fresh child operation)
    (hmono : ∀ id, fresh id → other id) : IsChildWrite index parentId other child operation := by
  obtain ⟨id, hid, hown⟩ := h.id
  exact { h with id := ⟨id, hid, hown.mono hmono⟩ }

theorem IsBlock.mono {index : String} {options : RequestOptions} {fresh other : String → Prop}
    {document : Document} {block : List BulkOperation}
    (h : IsBlock index options fresh document block) (hmono : ∀ id, fresh id → other id) :
    IsBlock index options other document block := by
  obtain ⟨id, children, own, hblock, hid, hchildren, hown⟩ := h
  exact ⟨id, children, own, hblock, hid.mono hmono,
    hchildren.imp fun _ _ hchild => hchild.mono hmono, hown⟩

theorem generatedIds_append {front back : List Document} {first second : List BulkOperation}
    (h : first.length = front.length) : generatedIds (front ++ back) (first ++ second) =
      generatedIds front first ++ generatedIds back second := by
  unfold generatedIds
  rw [List.zip_append h.symm, List.filterMap_append]

/-! ### Steps that take ids -/

section Steps

variable {α β : Type} {step : α → StateM IdSupply β}

/-- The operations of a sequence of steps have ids that the supply gave out, if those of each step
do. -/
theorem issues_mapM (parts : α → List Document) (operations : β → List BulkOperation)
    (hlength : ∀ element (supply : IdSupply),
      (operations ((step element).run supply).1).length = (parts element).length)
    (hissues : ∀ element (supply : IdSupply), supply.Issues ((step element).run supply).2
      (generatedIds (parts element) (operations ((step element).run supply).1)))
    (list : List α) (supply : IdSupply) :
    supply.Issues ((list.mapM step).run supply).2
      (generatedIds (list.flatMap parts) (((list.mapM step).run supply).1.flatMap operations)) := by
  induction list generalizing supply with
  | nil => exact .nil supply
  | cons first rest ih =>
    rw [run_mapM_cons, List.flatMap_cons, List.flatMap_cons,
      generatedIds_append (hlength first supply)]
    exact (hissues first supply).append (ih _)

/-- What relates an element to the result of its step relates them in a sequence of steps, which
gives out more ids than the step alone. -/
theorem forall₂_mapM (Relates : (String → Prop) → α → β → Prop)
    (hmono : ∀ {fresh other : String → Prop} {element result}, Relates fresh element result →
      (∀ id, fresh id → other id) → Relates other element result)
    (hissues : ∀ element (supply : IdSupply), ∃ ids,
      supply.Issues ((step element).run supply).2 ids)
    (hstep : ∀ element (supply : IdSupply), Relates
      (supply.Gives ((step element).run supply).2) element ((step element).run supply).1)
    (list : List α) (supply : IdSupply) :
    (∃ ids, supply.Issues ((list.mapM step).run supply).2 ids) ∧
      List.Forall₂ (Relates (supply.Gives ((list.mapM step).run supply).2)) list
        ((list.mapM step).run supply).1 := by
  induction list generalizing supply with
  | nil => exact ⟨⟨[], .nil supply⟩, .nil⟩
  | cons first rest ih =>
    -- The ids of the first step lie before those of the rest, so each side only widens its range.
    obtain ⟨ids, hfirst⟩ := hissues first supply
    obtain ⟨⟨more, hrest⟩, hrelates⟩ := ih ((step first).run supply).2
    rw [run_mapM_cons]
    refine ⟨⟨ids ++ more, hfirst.append hrest⟩, .cons ?_ ?_⟩
    · exact hmono (hstep first supply) fun id hid => hid.mono_right hrest.le
    · exact hrelates.imp fun _ _ hresult =>
        hmono hresult fun id hid => hid.mono_left hfirst.text hfirst.le

end Steps

/-! ### One document -/

variable (index : String) (options : RequestOptions)

theorem isChildWrite_childOperation (parentId : String) (child : Json) (supply : IdSupply) :
    IsChildWrite index parentId
      (supply.Gives ((childOperation index parentId child).run supply).2) child
      ((childOperation index parentId child).run supply).1 := by
  rw [run_childOperation]
  refine ⟨⟨_, rfl, hasId_idOf supply (childFields child)⟩, rfl, rfl, ?_, ?_⟩
  · rintro entries document rfl hdocument
    have hrest : Object.get? (withoutId entries) "document" = some (.obj document) := by
      simpa [withoutId] using hdocument
    simp only [childSource, childFields, hrest]
  · rintro entries rfl hnone
    have hrest : Object.get? (withoutId entries) "document" = none := by
      simpa [withoutId] using hnone
    simp only [childSource, childFields, hrest]
    exact Object.erase_of_get?_eq_none hrest

theorem generatedIds_singleton (fields : Document) {operation : BulkOperation} {id : String}
    (h : operation.id? = some id) : generatedIds [fields] [operation] =
      if (identity? fields).isNone then [id] else [] := by
  simp only [generatedIds, List.zip_cons_cons, List.zip_nil_left, List.filterMap_cons,
    List.filterMap_nil, h]
  split <;> simp_all

theorem issues_childOperation (parentId : String) (child : Json) (supply : IdSupply) :
    supply.Issues ((childOperation index parentId child).run supply).2
      (generatedIds [childFields child]
        [((childOperation index parentId child).run supply).1]) := by
  rw [run_childOperation, generatedIds_singleton _ rfl]
  exact issues_idOf supply (childFields child)

theorem issues_children (parentId : String) (children : List Json) (supply : IdSupply) :
    let outcome := (children.mapM (childOperation index parentId)).run supply
    supply.Issues outcome.2 (generatedIds (children.map childFields) outcome.1) := by
  have h := issues_mapM (fun child => [childFields child]) ([·]) (fun _ _ => rfl)
    (issues_childOperation index parentId) children supply
  rw [← List.map_eq_flatMap, List.flatMap_singleton'] at h
  exact h

/-- The step of a bulk write for one of its documents. -/
def blockStep (document : Document) : StateM IdSupply (List BulkOperation) := do
  let prepared ← prepare index options document
  return prepared.children ++ [prepared.operation index]

theorem run_blockStep (document : Document) (supply : IdSupply) :
    (blockStep index options document).run supply =
      let outcome := (prepare index options document).run supply
      (outcome.1.children ++ [outcome.1.operation index], outcome.2) := rfl

theorem field?_operation (prepared : Prepared) :
    (prepared.operation index).field? "_id" = some (.str prepared.id) ∧
      (prepared.operation index).field? "_index" = some (.str index) ∧
      (prepared.operation index).field? "routing" = prepared.routing.map .str ∧
      (prepared.operation index).field? "parent" = prepared.parent.map .str := by
  obtain ⟨id, routing, parent, children, body⟩ := prepared
  cases routing <;> cases parent <;> exact ⟨rfl, rfl, rfl, rfl⟩

theorem childWrites (parentId : String) (children : List Json) (supply : IdSupply) :
    let outcome := (children.mapM (childOperation index parentId)).run supply
    (∃ ids, supply.Issues outcome.2 ids) ∧
      List.Forall₂ (IsChildWrite index parentId (supply.Gives outcome.2)) children outcome.1 :=
  forall₂_mapM (IsChildWrite index parentId) IsChildWrite.mono
    (fun child supply => ⟨_, issues_childOperation index parentId child supply⟩)
    (isChildWrite_childOperation index parentId) children supply

theorem isBlock_blockStep (document : Document) (supply : IdSupply) :
    IsBlock index options (supply.Gives ((blockStep index options document).run supply).2) document
      ((blockStep index options document).run supply).1 := by
  have hnamed := issues_idOf supply document
  have hid := hasId_idOf supply document
  rw [run_blockStep, run_prepare]
  obtain ⟨⟨_, hwritten⟩, hchildren⟩ := childWrites index ((idOf document).run supply).1
    (childrenOf document) ((idOf document).run supply).2
  obtain ⟨howner, hindex, hrouting, hparent⟩ := field?_operation index _
  refine ⟨_, _, _, rfl, ?_, ?_, ⟨howner, hindex, hrouting, hparent, rfl⟩⟩
  · exact hid.mono fun id h => h.mono_right hwritten.le
  · exact hchildren.imp fun _ _ h => h.mono fun id h => h.mono_left hnamed.text hnamed.le

theorem issues_blockStep (document : Document) (supply : IdSupply) :
    supply.Issues ((blockStep index options document).run supply).2
      (generatedIds (partsOf document) ((blockStep index options document).run supply).1) := by
  have hnamed := issues_idOf supply document
  have hchildren := issues_children index ((idOf document).run supply).1 (childrenOf document)
    ((idOf document).run supply).2
  have hlength := ((childWrites index ((idOf document).run supply).1 (childrenOf document)
    ((idOf document).run supply).2).2).length_eq
  rw [run_blockStep, run_prepare]
  dsimp only at hlength ⊢
  rw [partsOf, generatedIds_append (by rw [List.length_map, hlength]), generatedIds_singleton _ rfl]
  exact (hnamed.append hchildren).perm List.perm_append_comm

theorem length_flatten_blocks {documents : List Document} {blocks : List (List BulkOperation)}
    {fresh : String → Prop} (h : List.Forall₂ (IsBlock index options fresh) documents blocks) :
    blocks.flatten.length =
      documents.length + (documents.map fun document => (childrenOf document).length).sum := by
  induction h with
  | nil => rfl
  | cons hblock _ ih =>
    obtain ⟨_, children, own, rfl, -, hchildren, -⟩ := hblock
    have hlength := hchildren.length_eq
    simp only [List.flatten_cons, List.length_append, List.length_cons, List.length_nil,
      List.map_cons, List.sum_cons, ih, hlength]
    omega

theorem length_children_prepare (document : Document) (supply : IdSupply) :
    ((prepare index options document).run supply).1.children.length =
      (childrenOf document).length := by
  rw [run_prepare]
  exact ((childWrites index ((idOf document).run supply).1 (childrenOf document)
    ((idOf document).run supply).2).2).length_eq.symm

/-- The insert of a document without children is one request, and of any other one a block. -/
theorem insert_cases (target : Target) (query : Query) (document : Document) (supply : IdSupply) :
    let index := target.indexName query.collection
    let prepared := ((prepare index query.options document).run supply).1
    childrenOf document = [] ∧ prepared.children = [] ∧
        ((insert target query document).run supply).1 = .index (prepared.request index false) ∨
      childrenOf document ≠ [] ∧ ((insert target query document).run supply).1 =
        .bulk { operations := prepared.children ++ [prepared.operation index] } := by
  let index := target.indexName query.collection
  have hlength := length_children_prepare index query.options document supply
  rw [run_insert]
  by_cases hnone : childrenOf document = []
  · have hempty : ((prepare index query.options document).run supply).1.children = [] := by
      rw [← List.length_eq_zero_iff, hlength, hnone]
      rfl
    exact .inl ⟨hnone, hempty, if_pos (List.isEmpty_iff.mpr hempty)⟩
  · have hsome : ((prepare index query.options document).run supply).1.children ≠ [] := by
      rw [← List.length_pos_iff, hlength]
      exact List.length_pos_iff.mpr hnone
    exact .inr ⟨hnone, if_neg (by rwa [List.isEmpty_iff])⟩

theorem operations_insertMany (target : Target) (query : Query) (documents : List Document)
    (supply : IdSupply) : ((insertMany target query documents).run supply).1.operations =
      ((documents.mapM (blockStep (target.indexName query.collection) query.options)).run
        supply).1.flatten := rfl

/-- A bulk write is a block for each document, in their order, with an operation for each child and
one for the document. All its generated ids are different if the supply gives out no id twice. -/
theorem insertMany_blocks (target : Target) (query : Query) (documents : List Document)
    {supply : IdSupply} (hids : Function.Injective supply.text) :
    let outcome := (insertMany target query documents).run supply
    ∃ blocks, outcome.1.operations = blocks.flatten ∧
      List.Forall₂ (IsBlock (query.collection ++ target.indexSuffix) query.options
        (supply.Gives outcome.2)) documents blocks ∧
      outcome.1.operations.length =
        documents.length + (documents.map fun document => (childrenOf document).length).sum ∧
      (generatedIds (documents.flatMap partsOf) outcome.1.operations).Nodup := by
  let step := blockStep (target.indexName query.collection) query.options
  have hissues (document : Document) (supply : IdSupply) :
      supply.Issues ((step document).run supply).2
        (generatedIds (partsOf document) ((step document).run supply).1) :=
    issues_blockStep _ _ document supply
  have hblocks := (forall₂_mapM (IsBlock (target.indexName query.collection) query.options)
    IsBlock.mono (fun document supply => ⟨_, hissues document supply⟩)
    (isBlock_blockStep _ _) documents supply).2
  have hlength (document : Document) (supply : IdSupply) :
      ((step document).run supply).1.length = (partsOf document).length := by
    obtain ⟨_, children, own, hblock, -, hchildren, -⟩ :=
      isBlock_blockStep (target.indexName query.collection) query.options document supply
    rw [hblock, partsOf, List.length_append, List.length_append, List.length_map,
      hchildren.length_eq]
    rfl
  have hall := issues_mapM partsOf id hlength hissues documents supply
  rw [List.flatMap_id] at hall
  exact ⟨_, rfl, hblocks, length_flatten_blocks _ _ hblocks, hall.nodup hids⟩

/-- A document without an id, with a child that has none either and one that has, and a document
with an id and a routing of its own. -/
def mixedDocuments : List Document :=
  [[("child_documents", .arr [.single "title" (.str "a"),
      .obj [("document", .single "title" (.str "b")), ("id", .int 7)]]), ("title", .str "c")],
    [("_routing", .str "r"), ("id", .int 2), ("title", .str "d")]]

theorem insertMany_blocks_mixedDocuments :
    let outcome := (insertMany {} { collection := "posts" } mixedDocuments).run {}
    let ids := generatedIds (mixedDocuments.flatMap partsOf) outcome.1.operations
    Function.Injective ({} : IdSupply).text ∧ outcome.1.operations.length = 4 ∧
      ids.length = 2 ∧ ids.Nodup := by
  obtain ⟨blocks, -, -, hlength, hids⟩ :=
    @insertMany_blocks {} { collection := "posts" } mixedDocuments {} IdSupply.idText_injective
  exact ⟨IdSupply.idText_injective, hlength, by decide, hids⟩

end Dsl

end SearchQuery
