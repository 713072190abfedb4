import Mathlib.Data.List.Perm.Basic
import SearchQuery.Proofs.Dsl.Bulk
import SearchQuery.Proofs.Json.Valid
/-!
# What writes keep

The scalars of a document are its content, but for those of its metadata. An insert stores all of
them apart from what it cannot read as children: a list of children that is no list, a child that is
no object, what stands beside the document of a child, and a document of a child that is no object.
An update stores nothing of the children. All that is left out is lost.
-/

namespace SearchQuery

namespace Json

mutual

/-- The scalars inside a value, in order. -/
def scalars : Json → List Json
  | .arr items => itemsScalars items
  | .obj entries => entriesScalars entries
  | scalar => [scalar]

def itemsScalars : List Json → List Json
  | [] => []
  | item :: rest => item.scalars ++ itemsScalars rest

def entriesScalars : List (String × Json) → List Json
  | [] => []
  | (_, value) :: rest => value.scalars ++ entriesScalars rest

end

theorem entriesScalars_eq (entries : List (String × Json)) :
    entriesScalars entries = entries.flatMap (·.2.scalars) := by
  induction entries with
  | nil => rfl
  | cons entry rest ih =>
    obtain ⟨name, value⟩ := entry
    rw [entriesScalars, ih, List.flatMap_cons]

theorem entriesScalars_perm {entries others : List (String × Json)} (h : entries.Perm others) :
    (entriesScalars entries).Perm (entriesScalars others) := by
  rw [entriesScalars_eq, entriesScalars_eq]
  exact h.flatMap_right _

end Json

open Json

namespace Dsl

/-! ### Content and loss -/

/-- The content of a child: its scalars but for those of its id. -/
def childContent : Json → List Json
  | .obj entries => entriesScalars (withoutId entries)
  | other => other.scalars

/-- The content of the value of `child_documents`. -/
def childrenContent : Json → List Json
  | .arr children => children.flatMap childContent
  | other => other.scalars

/-- The content of a field: nothing of metadata, and of the children all but their ids. -/
def fieldContent (field : String × Json) : List Json :=
  if field.1 ∈ ["_id", "id", "_routing", "_parent"] then []
  else if field.1 = "child_documents" then childrenContent field.2
  else field.2.scalars

def content (document : Document) : List Json := document.flatMap fieldContent

/-- What is lost of a child. -/
def childLoss : Json → List Json
  | .obj entries => match Object.get? entries "document" with
    | some (.obj _) => entriesScalars (Object.erase (withoutId entries) "document")
    | some other => other.scalars
    | none => []
  | other => other.scalars

/-- What an insert loses of the value of `child_documents`. -/
def childrenLoss : Json → List Json
  | .arr children => children.flatMap childLoss
  | other => other.scalars

/-- What an insert loses of a document. -/
def insertLoss (document : Document) : List Json :=
  ((Object.get? document "child_documents").map childrenLoss).getD []

/-- What an update loses of a document. -/
def updateLoss (document : Document) : List Json :=
  ((Object.get? document "child_documents").map childrenContent).getD []

/-- The scalars in the sources of writes. -/
def storedScalars (sources : List Document) : List Json := sources.flatMap entriesScalars

/-- The documents that a write stores. -/
def sourcesOf : WriteRequest → List Document
  | .index request => [request.body]
  | .bulk request => request.operations.map (·.source)

/-! ### Balance -/

theorem content_erase_children (document : Document) :
    content (Object.erase document "child_documents") = entriesScalars (bodyOf document) := by
  rw [entriesScalars_eq]
  induction document with
  | nil => rfl
  | cons field rest ih =>
    unfold content Object.erase bodyOf at ih ⊢
    by_cases hchildren : field.1 = "child_documents"
    · rw [List.filter_cons_of_neg (by simp [hchildren]),
        List.filter_cons_of_neg (by simp [hchildren, metadataNames]), ih]
    · by_cases hmetadata : field.1 ∈ ["_id", "id", "_routing", "_parent"]
      · have hleft : field.1 ∈ metadataNames := by
          simp only [List.mem_cons, List.not_mem_nil, or_false] at hmetadata
          rcases hmetadata with h | h | h | h <;> simp [h, metadataNames]
        rw [List.filter_cons_of_pos (by simpa using hchildren),
          List.filter_cons_of_neg (by simpa using hleft), List.flatMap_cons, ih, fieldContent,
          if_pos hmetadata, List.nil_append]
      · have hkept : field.1 ∉ metadataNames := by
          simp only [List.mem_cons, List.not_mem_nil, or_false, not_or] at hmetadata
          simp [metadataNames, hmetadata, hchildren]
        rw [List.filter_cons_of_pos (by simpa using hchildren),
          List.filter_cons_of_pos (by simpa using hkept), List.flatMap_cons, List.flatMap_cons, ih,
          fieldContent, if_neg hmetadata, if_neg hchildren]

/-- The content of a document is that of its body and that of its children. -/
theorem content_perm {document : Document} (h : Object.Distinct document) :
    (content document).Perm (entriesScalars (bodyOf document) ++ updateLoss document) := by
  rw [← content_erase_children]
  cases hget : Object.get? document "child_documents" with
  | none => simp [Object.erase_of_get?_eq_none hget, updateLoss, hget]
  | some value =>
    have hloss : updateLoss document = fieldContent ("child_documents", value) := by
      rw [updateLoss, hget]
      rfl
    have hperm := (Object.perm_erase h hget).flatMap_right fieldContent
    rw [List.flatMap_cons] at hperm
    rw [hloss]
    exact hperm.trans List.perm_append_comm

theorem childContent_perm {child : Json} (h : child.Valid) :
    (childContent child).Perm (entriesScalars (childSource child) ++ childLoss child) := by
  cases child with
  | obj entries =>
    rw [Valid] at h
    have hget : Object.get? (withoutId entries) "document" = Object.get? entries "document" := by
      simp [withoutId]
    have hdistinct := ((h.1.erase "_id").erase "id").distinct
    cases hdocument : Object.get? entries "document" with
    | none =>
      simp [childContent, childLoss, childSource, childFields, hget, hdocument,
        Object.erase_of_get?_eq_none (hget.trans hdocument)]
    | some value =>
      have hperm := entriesScalars_perm (Object.perm_erase hdistinct (hget.trans hdocument))
      cases value with
      | obj document =>
        simp only [childContent, childLoss, childSource, childFields, hget, hdocument]
        exact hperm
      | _ =>
        simp only [childContent, childLoss, childSource, childFields, hget, hdocument]
        exact hperm.trans List.perm_append_comm
  | _ =>
    simp [childContent, childLoss, childSource, childFields, withoutId, Object.single, Object.erase,
      entriesScalars]

theorem valid_child {document : Document} (h : (Json.obj document).Valid) {child : Json}
    (hchild : child ∈ childrenOf document) : child.Valid := by
  rw [Valid, entriesValid_iff] at h
  unfold childrenOf at hchild
  split at hchild
  · next children hget =>
    have hlist := h.2 _ (Object.mem_of_get? hget)
    rw [Valid, itemsValid_iff] at hlist
    exact hlist child hchild
  · cases hchild

theorem updateLoss_perm {document : Document} (h : (Json.obj document).Valid) :
    (updateLoss document).Perm
      (((childrenOf document).map childSource).flatMap entriesScalars ++ insertLoss document) := by
  have hvalid := fun child => @valid_child document h child
  unfold updateLoss insertLoss childrenOf at *
  cases hget : Object.get? document "child_documents" with
  | none => simp
  | some value =>
    rw [hget] at hvalid
    cases value with
    | arr children =>
      -- Valid children have distinct names, so taking out the `document` of one loses nothing else.
      have hchildren : (children.flatMap childContent).Perm (children.flatMap fun child =>
          entriesScalars (childSource child) ++ childLoss child) :=
        List.Perm.flatMap_left children fun child hchild => childContent_perm (hvalid child hchild)
      have hsplit := List.flatMap_append_perm children (fun child =>
        entriesScalars (childSource child)) childLoss
      rw [List.flatMap_map]
      exact hchildren.trans hsplit.symm
    | _ => simp [childrenContent, childrenLoss]

theorem content_perm_update {document : Document} (h : (Json.obj document).Valid) :
    (content document).Perm (storedScalars [bodyOf document] ++ updateLoss document) := by
  rw [Valid] at h
  have hcontent := content_perm (Object.Sorted.distinct h.1)
  rwa [storedScalars, List.flatMap_singleton]

/-- The documents that an insert makes of one document. -/
def insertedOf (document : Document) : List Document :=
  (childrenOf document).map childSource ++ [bodyOf document]

theorem content_perm_insert {document : Document} (h : (Json.obj document).Valid) :
    (content document).Perm (storedScalars (insertedOf document) ++ insertLoss document) := by
  have hchildren := updateLoss_perm h
  have hcontent := content_perm_update h
  have hstored : storedScalars (insertedOf document) =
      ((childrenOf document).map childSource).flatMap entriesScalars ++
        storedScalars [bodyOf document] := by
    rw [storedScalars, insertedOf, List.flatMap_append, storedScalars]
  calc
    List.Perm (content document) (storedScalars [bodyOf document] ++ updateLoss document) :=
      hcontent
    List.Perm _ (storedScalars [bodyOf document] ++ (((childrenOf document).map
        childSource).flatMap entriesScalars ++ insertLoss document)) := hchildren.append_left _
    List.Perm _ (storedScalars (insertedOf document) ++ insertLoss document) := by
      rw [hstored, ← List.append_assoc]
      exact List.perm_append_comm.append_right _

/-! ### The three writes -/

section Writes

variable (target : Target) (query : Query) (supply : IdSupply)

theorem sources_blockStep (index : String) (options : RequestOptions) (document : Document)
    (supply : IdSupply) : ((blockStep index options document).run supply).1.map (·.source) =
      insertedOf document := by
  rw [run_blockStep, run_prepare]
  dsimp only
  rw [List.map_append, map_mapM]
  · rfl
  · intro child supply
    rw [run_childOperation]

theorem sources_insertMany (documents : List Document) :
    ((insertMany target query documents).run supply).1.operations.map (·.source) =
      documents.flatMap insertedOf := by
  rw [operations_insertMany, List.map_flatten, map_mapM _ (sources_blockStep _ _),
    List.flatMap_def]

theorem sourcesOf_insert (document : Document) :
    sourcesOf ((insert target query document).run supply).1 = insertedOf document := by
  have hblock := sources_blockStep (target.indexName query.collection) query.options document supply
  rw [run_blockStep] at hblock
  rw [← hblock]
  rcases insert_cases target query document supply with ⟨-, hnone, hrequest⟩ | ⟨-, hrequest⟩
  · rw [hrequest]
    simp [sourcesOf, hnone, Prepared.request, Prepared.operation]
  · rw [hrequest]
    rfl

theorem body_update (values : Document) :
    ((update target query values).run supply).1.body = bodyOf values := by
  simp only [run_update, run_prepare]
  rfl

/-- `Balanced content stored lost`: the content is what is stored and what is lost, each scalar as
often as it occurs. So it is kept exactly when what is lost is also stored somewhere else. -/
def Balanced (content stored lost : List Json) : Prop :=
  content.Perm (stored ++ lost) ∧
    ((∀ value ∈ content, value ∈ stored) ↔ ∀ value ∈ lost, value ∈ stored)

theorem balanced_of_perm {content stored lost : List Json} (h : content.Perm (stored ++ lost)) :
    Balanced content stored lost := by
  refine ⟨h, ?_⟩
  constructor
  · intro hkept value hvalue
    exact hkept value (h.mem_iff.mpr (List.mem_append_right _ hvalue))
  · intro hlost value hvalue
    rcases List.mem_append.mp (h.mem_iff.mp hvalue) with hstored | hvalue
    · exact hstored
    · exact hlost value hvalue

theorem content_perm_insertMany {documents : List Document}
    (h : ∀ document ∈ documents, (Json.obj document).Valid) :
    (documents.flatMap content).Perm
      (storedScalars (documents.flatMap insertedOf) ++ documents.flatMap insertLoss) := by
  have hall : (documents.flatMap content).Perm (documents.flatMap fun document =>
      storedScalars (insertedOf document) ++ insertLoss document) :=
    List.Perm.flatMap_left documents fun document hdocument =>
      content_perm_insert (h document hdocument)
  rw [storedScalars, List.flatMap_assoc]
  exact hall.trans (List.flatMap_append_perm documents _ insertLoss).symm

/-- The content of a document, or of several, is kept by a write exactly when every scalar of what
the write leaves out is stored somewhere else. -/
theorem writes_keep_content_iff {document : Document} {documents : List Document}
    (hdocument : (Json.obj document).Valid)
    (hdocuments : ∀ document ∈ documents, (Json.obj document).Valid) :
    Balanced (content document)
        (storedScalars (sourcesOf ((insert target query document).run supply).1))
        (insertLoss document) ∧
      Balanced (documents.flatMap content)
        (storedScalars
          (((insertMany target query documents).run supply).1.operations.map (·.source)))
        (documents.flatMap insertLoss) ∧
      Balanced (content document)
        (storedScalars [((update target query document).run supply).1.body])
        (updateLoss document) := by
  rw [sourcesOf_insert, sources_insertMany, body_update]
  exact ⟨balanced_of_perm (content_perm_insert hdocument),
    balanced_of_perm (content_perm_insertMany hdocuments),
    balanced_of_perm (content_perm_update hdocument)⟩

end Writes

/-- A question with two answers, of which one has an id and one has none. -/
def answeredQuestion : Document :=
  [("_id", .str "q1"),
    ("child_documents", .arr [
      .obj [("document", .single "body" (.str "Like this")), ("id", .int 1)],
      .single "body" (.str "Or that")]),
    ("title", .str "How?")]

theorem answeredQuestion_valid : (Json.obj answeredQuestion).Valid := by
  simp only [answeredQuestion, Json.single, Object.single, Valid, EntriesValid, ItemsValid,
    Object.Sorted]
  decide

theorem writes_keep_content_iff_answeredQuestion :
    let written := ((insert {} { collection := "posts" } answeredQuestion).run {}).1
    (Json.obj answeredQuestion).Valid ∧
      ∀ value ∈ content answeredQuestion, value ∈ storedScalars (sourcesOf written) := by
  obtain ⟨⟨-, hkept⟩, -⟩ := @writes_keep_content_iff {} { collection := "posts" } {}
    answeredQuestion [answeredQuestion] answeredQuestion_valid (by simp [answeredQuestion_valid])
  refine ⟨answeredQuestion_valid, hkept.mpr ?_⟩
  intro value hvalue
  cases hvalue

/-- A question with an answer that is no object. -/
def plainAnswer : Document :=
  [("_id", .str "q1"), ("child_documents", .arr [.str "Like this"])]

/-- The child is written without the text that it has. -/
theorem insert_loses_plainAnswer :
    (Json.obj plainAnswer).Valid ∧ .str "Like this" ∈ content plainAnswer ∧ .str "Like this" ∉
      storedScalars (sourcesOf ((insert {} { collection := "posts" } plainAnswer).run {}).1) := by
  rw [sourcesOf_insert]
  refine ⟨?_, List.mem_singleton_self _, List.not_mem_nil⟩
  simp only [plainAnswer, Valid, EntriesValid, ItemsValid, Object.Sorted]
  decide

end Dsl

end SearchQuery
