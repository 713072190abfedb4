import SearchQuery.Proofs.Dsl.Prepared
import SearchQuery.Response
/-!
# Reading what was written

A document without children that is written and then found again, by its id or by a search, is the
document under the id that it was written with, without what says where it is stored. Written once
more it gives the same request.
-/

namespace SearchQuery

/-- Whether a value is the hit of a document that was written. -/
def IsHitOf (request : IndexRequest) (hit : Json) : Prop :=
  ∃ fields, hit = .obj fields ∧ Object.get? fields "_id" = some (.str request.id) ∧
    Object.get? fields "_source" = some (.obj request.body) ∧
    Object.get? fields "inner_hits" = none

/-- Whether a response is the answer to a look-up that found a document that was written. -/
def AnswersLookUp (request : IndexRequest) (response : Json) : Prop :=
  IsHitOf request response ∧ response.field? "found" = some (.bool true)

/-- Whether a response is the answer to a search that found one document, which was written. -/
def AnswersSearch (request : IndexRequest) (response : Json) : Prop :=
  response.field? "found" ≠ some (.bool true) ∧
    ∃ hits hit, response.field? "hits" = some hits ∧ hits.field? "hits" = some (.arr [hit]) ∧
      IsHitOf request hit

theorem documentOfHit_of_isHitOf {request : IndexRequest} {hit : Json} (h : IsHitOf request hit)
    (includeInnerHits : Bool) : documentOfHit includeInnerHits hit =
      some (Object.insert request.body "id" (.str request.id)) := by
  obtain ⟨fields, rfl, hid, hsource, hinner⟩ := h
  cases includeInnerHits <;> simp only [documentOfHit, hitSource, hid, hsource, hinner]

theorem documentsOf_of_answersLookUp {request : IndexRequest} {response : Json}
    (h : AnswersLookUp request response) (includeInnerHits : Bool) :
    documentsOf includeInnerHits response =
      [Object.insert request.body "id" (.str request.id)] := by
  obtain ⟨hhit, hfound⟩ := h
  rw [documentsOf, if_pos (by rw [hfound]; rfl), documentOfHit_of_isHitOf hhit]
  rfl

theorem documentsOf_of_answersSearch {request : IndexRequest} {response : Json}
    (h : AnswersSearch request response) (includeInnerHits : Bool) :
    documentsOf includeInnerHits response =
      [Object.insert request.body "id" (.str request.id)] := by
  obtain ⟨hfound, hits, hit, hhits, hlist, hhit⟩ := h
  have hhitsOf : hitsOf response = [hit] := by
    simp only [hitsOf, hhits, Option.bind_some, hlist]
  rw [documentsOf, if_neg (mt Json.bind_bool?_eq_true_iff.mp hfound), hhitsOf, List.filterMap_cons, documentOfHit_of_isHitOf hhit]
  rfl

namespace Dsl

/-- The fields of a document that a reader does not get back. -/
def placeNames : List String := ["_id", "child_documents", "_routing", "_parent"]

/-- The document that is read back where a document was written under an id. -/
def readBack (document : Document) (id : String) : Document :=
  Object.insert (document.filter (·.1 ∉ placeNames)) "id" (.str id)

theorem get?_bodyOf (document : Document) (name : String) : Object.get? (bodyOf document) name =
    if name ∈ metadataNames then none else Object.get? document name := by
  have h := Object.get?_filter document (· ∉ metadataNames) name
  rw [bodyOf, h]
  by_cases hname : name ∈ metadataNames <;> simp [hname]

theorem get?_readBack (document : Document) (id name : String) :
    Object.get? (readBack document id) name =
      if "id" = name then some (.str id)
      else if name ∈ placeNames then none else Object.get? document name := by
  have h := Object.get?_filter document (· ∉ placeNames) name
  rw [readBack, Object.get?_insert, h]
  by_cases hname : name ∈ placeNames <;> simp [hname]

/-- What was read back is known by the id that it was written under. -/
theorem identity?_readBack (document : Document) (id : String) :
    identity? (readBack document id) = some (.str id) := by
  have hunderscore : Object.get? (readBack document id) "_id" = none := by
    rw [get?_readBack, if_neg (by decide), if_pos (by decide)]
  have hid : Object.get? (readBack document id) "id" = some (.str id) := by
    rw [get?_readBack, if_pos rfl]
  simp only [identity?, List.findSome?_cons, hunderscore, hid]
  rfl

theorem childrenOf_readBack (document : Document) (id : String) :
    childrenOf (readBack document id) = [] := by
  have hnone : Object.get? (readBack document id) "child_documents" = none := by
    rw [get?_readBack, if_neg (by decide), if_pos (by decide)]
  simp only [childrenOf, hnone]

section Sorted

variable {document : Document} (hsorted : Object.Sorted document)

include hsorted

theorem sorted_bodyOf : Object.Sorted (bodyOf document) := hsorted.filter _

theorem sorted_readBack (id : String) : Object.Sorted (readBack document id) :=
  Object.Sorted.insert (hsorted.filter _) "id" (.str id)

theorem insert_bodyOf (id : String) :
    Object.insert (bodyOf document) "id" (.str id) = readBack document id := by
  apply Object.Sorted.ext ((sorted_bodyOf hsorted).insert _ _) (sorted_readBack hsorted id)
  intro name
  rw [Object.get?_insert, get?_bodyOf, get?_readBack]
  by_cases hid : "id" = name
  · rw [if_pos hid, if_pos hid]
  · have hnames : name ∈ metadataNames ↔ name ∈ placeNames := by
      simp [metadataNames, placeNames, Ne.symm hid]
    simp only [hid, if_false, hnames]

theorem bodyOf_readBack (id : String) : bodyOf (readBack document id) = bodyOf document := by
  apply Object.Sorted.ext (sorted_bodyOf (sorted_readBack hsorted id)) (sorted_bodyOf hsorted)
  intro name
  rw [get?_bodyOf, get?_bodyOf, get?_readBack]
  by_cases hmetadata : name ∈ metadataNames
  · rw [if_pos hmetadata, if_pos hmetadata]
  · have hid : "id" ≠ name := by
      rintro rfl
      simp [metadataNames] at hmetadata
    have hplace : name ∉ placeNames := by
      intro hname
      simp only [placeNames, List.mem_cons, List.not_mem_nil, or_false] at hname
      rcases hname with rfl | rfl | rfl | rfl <;> simp [metadataNames] at hmetadata
    simp only [hmetadata, hid, hplace, if_false]

/-- A document with a text for its id and nothing that says where it is stored is read back as it
is. -/
theorem readBack_of_plain {id : String} (hid : Object.get? document "id" = some (.str id))
    (hplain : ∀ name ∈ placeNames, Object.get? document name = none) :
    readBack document id = document := by
  apply Object.Sorted.ext (sorted_readBack hsorted id) hsorted
  intro name
  rw [get?_readBack]
  by_cases hname : "id" = name
  · rw [if_pos hname, ← hname, hid]
  · rw [if_neg hname]
    by_cases hplace : name ∈ placeNames
    · rw [if_pos hplace, hplain name hplace]
    · rw [if_neg hplace]

end Sorted

variable (target : Target) (query : Query) (supply : IdSupply)

theorem insert_of_no_children {document : Document} (h : childrenOf document = []) :
    ∃ request, ((insert target query document).run supply).1 = .index request ∧
      request.index = target.indexName query.collection ∧
      request.id = ((idOf document).run supply).1 ∧ request.body = bodyOf document := by
  simp only [run_insert, run_prepare, h]
  exact ⟨_, rfl, rfl, rfl, rfl⟩

/-- Whether two requests write the same document to the same place. -/
def SameDocument (first second : IndexRequest) : Prop :=
  second.index = first.index ∧ second.id = first.id ∧ second.body = first.body

theorem rewrites_readBack {document : Document} (hsorted : Object.Sorted document)
    {request : IndexRequest} (hindex : request.index = target.indexName query.collection)
    (hbody : request.body = bodyOf document) :
    (∃ rewritten, ((insert target query (readBack document request.id)).run supply).1 =
        .index rewritten ∧ SameDocument request rewritten) ∧
      SameDocument request
        ((update target query (readBack document request.id)).run supply).1 := by
  have hid := run_idOf_of_identity supply (identity?_readBack document request.id)
  have hsame := bodyOf_readBack hsorted request.id
  constructor
  · obtain ⟨rewritten, hrewritten, hagain, hown, hcontent⟩ :=
      insert_of_no_children target query supply (childrenOf_readBack document request.id)
    refine ⟨rewritten, hrewritten, hagain.trans hindex.symm, ?_, ?_⟩
    · rw [hown, hid]
      rfl
    · rw [hcontent, hsame, hbody]
  · simp only [run_update, run_prepare, hid, hsame]
    exact ⟨hindex.symm, rfl, hbody.symm⟩

/-- A document without children is written by one request. What is found under the id of the
request, by a look-up or a search, is the document with that id and without what says where it is
stored; it is the document itself if that has a text for its id and no such fields. Written again,
for any query on the collection, it gives the same index, id and body. -/
theorem insert_then_read {document : Document} (hsorted : Object.Sorted document)
    (hchildren : Object.get? document "child_documents" = none ∨
      Object.get? document "child_documents" = some (.arr [])) :
    ∃ request, ((insert target query document).run supply).1 = .index request ∧
      (∀ response, AnswersLookUp request response ∨ AnswersSearch request response →
        ∀ includeInnerHits, (SearchResults.ofResponse includeInnerHits response).documents =
          [readBack document request.id]) ∧
      (∀ id, Object.get? document "id" = some (.str id) →
        (∀ name ∈ placeNames, Object.get? document name = none) →
        readBack document request.id = document) ∧
      ∀ again : Query, again.collection = query.collection → ∀ later,
        (∃ rewritten, ((insert target again (readBack document request.id)).run later).1 =
          .index rewritten ∧ SameDocument request rewritten) ∧
        SameDocument request
          ((update target again (readBack document request.id)).run later).1 := by
  have hnone : childrenOf document = [] := by
    rcases hchildren with h | h <;> simp only [childrenOf, h]
  obtain ⟨request, hrequest, hindex, hid, hbody⟩ := insert_of_no_children target query supply hnone
  refine ⟨request, hrequest, ?_, ?_, ?_⟩
  · intro response hresponse includeInnerHits
    rw [← insert_bodyOf hsorted, ← hbody]
    rcases hresponse with h | h
    · exact documentsOf_of_answersLookUp h includeInnerHits
    · exact documentsOf_of_answersSearch h includeInnerHits
  · intro id hown hplain
    have hidentity : identity? document = some (.str id) := by
      simp only [identity?, List.findSome?_cons, hown, hplain "_id" (by decide)]
      rfl
    rw [hid, run_idOf_of_identity supply hidentity]
    exact readBack_of_plain hsorted hown hplain
  · intro again hcollection later
    exact rewrites_readBack target again later hsorted (by rw [hindex, hcollection]) hbody

/-- A document with a number for its id and a routing, and an empty list of children. -/
def routedDocument : Document :=
  [("_routing", .str "r"), ("child_documents", .arr []), ("id", .int 7), ("title", .str "a")]

/-- The answer to a search that found the document with an id and a source. -/
def foundBySearch (id : String) (source : Document) : Json :=
  .single "hits" (.single "hits" (.arr [.obj [("_id", .str id), ("_source", .obj source)]]))

theorem insert_then_read_routedDocument :
    Object.Sorted routedDocument ∧
      (SearchResults.ofResponse true (foundBySearch "7" [("title", .str "a")])).documents =
        [[("id", .str "7"), ("title", .str "a")]] := by
  have hsorted : Object.Sorted routedDocument := by
    unfold Object.Sorted
    decide
  obtain ⟨request, hrequest, hread, -⟩ :=
    @insert_then_read {} { collection := "posts" } {} routedDocument hsorted (.inr rfl)
  have hwritten : request = ⟨"posts", "7", [("title", .str "a")], some "r", none, false⟩ :=
    (WriteRequest.index.inj hrequest).symm
  subst hwritten
  have hfound : (foundBySearch "7" [("title", .str "a")]).field? "found" ≠ some (.bool true) := by
    simp [foundBySearch, Json.single, Object.single, Json.field?, Object.get?]
  exact ⟨hsorted, hread _ (.inr ⟨hfound, _, _, rfl, rfl, _, rfl, rfl, rfl, rfl⟩) true⟩

end Dsl

end SearchQuery
