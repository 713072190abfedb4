import Mathlib.Data.List.Forall2
import SearchQuery.Proofs.Json.Valid
import SearchQuery.Response
/-!
# Ids of hits

The document of a hit has the id of the hit, over any id in the source. The entry of an inner hit is
put together the other way round: an id in its source wins over the id of the inner hit. All other
fields are those of the source, and no inner hit is lost.
-/

namespace SearchQuery

/-- The hits that the documents of a response are made from. -/
def hitsRead (response : Json) : List Json :=
  if (response.field? "found").bind Json.bool? = some true then [response] else hitsOf response

def hitObjects (response : Json) : List Object := (hitsRead response).filterMap Json.obj?

/-- The groups of inner hits of a hit, if they are wanted. -/
def wantedGroups (includeInnerHits : Bool) (hit : Object) : Option Object :=
  if includeInnerHits then (Object.get? hit "inner_hits").bind Json.obj? else none

def wantedInnerHits (includeInnerHits : Bool) (hit : Object) : List Json :=
  ((wantedGroups includeInnerHits hit).getD []).flatMap fun group => hitsOf group.2

def innerSource (inner : Json) : Object :=
  match inner.field? "_source" with
  | some (.obj source) => source
  | _ => []

/-- Whether an entry has the fields of the source of an inner hit, its id left aside. -/
def KeepsSource (inner entry : Json) : Prop :=
  ∃ fields, entry = .obj fields ∧
    ∀ name, name ≠ "_id" → Object.get? fields name = Object.get? (innerSource inner) name

/-- Whether an entry has the fields of the source of an inner hit and the id of that inner hit. -/
def KeepsIdentity (inner entry : Json) : Prop :=
  KeepsSource inner entry ∧
    ∀ id, inner.field? "_id" = some id → entry.field? "_id" = some id

/-- Whether a document has the id of a hit, the fields of its source, and for each of its inner hits,
in their groups and in order, an entry that `keeps` what it should. -/
structure IsDocumentOf (keeps : Json → Json → Prop) (includeInnerHits : Bool) (hit : Object)
    (document : Document) : Prop where
  id : ∀ id, Object.get? hit "_id" = some id → Object.get? document "id" = some id
  source : ∀ name, name ≠ "id" → name ≠ "inner_hits" →
    Object.get? document name = Object.get? (hitSource hit) name
  innerHits : ∀ groups, wantedGroups includeInnerHits hit = some groups →
    ∃ grouped, Object.get? document "inner_hits" = some (.obj grouped) ∧
      List.Forall₂ (fun group entry => entry.1 = group.1 ∧
        ∃ items, entry.2 = .arr items ∧ List.Forall₂ keeps (hitsOf group.2) items) groups grouped

/-- Whether the source of an inner hit has no id, or the id of the inner hit. -/
def SourceAgrees (inner : Json) : Prop :=
  ∀ id, inner.field? "_id" = some id →
    ∀ other, Object.get? (innerSource inner) "_id" = some other → other = id

/-! ### Inner hits -/

theorem innerHitEntry_eq (inner : Json) : ∃ fields, innerHitEntry inner = .obj fields ∧
    ∀ name, Object.get? fields name = (Object.last? (innerSource inner) name).or
      (if name = "_id" then inner.field? "_id" else none) := by
  refine ⟨_, rfl, fun name => ?_⟩
  rw [Object.get?_foldl_insert]
  congr 1
  cases inner.field? "_id" with
  | none => simp
  | some id => simp [Object.single, eq_comm]

theorem keepsSource_innerHitEntry {inner : Json} (h : Object.Distinct (innerSource inner)) :
    KeepsSource inner (innerHitEntry inner) := by
  obtain ⟨fields, hentry, hfields⟩ := innerHitEntry_eq inner
  refine ⟨fields, hentry, fun name hname => ?_⟩
  rw [hfields, if_neg hname, Option.or_none, Object.last?_eq_get? h]

theorem keepsIdentity_innerHitEntry_iff {inner : Json} (h : Object.Distinct (innerSource inner)) :
    KeepsIdentity inner (innerHitEntry inner) ↔ SourceAgrees inner := by
  obtain ⟨fields, hentry, hfields⟩ := innerHitEntry_eq inner
  have hid : (innerHitEntry inner).field? "_id" =
      (Object.get? (innerSource inner) "_id").or (inner.field? "_id") := by
    rw [hentry, Json.field?, hfields, if_pos rfl, Object.last?_eq_get? h]
  rw [KeepsIdentity, and_iff_right (keepsSource_innerHitEntry h), hid]
  refine forall₂_congr fun id hown => ?_
  rw [hown]
  cases Object.get? (innerSource inner) "_id" with
  | none => simp
  | some other => simp

theorem forall₂_groupedInnerHits {keeps : Json → Json → Prop} (groups : Object) :
    (∃ grouped, groupedInnerHits groups = .obj grouped ∧
      List.Forall₂ (fun group entry => entry.1 = group.1 ∧
        ∃ items, entry.2 = .arr items ∧ List.Forall₂ keeps (hitsOf group.2) items) groups grouped) ↔
      ∀ group ∈ groups, ∀ inner ∈ hitsOf group.2, keeps inner (innerHitEntry inner) := by
  simp only [groupedInnerHits, Json.obj.injEq, exists_eq_left', List.forall₂_map_right_iff,
    List.forall₂_same, Json.arr.injEq, true_and]

/-! ### Documents -/

/-- The document of a hit that is an object. -/
def objectDocument (includeInnerHits : Bool) (hit : Object) : Document :=
  (documentOfHit includeInnerHits (.obj hit)).getD []

theorem documentOfHit_eq_map (includeInnerHits : Bool) (hit : Json) :
    documentOfHit includeInnerHits hit = hit.obj?.map (objectDocument includeInnerHits) := by
  cases hit with
  | obj hit =>
    rw [Json.obj?, Option.map_some, objectDocument]
    simp only [documentOfHit]
    split <;> rfl
  | _ => rfl

theorem documentsOf_eq_map (includeInnerHits : Bool) (response : Json) :
    documentsOf includeInnerHits response =
      (hitObjects response).map (objectDocument includeInnerHits) := by
  have hread : documentsOf includeInnerHits response =
      (hitsRead response).filterMap (documentOfHit includeInnerHits) := by
    rw [documentsOf, hitsRead]
    split
    · cases hdocument : documentOfHit includeInnerHits response with
      | none => simp [hdocument]
      | some document => simp [hdocument]
    · rfl
  rw [hread, hitObjects, List.map_filterMap]
  exact List.filterMap_congr fun hit _ => documentOfHit_eq_map includeInnerHits hit

theorem objectDocument_eq (includeInnerHits : Bool) (hit : Object) : ∃ identified,
    objectDocument includeInnerHits hit =
      (wantedGroups includeInnerHits hit).elim identified (fun groups =>
        Object.insert identified "inner_hits" (groupedInnerHits groups)) ∧
    (∀ id, Object.get? hit "_id" = some id → Object.get? identified "id" = some id) ∧
    ∀ name, name ≠ "id" → Object.get? identified name = Object.get? (hitSource hit) name := by
  refine ⟨(Object.get? hit "_id").elim (hitSource hit) (Object.insert (hitSource hit) "id"),
    ?_, ?_, ?_⟩
  · rw [objectDocument, wantedGroups]
    simp only [documentOfHit]
    cases includeInnerHits with
    | false => cases Object.get? hit "_id" <;> rfl
    | true =>
      cases Object.get? hit "inner_hits" with
      | none => cases Object.get? hit "_id" <;> rfl
      | some value => cases value <;> cases Object.get? hit "_id" <;> rfl
  · intro id hid
    rw [hid, Option.elim_some, Object.get?_insert, if_pos rfl]
  · intro name hname
    cases Object.get? hit "_id" with
    | none => rfl
    | some id => rw [Option.elim_some, Object.get?_insert, if_neg (Ne.symm hname)]

/-- Only the entries of inner hits may keep less than they should. -/
theorem isDocumentOf_objectDocument_iff {keeps : Json → Json → Prop} (includeInnerHits : Bool)
    (hit : Object) :
    IsDocumentOf keeps includeInnerHits hit (objectDocument includeInnerHits hit) ↔
      ∀ inner ∈ wantedInnerHits includeInnerHits hit, keeps inner (innerHitEntry inner) := by
  obtain ⟨identified, hdocument, hid, hothers⟩ := objectDocument_eq includeInnerHits hit
  rw [hdocument, wantedInnerHits]
  cases hgroups : wantedGroups includeInnerHits hit with
  | none =>
    rw [Option.elim_none]
    refine iff_of_true ⟨hid, fun name hname _ => hothers name hname, ?_⟩ (by simp)
    intro groups h
    rw [hgroups] at h
    cases h
  | some groups =>
    have hinner : Object.get? (Object.insert identified "inner_hits" (groupedInnerHits groups))
        "inner_hits" = some (groupedInnerHits groups) := by
      rw [Object.get?_insert, if_pos rfl]
    have hother : ∀ name, name ≠ "inner_hits" →
        Object.get? (Object.insert identified "inner_hits" (groupedInnerHits groups)) name =
          Object.get? identified name := by
      intro name hname
      rw [Object.get?_insert, if_neg (Ne.symm hname)]
    rw [Option.elim_some]
    simp only [Option.getD_some, List.mem_flatMap, forall_exists_index, and_imp]
    constructor
    · intro h inner group hgroup hmem
      obtain ⟨grouped, hgrouped, hentries⟩ := h.innerHits groups hgroups
      rw [hinner, Option.some.injEq] at hgrouped
      exact (forall₂_groupedInnerHits groups).mp ⟨grouped, hgrouped, hentries⟩ group hgroup inner
        hmem
    · intro h
      refine ⟨?_, ?_, ?_⟩
      · intro id hown
        rw [hother "id" (by decide)]
        exact hid id hown
      · intro name hname hne
        rw [hother name hne]
        exact hothers name hname
      · intro others hothers
        obtain rfl : groups = others := Option.some.inj (hgroups.symm.trans hothers)
        rw [hinner]
        obtain ⟨grouped, hgrouped, hentries⟩ := (forall₂_groupedInnerHits groups).mpr
          fun group hgroup inner hmem => h inner group hgroup hmem
        exact ⟨grouped, congrArg some hgrouped, hentries⟩

/-! ### Valid responses -/

theorem Json.Valid.of_mem_hitsOf {response hit : Json} (h : response.Valid)
    (hhit : hit ∈ hitsOf response) : hit.Valid := by
  unfold hitsOf at hhit
  split at hhit
  · next hits hfound =>
    obtain ⟨outer, houter, hinner⟩ := Option.bind_eq_some_iff.mp hfound
    have hlist := (h.field? houter).field? hinner
    rw [Json.Valid, Json.itemsValid_iff] at hlist
    exact hlist hit hhit
  · cases hhit

theorem valid_of_mem_hitObjects {response : Json} (h : response.Valid) {hit : Object}
    (hhit : hit ∈ hitObjects response) : (Json.obj hit).Valid := by
  obtain ⟨value, hvalue, hobject⟩ := List.mem_filterMap.mp hhit
  cases value with
  | obj entries =>
    cases hobject
    unfold hitsRead at hvalue
    split at hvalue
    · rwa [List.mem_singleton.mp hvalue]
    · exact h.of_mem_hitsOf hvalue
  | _ => cases hobject

theorem valid_of_mem_wantedInnerHits {includeInnerHits : Bool} {hit : Object}
    (h : (Json.obj hit).Valid) {inner : Json}
    (hinner : inner ∈ wantedInnerHits includeInnerHits hit) : inner.Valid := by
  unfold wantedInnerHits wantedGroups at hinner
  split at hinner
  · cases hgroups : (Object.get? hit "inner_hits").bind Json.obj? with
    | none =>
      rw [hgroups] at hinner
      cases hinner
    | some groups =>
      rw [hgroups] at hinner
      obtain ⟨group, hgroup, hmem⟩ := List.mem_flatMap.mp hinner
      obtain ⟨value, hvalue, hobject⟩ := Option.bind_eq_some_iff.mp hgroups
      cases value with
      | obj entries =>
        cases hobject
        have hvalid := Json.Valid.field? h hvalue
        rw [Json.Valid, Json.entriesValid_iff] at hvalid
        exact (hvalid.2 group hgroup).of_mem_hitsOf hmem
      | _ => cases hobject
  · cases hinner

theorem distinct_innerSource {inner : Json} (h : inner.Valid) :
    Object.Distinct (innerSource inner) := by
  unfold innerSource
  split
  · next source hsource =>
    have hvalid := h.field? hsource
    rw [Json.Valid] at hvalid
    exact hvalid.1.distinct
  · exact List.nodup_nil

/-- The documents of a response have the ids of their hits and the fields of their sources, and an
entry for each inner hit that is wanted, with the fields of its source. Those entries have the ids
of their inner hits too exactly if no source has another one. -/
theorem documents_identified_iff (includeInnerHits : Bool) {response : Json}
    (hvalid : response.Valid) :
    let documents := (SearchResults.ofResponse includeInnerHits response).documents
    List.Forall₂ (IsDocumentOf KeepsSource includeInnerHits) (hitObjects response) documents ∧
      (List.Forall₂ (IsDocumentOf KeepsIdentity includeInnerHits) (hitObjects response) documents ↔
        ∀ hit ∈ hitObjects response, ∀ inner ∈ wantedInnerHits includeInnerHits hit,
          SourceAgrees inner) := by
  have hdistinct : ∀ hit ∈ hitObjects response,
      ∀ inner ∈ wantedInnerHits includeInnerHits hit, Object.Distinct (innerSource inner) :=
    fun hit hhit inner hinner => distinct_innerSource
      (valid_of_mem_wantedInnerHits (valid_of_mem_hitObjects hvalid hhit) hinner)
  have hkeeps (keeps : Json → Json → Prop) :
      List.Forall₂ (IsDocumentOf keeps includeInnerHits) (hitObjects response)
        (SearchResults.ofResponse includeInnerHits response).documents ↔
          ∀ hit ∈ hitObjects response, ∀ inner ∈ wantedInnerHits includeInnerHits hit,
            keeps inner (innerHitEntry inner) := by
    rw [SearchResults.ofResponse, documentsOf_eq_map, List.forall₂_map_right_iff, List.forall₂_same]
    exact forall₂_congr fun hit _ => isDocumentOf_objectDocument_iff includeInnerHits hit
  -- Both parts are now about one inner hit and its entry.
  constructor
  · rw [hkeeps]
    exact fun hit hhit inner hinner => keepsSource_innerHitEntry (hdistinct hit hhit inner hinner)
  · rw [hkeeps]
    exact forall₂_congr fun hit hhit => forall₂_congr fun inner hinner =>
      keepsIdentity_innerHitEntry_iff (hdistinct hit hhit inner hinner)

/-- A question with an id in its source, found with an answer in whose source there is an id. -/
def foundQuestion (sourceId : String) : Json :=
  .single "hits" (.single "hits" (.arr [.obj [
    ("_id", .str "q1"),
    ("_source", .obj [("id", .int 7), ("title", .str "How?")]),
    ("inner_hits", .single "answers" (.single "hits" (.single "hits" (.arr [.obj [
      ("_id", .str "a1"),
      ("_source", .obj [("_id", .str sourceId), ("body", .str "So")])]]))))]]))

theorem foundQuestion_valid (sourceId : String) : (foundQuestion sourceId).Valid := by
  simp only [foundQuestion, Json.single, Object.single, Json.Valid, Json.EntriesValid,
    Json.ItemsValid, Object.Sorted, List.pairwise_cons, List.Pairwise.nil, List.mem_cons,
    forall_eq_or_imp, forall_eq, List.not_mem_nil, false_imp_iff, implies_true, or_false, and_true,
    true_and]
  decide

theorem documents_identified_iff_foundQuestion :
    (foundQuestion "a1").Valid ∧
      List.Forall₂ (IsDocumentOf KeepsIdentity true) (hitObjects (foundQuestion "a1"))
        (SearchResults.ofResponse true (foundQuestion "a1")).documents := by
  refine ⟨foundQuestion_valid "a1",
    (documents_identified_iff true (foundQuestion_valid "a1")).2.mpr ?_⟩
  intro hit hhit inner hinner id hid other hother
  obtain rfl := List.mem_singleton.mp hhit
  obtain rfl := List.mem_singleton.mp hinner
  cases hid
  cases hother
  rfl

/-- The answer is entered under the id in its source, where it has another one. -/
theorem inner_hit_loses_id :
    (foundQuestion "x").Valid ∧
      (SearchResults.ofResponse true (foundQuestion "x")).documents =
        [[("id", .str "q1"),
          ("inner_hits", .single "answers" (.arr [.obj [("_id", .str "x"), ("body", .str "So")]])),
          ("title", .str "How?")]] ∧
      ¬ List.Forall₂ (IsDocumentOf KeepsIdentity true) (hitObjects (foundQuestion "x"))
        (SearchResults.ofResponse true (foundQuestion "x")).documents := by
  refine ⟨foundQuestion_valid "x", rfl, ?_⟩
  intro h
  obtain ⟨hdocument, -⟩ := List.forall₂_cons.mp h
  obtain ⟨grouped, hgrouped, hentries⟩ := hdocument.innerHits _ rfl
  cases hgrouped
  obtain ⟨⟨-, items, hitems, hkept⟩, -⟩ := List.forall₂_cons.mp hentries
  cases hitems
  obtain ⟨⟨-, hid⟩, -⟩ := List.forall₂_cons.mp hkept
  have hsame := hid (.str "a1") rfl
  exact absurd (Json.str.inj (Option.some.inj hsame)) (by decide)

end SearchQuery
