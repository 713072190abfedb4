import Mathlib.Data.List.Forall2
import Mathlib.Data.List.Nodup
import SearchQuery.Dsl.Write
import SearchQuery.Http.Percent
import SearchQuery.Proofs.Json.Object
/-!
# Documents taken apart

What a write makes of one document, whatever supply its ids come from: the id, the writes of the
children, and the body that is left. A supply that has no id twice gives out different ids, however
the steps that take ids from it are put together.
-/

namespace SearchQuery

namespace IdSupply

/-- Whether an id is one that a supply gives out from one of its states to another. -/
def Gives (before after : IdSupply) (id : String) : Prop :=
  ∃ n, before.used ≤ n ∧ n < after.used ∧ before.text n = id

/-- `before.Issues after ids`: on its way from one state to another a supply gives out the ids, each
of them once. -/
structure Issues (before after : IdSupply) (ids : List String) : Prop where
  text : after.text = before.text
  le : before.used ≤ after.used
  given : ∀ id ∈ ids, before.Gives after id
  nodup : Function.Injective before.text → ids.Nodup

variable {first second third : IdSupply} {ids more : List String} {id : String}

theorem Gives.mono_right (h : first.Gives second id) (hle : second.used ≤ third.used) :
    first.Gives third id := by
  obtain ⟨n, hlow, hhigh, htext⟩ := h
  exact ⟨n, hlow, by omega, htext⟩

theorem Gives.mono_left (h : second.Gives third id) (htext : second.text = first.text)
    (hle : first.used ≤ second.used) : first.Gives third id := by
  obtain ⟨n, hlow, hhigh, hid⟩ := h
  exact ⟨n, by omega, hhigh, by rw [← htext, hid]⟩

theorem Issues.nil (supply : IdSupply) : supply.Issues supply [] where
  text := rfl
  le := Nat.le_refl _
  given := by simp
  nodup := by simp

theorem Issues.append (hfirst : first.Issues second ids) (hsecond : second.Issues third more) :
    first.Issues third (ids ++ more) where
  text := hsecond.text.trans hfirst.text
  le := Nat.le_trans hfirst.le hsecond.le
  given := by
    intro id hid
    rcases List.mem_append.mp hid with hid | hid
    · exact (hfirst.given id hid).mono_right hsecond.le
    · exact (hsecond.given id hid).mono_left hfirst.text hfirst.le
  nodup := by
    intro hinjective
    have hdisjoint : ids.Disjoint more := by
      intro id hid hmore
      -- The numbers of the two halves lie on different sides of the state between them.
      obtain ⟨n, -, hn, hidn⟩ := hfirst.given id hid
      obtain ⟨m, hm, -, hidm⟩ := hsecond.given id hmore
      have heq : n = m := hinjective (by rw [hidn, ← hfirst.text, hidm])
      omega
    have hmore := hsecond.nodup (by rw [hfirst.text]; exact hinjective)
    exact (hfirst.nodup hinjective).append hmore hdisjoint

theorem Issues.perm (h : first.Issues second ids) (hperm : ids.Perm more) :
    first.Issues second more where
  text := h.text
  le := h.le
  given := fun id hid => h.given id (hperm.mem_iff.mpr hid)
  nodup := fun hinjective => hperm.nodup_iff.mp (h.nodup hinjective)

/-- The number that hexadecimal digits stand for. -/
def numberOf (digits : List Char) : Nat :=
  digits.foldl (fun number digit => 16 * number + (Http.hexValue? digit).getD 0) 0

theorem hexValue?_digitChar : ∀ n : Fin 16, Http.hexValue? (Nat.digitChar n) = some n.val := by
  decide

theorem numberOf_concat (digits : List Char) {n : Nat} (h : n < 16) :
    numberOf (digits ++ [Nat.digitChar n]) = 16 * numberOf digits + n := by
  have hvalue := hexValue?_digitChar ⟨n, h⟩
  dsimp only at hvalue
  simp only [numberOf, List.foldl_append, List.foldl_cons, List.foldl_nil, hvalue, Option.getD_some]

theorem numberOf_toDigits (n : Nat) : numberOf (Nat.toDigits 16 n) = n := by
  induction n using Nat.strongRecOn with
  | ind n ih =>
    rw [Nat.toDigits_eq_if (by decide)]
    split
    · next hlt => simpa [numberOf] using numberOf_concat [] hlt
    · next hge =>
      rw [numberOf_concat _ (Nat.mod_lt _ (by decide)), ih (n / 16) (by omega)]
      omega

theorem numberOf_zeros (count : Nat) (digits : List Char) :
    numberOf (List.replicate count '0' ++ digits) = numberOf digits := by
  induction count with
  | zero => rfl
  | succ count ih => exact ih

theorem toList_idText (n : Nat) : (idText n).toList = "00000000-0000-7000-8000-".toList ++
    (List.replicate (12 - (Nat.toDigits 16 n).length) '0' ++ Nat.toDigits 16 n) := by
  -- A rewrite would take the literal in front for a text made of a list as well.
  have happend (front : String) (chars : List Char) :
      (front ++ String.ofList chars).toList = front.toList ++ chars := by
    rw [String.toList_append, String.toList_ofList]
  exact happend _ _

/-- No two numbers have the same id. -/
theorem idText_injective : Function.Injective idText := by
  intro n m h
  have hlist : (idText n).toList = (idText m).toList := by rw [h]
  rw [toList_idText, toList_idText, List.append_cancel_left_eq] at hlist
  have hnumbers := congrArg numberOf hlist
  rwa [numberOf_zeros, numberOf_zeros, numberOf_toDigits, numberOf_toDigits] at hnumbers

end IdSupply

namespace BulkOperation

/-- What the action of a write has under a name. -/
def field? (operation : BulkOperation) (name : String) : Option Json :=
  (operation.action.field? "index").bind (·.field? name)

def id? (operation : BulkOperation) : Option String := (operation.field? "_id").bind Json.str?

end BulkOperation

namespace Dsl

/-! ### What a document says about itself -/

/-- What an object is known by: the first of `_id` and `id` that it has and that is not null. -/
def identity? (fields : Document) : Option Json :=
  ["_id", "id"].findSome? fun name => (Object.get? fields name).filter (!·.isNull)

theorem ownId?_eq (fields : Document) : ownId? fields = (identity? fields).map Json.plainText := by
  unfold ownId? nonNull? identity?
  simp only [List.findSome?_cons, List.findSome?_nil]
  cases (Object.get? fields "_id").filter (!·.isNull) with
  | some value => rfl
  | none => cases (Object.get? fields "id").filter (!·.isNull) <;> rfl

/-- The id of an object: what it is known by, as plain text, or else a fresh one. -/
def HasId (fresh : String → Prop) (fields : Document) (id : String) : Prop :=
  match identity? fields with
  | some value => id = value.plainText
  | none => fresh id

theorem HasId.mono {fresh other : String → Prop} {fields : Document} {id : String}
    (h : HasId fresh fields id) (hmono : ∀ id, fresh id → other id) : HasId other fields id := by
  unfold HasId at h ⊢
  split
  · next hsome => rwa [hsome] at h
  · next hnone =>
    rw [hnone] at h
    exact hmono id h

/-- The elements of the list of children of a document. -/
def childrenOf (document : Document) : List Json :=
  match Object.get? document "child_documents" with
  | some (.arr children) => children
  | _ => []

/-- The object that an element of the list of children is read as. -/
def childFields : Json → Document
  | .obj entries => entries
  | other => Object.single "document" other

/-- What is stored of an element of the list of children. -/
def childSource (child : Json) : Document :=
  match Object.get? (withoutId (childFields child)) "document" with
  | some (.obj document) => document
  | _ => Object.erase (withoutId (childFields child)) "document"

/-- The fields of a document that are not part of its body. -/
def metadataNames : List String := ["_id", "id", "child_documents", "_routing", "_parent"]

def bodyOf (document : Document) : Document := document.filter (·.1 ∉ metadataNames)

/-! ### Runs -/

variable (supply : IdSupply)

theorem run_idOf_of_identity {fields : Document} {value : Json}
    (h : identity? fields = some value) :
    (idOf fields).run supply = (value.plainText, supply) := by
  rw [idOf, ownId?_eq, h]
  rfl

theorem run_idOf_of_none {fields : Document} (h : identity? fields = none) :
    (idOf fields).run supply = freshId.run supply := by
  rw [idOf, ownId?_eq, h]
  rfl

theorem hasId_idOf (fields : Document) :
    HasId (supply.Gives ((idOf fields).run supply).2) fields ((idOf fields).run supply).1 := by
  unfold HasId
  split
  · next value hvalue => rw [run_idOf_of_identity supply hvalue]
  · next hnone =>
    rw [run_idOf_of_none supply hnone]
    exact ⟨supply.used, Nat.le_refl _, Nat.lt_succ_self _, rfl⟩

theorem issues_idOf (fields : Document) :
    supply.Issues ((idOf fields).run supply).2
      (if (identity? fields).isNone then [((idOf fields).run supply).1] else []) := by
  cases h : identity? fields with
  | some value =>
    rw [run_idOf_of_identity supply h]
    exact .nil supply
  | none =>
    rw [run_idOf_of_none supply h]
    refine ⟨rfl, Nat.le_succ _, ?_, fun _ => List.nodup_singleton _⟩
    intro id hid
    have heq : id = supply.text supply.used := List.mem_singleton.mp hid
    exact ⟨supply.used, Nat.le_refl _, Nat.lt_succ_self _, heq.symm⟩

theorem run_childOperation (index parentId : String) (child : Json) :
    (childOperation index parentId child).run supply =
      ({ action := .single "index" (.obj [("_id", .str ((idOf (childFields child)).run supply).1),
            ("_index", .str index), ("parent", .str parentId)])
         source := childSource child },
        ((idOf (childFields child)).run supply).2) := by
  cases child <;> rfl

theorem erase_metadata (document : Document) :
    Object.erase (Object.erase (Object.erase (withoutId document) childrenKey) "_routing")
      "_parent" = bodyOf document := by
  simp only [withoutId, Object.erase, childrenKey, bodyOf, metadataNames, List.filter_filter]
  apply List.filter_congr
  intro entry _
  rw [Bool.eq_iff_iff]
  simp only [Bool.and_eq_true, bne_iff_ne, decide_eq_true_eq, List.mem_cons, List.not_mem_nil,
    or_false, not_or]
  constructor
  · rintro ⟨hparent, hrouting, hchildren, hid, hunderscore⟩
    exact ⟨hunderscore, hid, hchildren, hrouting, hparent⟩
  · rintro ⟨hunderscore, hid, hchildren, hrouting, hparent⟩
    exact ⟨hparent, hrouting, hchildren, hid, hunderscore⟩

theorem run_prepare (index : String) (options : RequestOptions) (document : Document) :
    (prepare index options document).run supply =
      let named := (idOf document).run supply
      let written := ((childrenOf document).mapM (childOperation index named.1)).run named.2
      ({ id := named.1
         routing := ((Object.get? document "_routing").map Json.plainText).or options.routing
         parent := ((Object.get? document "_parent").map Json.plainText).or options.parentId
         children := written.1
         body := bodyOf document }, written.2) := by
  have hrouting : Object.get? (Object.erase (withoutId document) childrenKey) "_routing" =
      Object.get? document "_routing" := by simp [withoutId, childrenKey]
  have hparent : Object.get? (Object.erase (withoutId document) childrenKey) "_parent" =
      Object.get? document "_parent" := by simp [withoutId, childrenKey]
  unfold prepare
  simp only [hrouting, hparent, erase_metadata]
  unfold childrenOf childrenKey
  rcases Object.get? document "child_documents" with _ | value
  · rfl
  · cases value <;> rfl

theorem run_insert (target : Target) (query : Query) (document : Document) :
    (insert target query document).run supply =
      let index := target.indexName query.collection
      let outcome := (prepare index query.options document).run supply
      (if outcome.1.children.isEmpty then .index (outcome.1.request index false)
        else .bulk { operations := outcome.1.children ++ [outcome.1.operation index] },
        outcome.2) := by
  have hrun : (insert target query document).run supply =
      let index := target.indexName query.collection
      let outcome := (prepare index query.options document).run supply
      (if outcome.1.children.isEmpty then
          (pure (.index (outcome.1.request index false)) : StateM IdSupply WriteRequest)
        else pure (.bulk { operations := outcome.1.children ++ [outcome.1.operation index] })).run
        outcome.2 := rfl
  rw [hrun]
  dsimp only
  split <;> rfl

theorem run_update (target : Target) (query : Query) (values : Document) :
    (update target query values).run supply =
      let index := target.indexName query.collection
      let outcome := (prepare index query.options values).run supply
      (outcome.1.request index true, outcome.2) := rfl

/-- A step for each element of a list, one after the other. -/
theorem run_mapM_cons {α β : Type} (step : α → StateM IdSupply β) (first : α) (rest : List α) :
    ((first :: rest).mapM step).run supply =
      let head := (step first).run supply
      let tail := (rest.mapM step).run head.2
      (head.1 :: tail.1, tail.2) := by
  rw [List.mapM_cons]
  rfl

/-- What does not depend on the supply comes out of each step as it does by itself. -/
theorem map_mapM {α β γ : Type} {step : α → StateM IdSupply β} {view : β → γ} {own : α → γ}
    (h : ∀ element supply, view ((step element).run supply).1 = own element) (list : List α) :
    ((list.mapM step).run supply).1.map view = list.map own := by
  induction list generalizing supply with
  | nil => rfl
  | cons first rest ih =>
    rw [run_mapM_cons, List.map_cons, List.map_cons, h, ih]

end Dsl

end SearchQuery
