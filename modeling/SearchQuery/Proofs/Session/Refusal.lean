import Mathlib.Data.List.Forall2
import SearchQuery.Proofs.Json.Object
import SearchQuery.Proofs.Session.Run
/-!
# Refused items

A write whose response says that there were errors fails with a report on the items that were
refused: how many there are, and for the first ten of them id, reason and cause, each out of its own
item. Any other response is handed on as it is.
-/

namespace SearchQuery

/-- The items of the response to a write. -/
def writeItems (response : Json) : List Json :=
  ((response.field? "items").bind Json.arr?).getD []

/-- How many actions an item is about. -/
def actionCount : Json → Nat
  | .obj entries => entries.length
  | _ => 0

/-- Whether an item has a single action with an error in its result. -/
def isRefused : Json → Bool
  | .obj [(_, .obj result)] => (Object.get? result "error").any (!·.isNull)
  | _ => false

/-- The failure of an item says what stands in its own result and in the error there. -/
inductive IsFailureOf : Json → ItemFailure → Prop where
  | intro {action : String} {result : Object} {error : Json} {failure : ItemFailure}
      (error_eq : Object.get? result "error" = some error)
      (id : failure.id = ((Object.get? result "_id").map Json.plainText).getD "")
      (reason : failure.reason =
        ((error.field? "reason").map Json.plainText).getD error.compact)
      (cause : failure.causedBy =
        ((error.field? "caused_by").bind (·.field? "reason")).map Json.plainText) :
      IsFailureOf (.obj [(action, .obj result)]) failure

/-! ### The report -/

theorem itemFailure?_single (action : String) (result : Object) :
    itemFailure? (.obj [(action, .obj result)]) =
      (Object.get? result "error").bind fun error =>
        if error.isNull then none else some {
          id := ((Object.get? result "_id").map Json.plainText).getD ""
          reason := ((error.field? "reason").map Json.plainText).getD error.compact
          causedBy := ((error.field? "caused_by").bind (·.field? "reason")).map Json.plainText } := by
  have hfield (name : String) : (Json.obj result).field? name = Object.get? result name := rfl
  rw [itemFailure?, hfield, hfield]
  cases Object.get? result "error" with
  | none => rfl
  | some error => cases hnull : error.isNull <;> simp [hnull]

theorem itemFailure?_cases {item : Json} (hsingle : actionCount item ≤ 1) :
    (isRefused item = false ∧ itemFailure? item = none) ∨
      ∃ failure, isRefused item = true ∧ itemFailure? item = some failure ∧
        IsFailureOf item failure := by
  cases item with
  | obj entries =>
    match entries, hsingle with
    | [], _ => exact .inl ⟨rfl, rfl⟩
    | [(action, result)], _ =>
      cases result with
      | obj result =>
        rw [isRefused, itemFailure?_single]
        cases herror : Object.get? result "error" with
        | none => exact .inl ⟨rfl, rfl⟩
        | some error =>
          rw [Option.any_some, Option.bind_some]
          cases hnull : error.isNull with
          | true => exact .inl ⟨rfl, rfl⟩
          | false => exact .inr ⟨_, rfl, rfl, .intro herror rfl rfl rfl⟩
      | _ => exact .inl ⟨rfl, rfl⟩
  | _ => exact .inl ⟨rfl, rfl⟩

theorem forall₂_itemFailures {items : List Json}
    (hsingle : ∀ item ∈ items, actionCount item ≤ 1) :
    List.Forall₂ IsFailureOf (items.filter isRefused) (items.filterMap itemFailure?) := by
  induction items with
  | nil => exact .nil
  | cons item rest ih =>
    have hrest := ih fun other hother => hsingle other (List.mem_cons_of_mem item hother)
    rcases itemFailure?_cases (hsingle item List.mem_cons_self) with
      ⟨hkept, hnone⟩ | ⟨failure, hrefused, hsome, hfailure⟩
    · rwa [List.filter_cons_of_neg (by simp [hkept]), List.filterMap_cons_none hnone]
    · rw [List.filter_cons_of_pos hrefused, List.filterMap_cons_some hsome]
      exact .cons hfailure hrest

theorem bulkWriteError_eq {response : Json}
    (hsingle : ∀ item ∈ writeItems response, actionCount item ≤ 1) :
    ∃ failures, bulkWriteError response =
        .bulkWriteFailed ((writeItems response).countP isRefused) failures ∧
      List.Forall₂ IsFailureOf (((writeItems response).filter isRefused).take 10) failures := by
  have hall := forall₂_itemFailures hsingle
  refine ⟨_, ?_, List.forall₂_take 10 hall⟩
  rw [List.countP_eq_length_filter, hall.length_eq]
  rfl

namespace Call

/-- A call that writes. Without documents there is nothing to write. -/
inductive Writing where
  | insert (document : Document)
  | insertMany (first : Document) (rest : List Document)
  | update (values : Document)

def Writing.call : Writing → Call Json
  | .insert document => Call.insert document
  | .insertMany first rest => Call.insertMany (first :: rest)
  | .update values => Call.update values

def Writing.request (session : Session) : Writing → WriteRequest
  | .insert document => ((Dsl.insert session.target session.query document).run session.ids).1
  | .insertMany first rest =>
    .bulk ((Dsl.insertMany session.target session.query (first :: rest)).run session.ids).1
  | .update values => .index ((Dsl.update session.target session.query values).run session.ids).1

/-- The response to a writing call; null if nothing comes back. -/
def Writing.response (session : Session) (writing : Writing) : Except Error Json :=
  (session.server.exchange (writing.request session).request).1.map (·.getD .null)

theorem run_writing (writing : Writing) (session : Session) :
    (writing.call.run.run session).1 = (writing.response session).bind checkWrite := by
  cases writing with
  | insert document =>
    rw [Writing.call, insert, run_bind, run_get]
    dsimp only
    rw [run_bind, run_withIds]
    dsimp only
    rw [run_write]
    rfl
  | insertMany first rest =>
    rw [Writing.call, run_insertMany (List.cons_ne_nil first rest)]
    rfl
  | update values =>
    rw [Writing.call, update, run_bind, run_get]
    dsimp only
    rw [run_bind, run_withIds]
    dsimp only
    rw [run_write]
    rfl

/-- A write whose response has `errors` fails with the number of the items that were refused and the
failures of the first ten of them, each of its own item; with any other response it succeeds. -/
theorem refused_items_reported (writing : Writing) {session : Session} {response : Json}
    (hresponse : writing.response session = .ok response) :
    (response.field? "errors" = some (.bool true) →
      (∀ item ∈ writeItems response, actionCount item ≤ 1) →
      ∃ total failures, (writing.call.run.run session).1 =
          .error (.bulkWriteFailed total failures) ∧
        total = (writeItems response).countP isRefused ∧
        List.Forall₂ IsFailureOf (((writeItems response).filter isRefused).take 10) failures) ∧
    (response.field? "errors" ≠ some (.bool true) →
      (writing.call.run.run session).1 = .ok response) := by
  have hrun : (writing.call.run.run session).1 = checkWrite response := by
    rw [run_writing, hresponse]
    rfl
  rw [hrun]
  constructor
  · intro herrors hsingle
    obtain ⟨failures, herror, hfailures⟩ := bulkWriteError_eq hsingle
    refine ⟨_, failures, ?_, rfl, hfailures⟩
    rw [checkWrite, if_pos (Json.bind_bool?_eq_true_iff.mpr herrors), herror]
  · intro hnone
    rw [checkWrite, if_neg (mt Json.bind_bool?_eq_true_iff.mp hnone)]

def namelessItem : Json := .single "index" (.single "error" (.str "full"))

def explainedItem : Json :=
  .single "create" (.obj [("_id", .int 2), ("error", .obj [
    ("caused_by", .single "reason" (.str "bad date")), ("reason", .str "no parse")])])

/-- The response to a write that failed for two of its items; two more are no reports. -/
def mixedResponse : Json :=
  .obj [("errors", .bool true), ("items", .arr [
    .single "index" (.obj [("_id", .str "1"), ("error", .null)]), namelessItem, .str "index",
    explainedItem, .obj []])]

def mixedSession : Session where
  target := {}
  query := { collection := "posts" }
  server := .direct [.ok (some mixedResponse)] false

theorem refused_items_reported_mixedResponse :
    let writing : Writing := .update [("title", .str "a")]
    writing.response mixedSession = .ok mixedResponse ∧
      (∀ item ∈ writeItems mixedResponse, actionCount item ≤ 1) ∧
      ∃ failures, (writing.call.run.run mixedSession).1 = .error (.bulkWriteFailed 2 failures) ∧
        List.Forall₂ IsFailureOf [namelessItem, explainedItem] failures := by
  intro writing
  have hsingle : ∀ item ∈ writeItems mixedResponse, actionCount item ≤ 1 := by decide
  obtain ⟨total, failures, hrun, rfl, hfailures⟩ :=
    (@refused_items_reported writing mixedSession mixedResponse rfl).1 rfl hsingle
  exact ⟨rfl, hsingle, failures, hrun, hfailures⟩

end Call

end SearchQuery
