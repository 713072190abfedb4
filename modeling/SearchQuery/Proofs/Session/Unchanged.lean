import SearchQuery.Proofs.Session.Scope
/-!
# The query under calls

No call leaves a trace in the query of its session. A reading call that needs other columns, and a
call that needs another limit or another clause, may be made with a query that is changed for as
long as the call lasts: what is put back afterwards is what was there, also behind every failure. In
a run of any length, the query is what the edits alone make of it.
-/

namespace SearchQuery

namespace Call

variable {α : Type}

/-- A call for which columns are chosen in the query itself, unless there is a choice. Afterwards the
columns are put back, and only they, whatever came of the call. -/
def choosing (columns : List String) (call : Call α) : Call α := ExceptT.mk do
  let session ← get
  set { session with query := session.query.selectIfUnset columns }
  let result ← call.run
  modify fun later =>
    { later with query := { later.query with columns := session.query.columns } }
  return result

theorem run_choosing (columns : List String) (call : Call α) (session : Session) :
    (choosing columns call).run.run session =
      let outcome := call.run.run { session with query := session.query.selectIfUnset columns }
      (outcome.1, { outcome.2 with
        query := { outcome.2.query with columns := session.query.columns } }) := rfl

/-- A call on a copy of the session. The copy speaks with the same server, and its query and its
results at hand are dropped with it. -/
def onCopy (change : Session → Session) (call : Call α) : Call α := ExceptT.mk do
  let session ← get
  set (change session)
  let result ← call.run
  modify fun copy => { copy with query := session.query, memo := session.memo }
  return result

theorem run_onCopy (change : Session → Session) (call : Call α) (session : Session) :
    (onCopy change call).run.run session =
      let outcome := call.run.run (change session)
      (outcome.1, { outcome.2 with query := session.query, memo := session.memo }) := rfl

/-! ### Reading calls -/

/-- Searching with an adjusted query is searching after the query is adjusted. -/
theorem run_results_adjust {adjust : Query → Query}
    (hoptions : ∀ query, (adjust query).options = query.options)
    (hoffset : ∀ query, (adjust query).offset = query.offset) (session : Session) :
    (results adjust).run.run session =
      let outcome := (results id).run.run { session with query := adjust session.query }
      (outcome.1, { outcome.2 with query := session.query }) := by
  obtain ⟨memo, hmemo, hhit⟩ | hmiss := memo_hit_or_miss session
  · rw [run_results_reused adjust hmemo hhit]
    rw [@run_results_reused id { session with query := adjust session.query } memo hmemo
      (hhit.trans (hoffset _).symm)]
    rfl
  · rw [run_results_fresh hoptions hmiss]
    rw [@run_results_fresh id (fun _ => rfl) { session with query := adjust session.query }
      fun memo hmemo => by rw [hoffset]; exact hmiss memo hmemo]
    dsimp only [id]
    cases Dsl.select session.target (adjust session.query) with
    | error => rfl
    | ok request =>
      dsimp only [Session.exchange, Session.record]
      rw [hoptions, hoffset]
      rcases session.server.exchange (.search request) with ⟨_ | _, _⟩
      · rfl
      · rfl

theorem query_after_results {adjust : Query → Query}
    (hoptions : ∀ query, (adjust query).options = query.options) (session : Session) :
    ((results adjust).run.run session).2.query = session.query := by
  obtain ⟨memo, hmemo, hhit⟩ | hmiss := memo_hit_or_miss session
  · rw [run_results_reused adjust hmemo hhit]
    rfl
  · rw [run_results_fresh hoptions hmiss]
    cases Dsl.select session.target (adjust session.query) with
    | error => rfl
    | ok request =>
      dsimp only [Session.exchange, Session.record]
      rcases session.server.exchange (.search request) with ⟨_ | _, _⟩
      · rfl
      · rfl

theorem query_after_read (reading : Reading) (session : Session) :
    (reading.call.run.run session).2.query = session.query := by
  have hoptions (query : Query) : (reading.adjust query).options = query.options := by
    cases reading <;> rfl
  have hquery := query_after_results hoptions session
  rw [run_reading]
  rcases hrun : (results reading.adjust).run.run session with ⟨_ | _, later⟩ <;> rw [hrun] at hquery
  · exact hquery
  · exact hquery

theorem selectIfUnset_put_back (query : Query) (columns : List String) :
    { query.selectIfUnset columns with columns := query.columns } = query := by
  cases query
  rfl

/-- To read with columns is to choose them in the query for the time of the call. -/
theorem getColumns_eq_choosing (columns : List String) :
    getColumns columns = choosing columns (do return (← results id).documents) := by
  funext session
  change (getColumns columns).run.run session = (choosing columns _).run.run session
  have hadjust := @run_results_adjust (·.selectIfUnset columns) (fun _ => rfl) (fun _ => rfl) session
  have hquery := @query_after_results id (fun _ => rfl)
    { session with query := session.query.selectIfUnset columns }
  rw [run_choosing, getColumns, run_bind, run_bind, hadjust]
  rcases hrun : (results id).run.run
    { session with query := session.query.selectIfUnset columns } with ⟨_ | found, later⟩ <;>
    rw [hrun] at hquery
  · dsimp only at hquery ⊢
    rw [hquery, selectIfUnset_put_back]
  · dsimp only at hquery ⊢
    change _ = (Except.ok found.documents,
      { later with query := { later.query with columns := session.query.columns } })
    rw [hquery, selectIfUnset_put_back]
    rfl

/-! ### Copies -/

/-- The first document is what the query finds with a limit of one, on a copy that holds no
results. -/
theorem first_eq_onCopy :
    first = onCopy (fun copy => { copy with query := copy.query.withLimit 1, memo := none })
      (do return (← getDocuments).head?) := by
  funext session
  change first.run.run session = (onCopy _ _).run.run session
  have hread := @run_reading_fresh .documents
    { session with query := session.query.withLimit 1, memo := none } (fun _ h => nomatch h)
  change getDocuments.run.run _ = _ at hread
  rw [run_onCopy, EntryPoint.run_first, run_search, run_bind, hread]
  dsimp only [Reading.adjust]
  cases Dsl.select session.target ((session.query.withLimit 1).selectIfUnset ["*"]) with
  | error => rfl
  | ok request =>
    dsimp only [Session.exchange, Session.record]
    rcases session.server.exchange (.search request) with ⟨_ | _, _⟩
    · rfl
    · rfl

/-- To delete by an id is to delete on a copy with the clause of the id. -/
theorem deleteById_eq_onCopy (id : String) :
    deleteById id =
      onCopy (fun copy => { copy with query := copy.query.push (Dsl.idClause id) }) delete := by
  funext session
  change (deleteById id).run.run session = (onCopy _ delete).run.run session
  rw [run_onCopy, deleteById, delete, run_bind, run_bind, run_get, run_get]
  dsimp only
  rw [run_deleteMatching, run_deleteMatching]
  dsimp only
  cases Dsl.delete session.target (session.query.push (Dsl.idClause id)) with
  | error => rfl
  | ok request => rfl

/-! ### Runs -/

/-- The change that a turn makes to the query, if it is an edit. -/
def Turn.change? : Turn → Option (Query → Query)
  | .edit change => some change
  | _ => none

theorem query_after_turn (session : Session) (turn : Turn) :
    (turn.after session).query = (turn.change?.getD id) session.query := by
  cases turn with
  | edit change => rfl
  | read reading => exact query_after_read reading session
  | other call =>
    obtain ⟨server, ids, log, h⟩ := call.after_eq session
    rw [Turn.after, h]
    rfl

theorem query_afterTurns (start : Session) (turns : List Turn) :
    (afterTurns start turns).query =
      (turns.filterMap Turn.change?).foldl (fun query change => change query) start.query := by
  induction turns generalizing start with
  | nil => rfl
  | cons turn rest ih =>
    rw [afterTurns, List.foldl_cons, ← afterTurns, ih, query_after_turn]
    cases hchange : turn.change? with
    | none => rw [List.filterMap_cons_none hchange]; rfl
    | some change => rw [List.filterMap_cons_some hchange]; rfl

/-- Whatever the server answers, a call leaves the query as it was, so that the query of a run is
what the edits make of it. This is so although some calls work with another query: a read with
columns is one that chooses them and puts the old choice back, the first document is read on a copy
with a limit, and a deletion by id is one on a copy with a clause more. -/
theorem calls_leave_query :
    (∀ (reading : Reading) (session : Session),
      (reading.call.run.run session).2.query = session.query) ∧
    (∀ (call : Unshared) (session : Session), (call.after session).query = session.query) ∧
    (∀ (start : Session) (turns : List Turn), (afterTurns start turns).query =
      (turns.filterMap Turn.change?).foldl (fun query change => change query) start.query) ∧
    (∀ columns, getColumns columns = choosing columns (do return (← results id).documents)) ∧
    first = onCopy (fun copy => { copy with query := copy.query.withLimit 1, memo := none })
      (do return (← getDocuments).head?) ∧
    ∀ id, deleteById id =
      onCopy (fun copy => { copy with query := copy.query.push (Dsl.idClause id) }) delete := by
  refine ⟨query_after_read, fun call session => ?_, query_afterTurns, getColumns_eq_choosing,
    first_eq_onCopy, deleteById_eq_onCopy⟩
  exact query_after_turn session (.other call)

end Call

end SearchQuery
