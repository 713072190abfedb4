import SearchQuery.Session.Basic
/-!
# Runs of calls

A call runs one step after the other on the session, and stops at the first failure. Sending a
request is one exchange with the server, which counts it and logs it, whatever comes back.
-/

namespace SearchQuery

variable {α β : Type}

/-- One step after another on a state. -/
theorem run_steps {σ ε : Type} (step : ExceptT ε (StateM σ) α) (next : α → ExceptT ε (StateM σ) β)
    (state : σ) : (step >>= next).run.run state =
      match step.run.run state with
      | (.ok value, later) => (next value).run.run later
      | (.error failure, later) => (.error failure, later) := by
  simp only [ExceptT.run_bind, StateT.run_bind]
  change (match step.run.run state with | (_, _) => _) = _
  rcases step.run.run state with ⟨_ | _, _⟩
  · rfl
  · rfl

/-- What an exchange adds to the log. -/
theorem Session.log_exchange (session : Session) (operation : Operation) (request : Request) :
    (session.exchange operation request).2.log =
      session.log ++ [.counted operation, .sent request] := by
  simp only [exchange, record, List.append_assoc, List.singleton_append]

/-- A write among the requests. -/
def WriteRequest.request : WriteRequest → Request
  | .index request => .index request
  | .bulk request => .bulk request

/-- What a write is counted as. -/
def WriteRequest.operation : WriteRequest → Operation
  | .index _ => .index
  | .bulk _ => .bulk

namespace Call

theorem run_bind (call : Call α) (next : α → Call β) (session : Session) :
    (call >>= next).run.run session =
      match call.run.run session with
      | (.ok value, later) => (next value).run.run later
      | (.error failure, later) => (.error failure, later) := by
  rw [run_steps]
  rcases call.run.run session with ⟨_ | _, _⟩
  · rfl
  · rfl

theorem run_get (session : Session) :
    (get : Call Session).run.run session = (.ok session, session) := rfl

theorem run_set (later session : Session) :
    (set later : Call PUnit).run.run session = (.ok ⟨⟩, later) := rfl

theorem run_ofExcept (result : Except Error α) (session : Session) :
    (ofExcept result).run.run session = (result, session) := rfl

theorem run_send (operation : Operation) (request : Request) (session : Session) :
    (send operation request).run.run session = session.exchange operation request := by
  simp only [send, run_bind, run_get, run_set, run_ofExcept]

theorem run_sendForValue (operation : Operation) (request : Request) (session : Session) :
    (sendForValue operation request).run.run session =
      ((session.exchange operation request).1.map (·.getD .null),
        (session.exchange operation request).2) := by
  rw [sendForValue, run_bind, run_send]
  rcases session.exchange operation request with ⟨_ | _, _⟩
  · rfl
  · rfl

theorem run_withIds (action : StateM IdSupply α) (session : Session) :
    (withIds action).run.run session =
      (.ok (action.run session.ids).1, { session with ids := (action.run session.ids).2 }) := rfl

theorem run_write (request : WriteRequest) (session : Session) :
    (write request).run.run session =
      let outcome := session.exchange request.operation request.request
      ((outcome.1.map (·.getD .null)).bind checkWrite, outcome.2) := by
  have hsend (operation : Operation) (request : Request) :
      (sendForValue operation request >>= fun response => ofExcept (checkWrite response)).run.run
          session =
        let outcome := session.exchange operation request
        ((outcome.1.map (·.getD .null)).bind checkWrite, outcome.2) := by
    rw [run_bind, run_sendForValue]
    rcases session.exchange operation request with ⟨_ | _, _⟩
    · rfl
    · rfl
  cases request with
  | index request => exact hsend .index (.index request)
  | bulk request => exact hsend .bulk (.bulk request)

/-- Writing documents compiles them into one request with ids from the supply, and sends it. -/
theorem run_insertMany {documents : List Document} (h : documents ≠ []) (session : Session) :
    (insertMany documents).run.run session =
      let compiled := (Dsl.insertMany session.target session.query documents).run session.ids
      let outcome := Session.exchange { session with ids := compiled.2 } .bulk (.bulk compiled.1)
      ((outcome.1.map (·.getD .null)).bind checkWrite, outcome.2) := by
  have hnonempty : documents.isEmpty = false := by simpa using h
  unfold insertMany
  rw [hnonempty, if_neg Bool.false_ne_true, run_bind, run_get]
  dsimp only
  rw [run_bind, run_withIds]
  exact run_write _ _

end Call

end SearchQuery
