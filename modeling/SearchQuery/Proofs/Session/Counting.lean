import SearchQuery.Proofs.Session.Unchanged
/-!
# Counted requests

Every request of a session is counted once, as what the call that sends it is for, and in the order
in which the server sees the requests, whatever the server answers. A call that sends nothing counts
nothing: one whose query does not compile, one with nothing to write, or one that is served from
results at hand.
-/

namespace SearchQuery

theorem Server.after_append (server : Server) (front back : List Request) :
    server.after (front ++ back) = (server.after front).after back := List.foldl_append

namespace Session

/-- What a session has counted since it was an earlier one, in order. -/
def countedSince (later earlier : Session) : List Operation :=
  (later.gainedSince earlier).filterMap fun
    | .counted operation => some operation
    | _ => none

/-- Whether a session has counted each request that its server has seen since it was an earlier
one, and nothing else. -/
structure Accounts (counts : Request → Option Operation) (earlier later : Session) : Prop where
  /-- What has happened stays in the log. -/
  grown : earlier.log <+: later.log
  counted : (later.countedSince earlier).map some = (later.sentSince earlier).map counts
  seen : later.server = earlier.server.after (later.sentSince earlier)

variable {counts : Request → Option Operation} {earlier later last : Session}

section Between

variable (hfirst : earlier.log <+: later.log) (hsecond : later.log <+: last.log)

include hfirst hsecond

/-- What has happened is what has happened up to a session in between, and since then. -/
theorem gainedSince_trans :
    last.gainedSince earlier = later.gainedSince earlier ++ last.gainedSince later := by
  obtain ⟨front, hfront⟩ := hfirst
  obtain ⟨back, hback⟩ := hsecond
  rw [gainedSince, gainedSince, gainedSince, ← hback, ← hfront, List.drop_left, List.append_assoc,
    List.drop_left, ← List.append_assoc, List.drop_left]

theorem countedSince_trans :
    last.countedSince earlier = later.countedSince earlier ++ last.countedSince later := by
  rw [countedSince, gainedSince_trans hfirst hsecond, List.filterMap_append]
  rfl

theorem sentSince_trans :
    last.sentSince earlier = later.sentSince earlier ++ last.sentSince later := by
  rw [sentSince, gainedSince_trans hfirst hsecond, List.filterMap_append]
  rfl

end Between

theorem Accounts.exchange (h : Accounts counts earlier later) {operation : Operation}
    {request : Request} (hcounts : counts request = some operation) :
    Accounts counts earlier (later.exchange operation request).2 := by
  have hgrown : later.log <+: (later.exchange operation request).2.log :=
    ⟨_, (later.log_exchange operation request).symm⟩
  have hcounted : (later.exchange operation request).2.countedSince later = [operation] := by
    rw [countedSince, Call.gainedSince_exchange]
    rfl
  constructor
  · exact h.grown.trans hgrown
  · rw [countedSince_trans h.grown hgrown, sentSince_trans h.grown hgrown, hcounted,
      sentSince_exchange, List.map_append, List.map_append, h.counted, List.map_singleton,
      List.map_singleton, hcounts]
  · rw [sentSince_trans h.grown hgrown, sentSince_exchange, Server.after_append, ← h.seen]
    rfl

end Session

namespace Call

/-- What a request of a turn is counted as, if the turn may send it. -/
def Turn.countedAs : Turn → Request → Option Operation
  | .read _, .search _ => some .search
  | .other call, request => call.countedAs request
  | _, _ => none

end Call

end SearchQuery
