import Mathlib.Data.List.Induction
import SearchQuery.Proofs.Dsl.Failure
import SearchQuery.Proofs.Session.Frame
/-!
# Shared results

Over any run of calls on one session, a reading call answers from the latest search of a reading
call exactly when the latest reading call succeeded and was made with the offset of now. All other
reading calls search anew. No other call fills, replaces or drops the results at hand, and a count
takes its total from them whatever the offset.
-/

namespace SearchQuery

/-- The events that a session has gained since an earlier one. -/
def Session.gainedSince (later earlier : Session) : List Event :=
  later.log.drop earlier.log.length

namespace Call

variable {α β : Type}

/-! ### Calls on sessions -/

/-- A call that answers from the results of a search. -/
inductive Reading where
  | documents
  | columns (names : List String)
  | aggregations
  | took

/-- What a reading call returns. -/
abbrev Reading.Answer : Reading → Type
  | .documents | .columns _ => List Document
  | .aggregations => Json
  | .took => Option Nat

namespace Reading

def call : (reading : Reading) → Call reading.Answer
  | .documents => getDocuments
  | .columns names => getColumns names
  | .aggregations => Call.aggregations
  | .took => Call.took

/-- The query that a reading call searches with: a choice of columns, unless there is one. -/
def adjust : Reading → Query → Query
  | .documents => (·.selectIfUnset ["*"])
  | .columns names => (·.selectIfUnset names)
  | .aggregations | .took => id

/-- What a reading call takes from results. -/
def answer : (reading : Reading) → SearchResults → reading.Answer
  | .documents | .columns _ => (·.documents)
  | .aggregations => (·.aggregations)
  | .took => (·.took?)

end Reading

/-- A call that does not answer from shared results. -/
inductive Unshared where
  | first
  | document (id : String)
  | cursor (items : Option Nat)
  | count
  | insert (document : Document)
  | insertMany (documents : List Document)
  | update (values : Document)
  | delete
  | deleteById (id : String)

/-- The session after an unshared call. -/
def Unshared.after (session : Session) : Unshared → Session
  | .first => (Call.first.run.run session).2
  | .document id => ((Call.document id).run.run session).2
  | .cursor items => ((Call.cursor items).run.run session).2
  | .count => (Call.count.run.run session).2
  | .insert fields => ((Call.insert fields).run.run session).2
  | .insertMany documents => ((Call.insertMany documents).run.run session).2
  | .update values => ((Call.update values).run.run session).2
  | .delete => (Call.delete.run.run session).2
  | .deleteById id => ((Call.deleteById id).run.run session).2

/-- One turn in the use of a session. -/
inductive Turn where
  /-- Any change of the query. -/
  | edit (change : Query → Query)
  | read (reading : Reading)
  | other (call : Unshared)

def Turn.after (session : Session) : Turn → Session
  | .edit change => { session with query := change session.query }
  | .read reading => (reading.call.run.run session).2
  | .other call => call.after session

/-- The session after turns. -/
def afterTurns (start : Session) (turns : List Turn) : Session := turns.foldl Turn.after start

theorem afterTurns_concat (start : Session) (turns : List Turn) (turn : Turn) :
    afterTurns start (turns ++ [turn]) = turn.after (afterTurns start turns) := by
  rw [afterTurns, List.foldl_append, List.foldl_cons, List.foldl_nil, ← afterTurns]

/-- The reading call of a turn, with the session it is made on. -/
def Turn.readings (session : Session) : Turn → List (Session × Reading)
  | .read reading => [(session, reading)]
  | _ => []

/-- The reading calls of turns, each with the session it is made on. -/
def readings (start : Session) : List Turn → List (Session × Reading)
  | [] => []
  | turn :: rest => turn.readings start ++ readings (turn.after start) rest

theorem readings_concat (start : Session) (turns : List Turn) (turn : Turn) :
    readings start (turns ++ [turn]) =
      readings start turns ++ turn.readings (afterTurns start turns) := by
  induction turns generalizing start with
  | nil => exact List.append_nil _
  | cons first rest ih =>
    rw [List.cons_append, readings, ih, readings, List.append_assoc]
    rfl

/-! ### What has happened -/

def Reading.Succeeds (reading : Reading) (session : Session) : Prop :=
  ∃ answer, (reading.call.run.run session).1 = .ok answer

/-- What the search of a reading call finds, if the call sends one and it succeeds. -/
def Reading.found? (reading : Reading) (session : Session) : Option SearchResults :=
  match (reading.call.run.run session).2.gainedSince session with
  | [.counted .search, .sent request] =>
    match (session.exchange .search request).1 with
    | .ok value => some (.ofResponse session.query.options.includeInnerHits (value.getD .null))
    | .error _ => none
  | _ => none

/-- There are reading calls, and the latest one, made on the session `earlier`, succeeded. -/
def LatestSucceeded (start : Session) (turns : List Turn) (earlier : Session) : Prop :=
  ∃ reading, (readings start turns).getLast? = some (earlier, reading) ∧ reading.Succeeds earlier

/-- What the latest successful search of a reading call has found. -/
def latestFound? (start : Session) (turns : List Turn) : Option SearchResults :=
  ((readings start turns).filterMap fun entry => entry.2.found? entry.1).getLast?

/-! ### Single calls -/

/-- A search sends one request, if the query compiles. -/
theorem run_search (query : Query) (session : Session) :
    (search query).run.run session = match Dsl.select session.target query with
      | .error error => (.error error, session)
      | .ok request =>
        ((session.exchange .search (.search request)).1.map fun value =>
            .ofResponse query.options.includeInnerHits (value.getD .null),
          (session.exchange .search (.search request)).2) := by
  rw [search, run_bind, run_get]
  dsimp only
  rw [run_bind, run_ofExcept]
  cases Dsl.select session.target query with
  | error => rfl
  | ok request =>
    dsimp only
    rw [run_bind, run_sendForValue]
    rcases session.exchange .search (.search request) with ⟨_ | _, _⟩
    · rfl
    · rfl

/-- A reading call is the search of its query, or what was found before, with a look at it. -/
theorem run_reading (reading : Reading) (session : Session) :
    reading.call.run.run session =
      match (results reading.adjust).run.run session with
      | (.ok found, later) => (.ok (reading.answer found), later)
      | (.error error, later) => (.error error, later) := by
  have hcall : reading.call = (do return reading.answer (← results reading.adjust)) := by
    cases reading <;> rfl
  rw [hcall, run_bind]
  rcases (results reading.adjust).run.run session with ⟨_ | _, _⟩
  · rfl
  · rfl

/-- A session has results at hand for the offset of its query, or none that a reading call may use. -/
theorem memo_hit_or_miss (session : Session) :
    (∃ memo, session.memo = some memo ∧ memo.offset = session.query.offset) ∨
      ∀ memo, session.memo = some memo → memo.offset ≠ session.query.offset := by
  by_cases hhit : ∃ memo, session.memo = some memo ∧ memo.offset = session.query.offset
  · exact .inl hhit
  · exact .inr fun memo hmemo hoffset => hhit ⟨memo, hmemo, hoffset⟩

theorem run_results_reused (adjust : Query → Query) {session : Session} {memo : Memo}
    (hmemo : session.memo = some memo) (hoffset : memo.offset = session.query.offset) :
    (results adjust).run.run session = (.ok memo.results, session.record .reused) := by
  rw [results, run_bind, run_get]
  simp only [hmemo, if_pos hoffset]
  rw [run_bind, run_set]
  rfl

theorem run_reading_reused (reading : Reading) {session : Session} {memo : Memo}
    (hmemo : session.memo = some memo) (hoffset : memo.offset = session.query.offset) :
    reading.call.run.run session =
      (.ok (reading.answer memo.results), session.record .reused) := by
  rw [run_reading, run_results_reused _ hmemo hoffset]

/-- What comes back for a request has nothing to do with the results at hand. -/
theorem exchange_forget (session : Session) (memo : Option Memo) (operation : Operation)
    (request : Request) : Session.exchange { session with memo } operation request =
      ((session.exchange operation request).1,
        { (session.exchange operation request).2 with memo }) := rfl

theorem run_results_fresh {adjust : Query → Query}
    (hoptions : ∀ query, (adjust query).options = query.options) {session : Session}
    (hmemo : ∀ memo, session.memo = some memo → memo.offset ≠ session.query.offset) :
    (results adjust).run.run session =
      match Dsl.select session.target (adjust session.query) with
      | .error error => (.error error, { session with memo := none })
      | .ok request =>
        match session.exchange .search (.search request) with
        | (.error error, later) => (.error error, { later with memo := none })
        | (.ok value, later) =>
          let found :=
            SearchResults.ofResponse session.query.options.includeInnerHits (value.getD .null)
          (.ok found,
            { later with memo := some { offset := session.query.offset, results := found } }) := by
  have hfresh : (results adjust).run.run session =
      (results.fresh adjust session session.query.offset).run.run session := by
    rw [results, run_bind, run_get]
    dsimp only
    split
    · next memo hsome => rw [if_neg (hmemo memo hsome)]
    · rfl
  rw [hfresh, results.fresh, run_bind, run_set]
  dsimp only
  rw [run_bind, run_search, hoptions]
  cases Dsl.select session.target (adjust session.query) with
  | error => rfl
  | ok request =>
    dsimp only
    rw [exchange_forget]
    rcases session.exchange .search (.search request) with ⟨_ | _, _⟩
    · rfl
    · rfl

theorem run_reading_fresh (reading : Reading) {session : Session}
    (hmemo : ∀ memo, session.memo = some memo → memo.offset ≠ session.query.offset) :
    reading.call.run.run session =
      match Dsl.select session.target (reading.adjust session.query) with
      | .error error => (.error error, { session with memo := none })
      | .ok request =>
        match session.exchange .search (.search request) with
        | (.error error, later) => (.error error, { later with memo := none })
        | (.ok value, later) =>
          let found :=
            SearchResults.ofResponse session.query.options.includeInnerHits (value.getD .null)
          (.ok (reading.answer found),
            { later with memo := some { offset := session.query.offset, results := found } }) := by
  have hoptions (query : Query) : (reading.adjust query).options = query.options := by
    cases reading <;> rfl
  rw [run_reading, run_results_fresh hoptions hmemo]
  cases Dsl.select session.target (reading.adjust session.query) with
  | error => rfl
  | ok request =>
    dsimp only
    rcases session.exchange .search (.search request) with ⟨_ | _, _⟩
    · rfl
    · rfl

theorem gainedSince_exchange (session : Session) (operation : Operation) (request : Request) :
    (session.exchange operation request).2.gainedSince session =
      [.counted operation, .sent request] := by
  rw [Session.gainedSince, Session.log_exchange, List.drop_left]

/-! ### Calls that leave the results at hand alone -/

/-- What a request of an unshared call is counted as, if the call may send it. -/
def Unshared.countedAs : Unshared → Request → Option Operation
  | .first, .search _ => some .search
  | .document _, .get _ => some .get
  | .cursor _, .search _ | .cursor _, .scroll _ => some .scroll
  | .cursor _, .clearScroll _ => some .clearScroll
  | .count, .search _ => some .count
  | .insert _, .index _ | .update _, .index _ => some .index
  | .insert _, .bulk _ | .insertMany _, .bulk _ => some .bulk
  | .delete, .deleteByQuery _ | .deleteById _, .deleteByQuery _ => some .delete
  | _, _ => none

theorem Unshared.movesTo_after (session : Session) (call : Unshared) :
    session.MovesTo call.countedAs (call.after session) := by
  cases call with
  | first => exact exchanges_first (fun _ => rfl) session
  | document id => exact exchanges_document (fun _ => rfl) id session
  | cursor items =>
    refine exchanges_cursor items ?_ session
    rintro request (⟨search, rfl⟩ | hscroll)
    · rfl
    · cases request with
      | scroll | clearScroll => rfl
      | _ => cases hscroll
  | count => exact exchanges_count (fun _ => rfl) session
  | insert fields => exact exchanges_insert (fun _ => rfl) (fun _ => rfl) fields session
  | insertMany documents => exact exchanges_insertMany (fun _ => rfl) documents session
  | update values => exact exchanges_update (fun _ => rfl) values session
  | delete => exact exchanges_delete (fun _ => rfl) session
  | deleteById id => exact exchanges_deleteById (fun _ => rfl) id session

theorem Unshared.after_eq (session : Session) (call : Unshared) :
    ∃ server ids log, call.after session = { session with server, ids, log } :=
  (call.movesTo_after session).frame

theorem Unshared.memo_after (session : Session) (call : Unshared) :
    (call.after session).memo = session.memo := by
  obtain ⟨server, ids, log, h⟩ := call.after_eq session
  rw [h]

/-! ### Runs -/

/-- What a session holds after turns on a new one: the results of the latest search, with the offset
of the latest reading call, unless that call failed or there was none. -/
def Explains (start : Session) (turns : List Turn) : Option Memo → Prop
  | some memo => ∃ earlier, LatestSucceeded start turns earlier ∧
      earlier.query.offset = memo.offset ∧ latestFound? start turns = some memo.results
  | none => ∀ earlier, ¬ LatestSucceeded start turns earlier

theorem latestSucceeded_concat_read {start earlier : Session} {turns : List Turn}
    {reading : Reading} : LatestSucceeded start (turns ++ [.read reading]) earlier ↔
      earlier = afterTurns start turns ∧ reading.Succeeds earlier := by
  simp only [LatestSucceeded, readings_concat, Turn.readings, List.getLast?_concat,
    Option.some.injEq, Prod.mk.injEq]
  constructor
  · rintro ⟨_, ⟨rfl, rfl⟩, hsucceeds⟩
    exact ⟨rfl, hsucceeds⟩
  · rintro ⟨rfl, hsucceeds⟩
    exact ⟨reading, ⟨rfl, rfl⟩, hsucceeds⟩

theorem latestFound?_concat_read (start : Session) (turns : List Turn) (reading : Reading) :
    latestFound? start (turns ++ [.read reading]) =
      (reading.found? (afterTurns start turns)).or (latestFound? start turns) := by
  rw [latestFound?, readings_concat, List.filterMap_append, List.getLast?_append]
  cases h : reading.found? (afterTurns start turns) <;> simp [Turn.readings, h, latestFound?]

/-- A reading call that answers from results at hand has found nothing. -/
theorem found?_reused (reading : Reading) {session : Session} {memo : Memo}
    (hmemo : session.memo = some memo) (hoffset : memo.offset = session.query.offset) :
    reading.found? session = none := by
  rw [Reading.found?, run_reading_reused reading hmemo hoffset]
  simp [Session.gainedSince, Session.record]

/-- A reading call whose search succeeds has found what that search found. -/
theorem found?_searched {reading : Reading} {session later : Session} {answer : reading.Answer}
    {memo : Option Memo} {request : SearchRequest} {value : Option Json}
    (hrun : reading.call.run.run session = (.ok answer, { later with memo }))
    (hexchange : session.exchange .search (.search request) = (.ok value, later)) :
    reading.found? session =
      some (.ofResponse session.query.options.includeInnerHits (value.getD .null)) := by
  have hgained := gainedSince_exchange session .search (.search request)
  rw [hexchange] at hgained
  rw [Reading.found?, hrun]
  change (match later.gainedSince session with
    | [.counted .search, .sent request] => _
    | _ => _) = _
  rw [hgained]
  dsimp only
  rw [hexchange]

theorem explains_read_reused {start : Session} {turns : List Turn} (reading : Reading)
    {memo : Memo} (h : Explains start turns (some memo))
    (hmemo : (afterTurns start turns).memo = some memo)
    (hoffset : memo.offset = (afterTurns start turns).query.offset) :
    Explains start (turns ++ [.read reading]) (some memo) := by
  obtain ⟨_, -, -, hlatest⟩ := h
  refine ⟨_, latestSucceeded_concat_read.mpr
    ⟨rfl, _, by rw [run_reading_reused reading hmemo hoffset]⟩, hoffset.symm, ?_⟩
  rw [latestFound?_concat_read, found?_reused reading hmemo hoffset, hlatest]
  rfl

theorem explains_read_fresh {start : Session} {turns : List Turn} (reading : Reading)
    (hmemo : ∀ memo, (afterTurns start turns).memo = some memo →
      memo.offset ≠ (afterTurns start turns).query.offset) :
    Explains start (turns ++ [.read reading])
      (reading.call.run.run (afterTurns start turns)).2.memo := by
  have hfails {error : Error} (herror : (reading.call.run.run (afterTurns start turns)).1 =
      .error error) : ∀ earlier, ¬ LatestSucceeded start (turns ++ [.read reading]) earlier := by
    intro earlier hlatest
    obtain ⟨rfl, answer, hanswer⟩ := latestSucceeded_concat_read.mp hlatest
    rw [herror] at hanswer
    cases hanswer
  have hrun := run_reading_fresh reading hmemo
  split at hrun
  · rw [hrun]
    exact hfails (by rw [hrun])
  · split at hrun
    · rw [hrun]
      exact hfails (by rw [hrun])
    · next hexchange =>
      have hfound := found?_searched hrun hexchange
      rw [hrun]
      refine ⟨_, latestSucceeded_concat_read.mpr ⟨rfl, _, by rw [hrun]⟩, rfl, ?_⟩
      rw [latestFound?_concat_read, hfound]
      rfl

/-- The step of a reading call keeps what the session holds explained. -/
theorem explains_read {start : Session} {turns : List Turn} (reading : Reading)
    (h : Explains start turns (afterTurns start turns).memo) :
    Explains start (turns ++ [.read reading])
      (afterTurns start (turns ++ [.read reading])).memo := by
  rw [afterTurns_concat, Turn.after]
  obtain ⟨memo, hmemo, hoffset⟩ | hmiss := memo_hit_or_miss (afterTurns start turns)
  · rw [run_reading_reused reading hmemo hoffset]
    change Explains _ _ (afterTurns start turns).memo
    rw [hmemo] at h ⊢
    exact explains_read_reused reading h hmemo hoffset
  · exact explains_read_fresh reading hmiss

theorem explains_concat_of_not_reading {start : Session} {turns : List Turn} {turn : Turn}
    {memo : Option Memo} (hturn : ∀ session, turn.readings session = [])
    (h : Explains start turns memo) : Explains start (turns ++ [turn]) memo := by
  have hreadings : readings start (turns ++ [turn]) = readings start turns := by
    rw [readings_concat, hturn, List.append_nil]
  cases memo <;> simpa only [Explains, LatestSucceeded, latestFound?, hreadings] using h

/-- What a session holds after any turns on a new one is explained by its reading calls. -/
theorem explains_memo {start : Session} (hnew : start.memo = none) (turns : List Turn) :
    Explains start turns (afterTurns start turns).memo := by
  induction turns using List.reverseRecOn with
  | nil =>
    rw [show (afterTurns start []).memo = none from hnew]
    rintro earlier ⟨reading, hlast, -⟩
    cases hlast
  | append_singleton turns turn ih =>
    cases turn with
    | read reading => exact explains_read reading ih
    | edit change =>
      rw [afterTurns_concat]
      exact explains_concat_of_not_reading (fun _ => rfl) ih
    | other call =>
      rw [afterTurns_concat, Turn.after, call.memo_after]
      exact explains_concat_of_not_reading (fun _ => rfl) ih

theorem LatestSucceeded.unique {start first second : Session} {turns : List Turn}
    (hfirst : LatestSucceeded start turns first) (hsecond : LatestSucceeded start turns second) :
    first = second := by
  obtain ⟨reading, hreading, -⟩ := hfirst
  obtain ⟨_, hlast, -⟩ := hsecond
  rw [hreading] at hlast
  exact (Prod.mk.inj (Option.some.inj hlast)).1

/-! ### When results are shared -/

/-- Whether the latest reading call succeeded and was made with the offset of now. -/
def Reusable (start : Session) (turns : List Turn) : Prop :=
  ∃ earlier, LatestSucceeded start turns earlier ∧
    earlier.query.offset = (afterTurns start turns).query.offset

/-- Whether a reading call answers from results at hand: it sends nothing, and is counted as served
from them. -/
def Reading.Reuses (reading : Reading) (session : Session) (found : SearchResults) : Prop :=
  reading.call.run.run session = (.ok (reading.answer found), session.record .reused)

/-- Whether a reading call searches anew: it fails if its query does not compile, and else sends one
search and answers from what comes back. -/
def Reading.Searches (reading : Reading) (session : Session) : Prop :=
  let outcome := reading.call.run.run session
  match Dsl.select session.target (reading.adjust session.query) with
  | .error error => outcome.1 = .error error ∧ outcome.2.gainedSince session = []
  | .ok request =>
    outcome.2.gainedSince session = [.counted .search, .sent (.search request)] ∧
      outcome.1 = (session.exchange .search (.search request)).1.map fun value => reading.answer
        (.ofResponse session.query.options.includeInnerHits (value.getD .null))

/-- The total of the results of the latest search, if the latest reading call succeeded. -/
def TotalAtHand (start : Session) (turns : List Turn) (total : Nat) : Prop :=
  ∃ earlier found, LatestSucceeded start turns earlier ∧ latestFound? start turns = some found ∧
    found.total? = some total

theorem searches_of_fresh (reading : Reading) {session : Session}
    (hmemo : ∀ memo, session.memo = some memo → memo.offset ≠ session.query.offset) :
    reading.Searches session := by
  have hrun := run_reading_fresh reading hmemo
  rw [Reading.Searches]
  split at hrun
  · rw [hrun]
    exact ⟨rfl, List.drop_eq_nil_of_le (Nat.le_refl _)⟩
  · next request hselect =>
    have hgained := gainedSince_exchange session .search (.search request)
    rw [hrun]
    rcases hexchange : session.exchange .search (.search request) with ⟨_ | _, later⟩ <;>
      rw [hexchange] at hgained
    · exact ⟨hgained, rfl⟩
    · exact ⟨hgained, rfl⟩

/-- A query that compiles can be counted. -/
theorem exists_select_countQuery {target : Target} {query : Query} {request : SearchRequest}
    (h : Dsl.select target query = .ok request) :
    ∃ counting, Dsl.select target (countQuery query) = .ok counting := by
  have hnone : (query.conditions ++ aggregationConditions query.aggregations).findSome?
      Condition.offence? = none := by
    rw [← Query.searchConditions, ← Dsl.failure?_select, h]
    rfl
  have hcount : failure? (Dsl.select target (countQuery query)) = none := by
    rw [List.findSome?_append, Option.or_eq_none_iff] at hnone
    rw [Dsl.failure?_select, Query.searchConditions, List.findSome?_append, Option.or_eq_none_iff]
    refine ⟨?_, rfl⟩
    rw [Query.conditions_eq] at hnone ⊢
    exact hnone.1
  cases hselect : Dsl.select target (countQuery query) with
  | ok counting => exact ⟨counting, rfl⟩
  | error =>
    rw [hselect] at hcount
    cases hcount

theorem run_count_at_hand {session : Session} {total : Nat}
    (h : session.memo.bind (·.results.total?) = some total) :
    count.run.run session = (.ok total, session) := by
  rw [count, run_bind, run_get]
  simp only [h]
  rfl

theorem gainedSince_count {session : Session} {request : SearchRequest}
    (hmemo : session.memo.bind (·.results.total?) = none)
    (hselect : Dsl.select session.target (countQuery session.query) = .ok request) :
    (count.run.run session).2.gainedSince session = [.counted .count, .sent (.search request)] := by
  have hgained := gainedSince_exchange session .count (.search request)
  rw [count, run_bind, run_get]
  simp only [hmemo]
  rw [run_bind, run_ofExcept, hselect]
  dsimp only
  rw [run_bind, run_sendForValue]
  rcases hexchange : session.exchange .count (.search request) with ⟨_ | value, later⟩ <;>
    rw [hexchange] at hgained
  · exact hgained
  · dsimp only [Except.map]
    split <;> exact hgained

section Runs

variable {start : Session} (hnew : start.memo = none) {turns : List Turn}

include hnew

theorem reuses_of_reusable (h : Reusable start turns) (reading : Reading) :
    ∃ found, latestFound? start turns = some found ∧
      reading.Reuses (afterTurns start turns) found := by
  obtain ⟨earlier, hlatest, hoffset⟩ := h
  have hexplains := explains_memo hnew turns
  cases hmemo : (afterTurns start turns).memo with
  | none =>
    rw [hmemo] at hexplains
    exact absurd hlatest (hexplains earlier)
  | some memo =>
    rw [hmemo] at hexplains
    obtain ⟨_, hlatest', hsame, hfound⟩ := hexplains
    obtain rfl := hlatest.unique hlatest'
    exact ⟨memo.results, hfound, run_reading_reused reading hmemo (hsame.symm.trans hoffset)⟩

theorem searches_of_not_reusable (h : ¬ Reusable start turns) (reading : Reading) :
    reading.Searches (afterTurns start turns) := by
  have hexplains := explains_memo hnew turns
  refine searches_of_fresh reading fun memo hmemo hoffset => h ?_
  rw [hmemo] at hexplains
  obtain ⟨earlier, hlatest, hearlier, -⟩ := hexplains
  exact ⟨earlier, hlatest, hearlier.trans hoffset⟩

theorem totalAtHand_iff {total : Nat} : TotalAtHand start turns total ↔
    (afterTurns start turns).memo.bind (·.results.total?) = some total := by
  have hexplains := explains_memo hnew turns
  cases hmemo : (afterTurns start turns).memo with
  | none =>
    rw [hmemo] at hexplains
    exact ⟨fun ⟨earlier, _, hlatest, _⟩ => absurd hlatest (hexplains earlier), fun h => nomatch h⟩
  | some memo =>
    rw [hmemo] at hexplains
    obtain ⟨earlier, hlatest, -, hfound⟩ := hexplains
    rw [Option.bind_some]
    constructor
    · rintro ⟨-, found, -, hfound', htotal⟩
      obtain rfl := Option.some.inj (hfound.symm.trans hfound')
      exact htotal
    · exact fun htotal => ⟨earlier, memo.results, hlatest, hfound, htotal⟩

end Runs

/-- A reading call that failed leaves nothing to answer from. -/
theorem not_reusable_of_failed {start earlier : Session} {turns : List Turn} {failed : Reading}
    (hlast : (readings start turns).getLast? = some (earlier, failed))
    (hfails : ¬ failed.Succeeds earlier) : ¬ Reusable start turns := by
  rintro ⟨_, ⟨latest, hlatest, hsucceeds⟩, -⟩
  rw [hlast] at hlatest
  cases hlatest
  exact hfails hsucceeds

/-- Over any turns on a new session, a reading call answers from the latest search exactly when the
latest reading call succeeded with the offset of now, and searches anew otherwise, so also after
every reading call that failed. Other calls leave the results at hand alone, and a count takes its
total from them whenever they tell it. -/
theorem readings_share_latest_search {start : Session} (hnew : start.memo = none)
    (turns : List Turn) :
    (∀ reading : Reading,
      (Reusable start turns → ∃ found, latestFound? start turns = some found ∧
        reading.Reuses (afterTurns start turns) found) ∧
      (¬ Reusable start turns → reading.Searches (afterTurns start turns))) ∧
    (∀ earlier failed, (readings start turns).getLast? = some (earlier, failed) →
      ¬ failed.Succeeds earlier → ∀ reading : Reading, reading.Searches (afterTurns start turns)) ∧
    (∀ call : Unshared, (call.after (afterTurns start turns)).memo = (afterTurns start turns).memo) ∧
    (∀ request, Dsl.select (afterTurns start turns).target (afterTurns start turns).query =
        .ok request →
      (∀ total, TotalAtHand start turns total →
        count.run.run (afterTurns start turns) = (.ok total, afterTurns start turns)) ∧
      ((∀ total, ¬ TotalAtHand start turns total) → ∃ counting,
        (count.run.run (afterTurns start turns)).2.gainedSince (afterTurns start turns) =
          [.counted .count, .sent (.search counting)])) := by
  refine ⟨fun reading => ⟨fun h => reuses_of_reusable hnew h reading,
    fun h => searches_of_not_reusable hnew h reading⟩, ?_, fun call => call.memo_after _, ?_⟩
  · intro earlier failed hlast hfails reading
    exact searches_of_not_reusable hnew (not_reusable_of_failed hlast hfails) reading
  · intro request hselect
    obtain ⟨counting, hcounting⟩ := exists_select_countQuery hselect
    simp only [totalAtHand_iff hnew]
    constructor
    · intro total htotal
      exact run_count_at_hand htotal
    · intro hnone
      exact ⟨counting, gainedSince_count (Option.eq_none_iff_forall_ne_some.mpr hnone) hcounting⟩

/-- A response without documents, which tells its total and how long it took. -/
def totalResponse : Json :=
  .obj [("hits", .obj [("hits", .arr []), ("total", .int 5)]), ("took", .int 3)]

/-- A session with a server that has one response to give. -/
def totalSession : Session where
  target := {}
  query := { collection := "posts" }
  server := .direct [.ok (some totalResponse)] false

/-- A limit and a look-up between two reading calls do not matter, and the count asks nobody. -/
theorem readings_share_latest_search_totalSession :
    let now := afterTurns totalSession
      [.read .documents, .edit (·.withLimit 7), .other (.document "1")]
    took.run.run now = (.ok (some 3), now.record .reused) ∧ count.run.run now = (.ok 5, now) := by
  obtain ⟨hread, -, -, hcount⟩ := @readings_share_latest_search totalSession rfl
    [.read .documents, .edit (·.withLimit 7), .other (.document "1")]
  have hlatest : LatestSucceeded totalSession
      [.read .documents, .edit (·.withLimit 7), .other (.document "1")] totalSession :=
    ⟨.documents, rfl, _, rfl⟩
  obtain ⟨found, hfound, hreuses⟩ := (hread .took).1 ⟨_, hlatest, rfl⟩
  obtain rfl : SearchResults.ofResponse false totalResponse = found := Option.some.inj hfound
  exact ⟨hreuses, (hcount _ rfl).1 5 ⟨_, _, hlatest, hfound, rfl⟩⟩

end Call

end SearchQuery
