import SearchQuery.Proofs.Session.Deletion
import SearchQuery.Proofs.Session.Memo
import SearchQuery.Proofs.Session.Paging
/-!
# Which documents a session means

Calls that read, count, stream or delete by the query of a session compile it in different ways, but
all for the same documents. The scope of a request says which ones: its index, its query and its
post filter. What else a request has shapes the answer, or how the work is done.
-/

namespace SearchQuery

/-- The documents that a request is about: those of an index that satisfy two trees. -/
structure Scope where
  index : String
  query : Option Json
  postFilter : Option Json

def SearchBody.scope (index : String) (body : SearchBody) : Scope :=
  { index, query := body.query, postFilter := body.postFilter }

def SearchRequest.scope (request : SearchRequest) : Scope := request.body.scope request.index

/-- The scope of a request that names documents by a query. -/
def Request.scope? : Request → Option Scope
  | .search request => some request.scope
  | .deleteByQuery request => some (request.body.scope request.index)
  | _ => none

/-- The requests that a session has sent since it was an earlier one. -/
def Session.sentSince (later earlier : Session) : List Request :=
  (later.gainedSince earlier).filterMap fun
    | .sent request => some request
    | _ => none

theorem Session.sentSince_exchange (session : Session) (operation : Operation)
    (request : Request) : (session.exchange operation request).2.sentSince session = [request] := by
  rw [sentSince, Call.gainedSince_exchange]
  rfl

namespace Dsl

variable {target : Target} {query : Query}

/-- What compiled clauses say about the documents of an index. -/
def Contexts.scope (index : String) (compiled : Contexts) : Scope where
  index := index
  query := match compiled.filter with
    | some filter => some (attachFilter compiled.query filter)
    | none => compiled.query
  postFilter := compiled.postFilter

/-- The scope of a search comes from the clauses of the query alone. -/
theorem scope_of_select {request : SearchRequest} (h : select target query = .ok request) :
    ∃ compiled, contexts target query.collection query = .ok compiled ∧
      request.scope = compiled.scope (target.indexName query.collection) := by
  simp only [select, bind_eq_ok, pure_eq_ok] at h
  obtain ⟨_, hbody, rfl⟩ := h
  obtain ⟨compiled, _, hcompiled, -, rfl⟩ := body_eq_ok.mp hbody
  exact ⟨compiled, hcompiled, rfl⟩

theorem select_of_contexts_error {error : Error}
    (h : contexts target query.collection query = .error error) :
    select target query = .error error := by
  rw [select, body, h]
  rfl

/-- The deletion of what a search finds. -/
def deletionOf (query : Query) (request : SearchRequest) : DeleteRequest where
  index := request.index
  body := { request.body with sort := none, offset := none, size := none, aggregations := none }
  maxDocs := query.limit
  conflicts := query.options.conflicts
  refresh := query.options.refresh

theorem delete_eq_map_select (target : Target) (query : Query) :
    delete target query = (select target query).map (deletionOf query) := by
  rw [delete, select]
  cases body target query with
  | error => rfl
  | ok => rfl

end Dsl

/-- Requests that scroll name no documents. -/
theorem Cursor.scope?_of_isScroll {request : Request} (h : IsScroll request) :
    request.scope? = none := by
  cases request with
  | scroll | clearScroll => rfl
  | _ => cases h

namespace Call

/-- A call that reads or deletes by the query of a session. A cursor is asked for at least one
item; before that it does nothing. -/
inductive EntryPoint where
  | read (reading : Reading)
  | first
  | count
  | cursor (items : Option Nat) (asked : items ≠ some 0)
  | delete

namespace EntryPoint

/-- The failure of a call on a session, if it fails, and the session afterwards. -/
def run (session : Session) : EntryPoint → Option Error × Session
  | .read reading => failed (reading.call.run.run session)
  | .first => failed (Call.first.run.run session)
  | .count => failed (Call.count.run.run session)
  | .cursor items _ => match (Call.cursor items).run.run session with
    | (.ok steps, later) => (Cursor.failure? steps, later)
    | (.error error, later) => (some error, later)
  | .delete => failed (Call.delete.run.run session)
where
  failed {α : Type} (outcome : Except Error α × Session) : Option Error × Session :=
    (failure? outcome.1, outcome.2)

/-- The requests that a call sends, in order. -/
def requests (session : Session) (entry : EntryPoint) : List Request :=
  (entry.run session).2.sentSince session

/-- Whether a call reads page after page. -/
def IsPaged : EntryPoint → Prop
  | .cursor .. => True
  | _ => False

/-- The query that is compiled for a call. -/
def adjust : EntryPoint → Query → Query
  | .read reading => reading.adjust
  | .first => fun query => (query.withLimit 1).selectIfUnset ["*"]
  | .count => countQuery
  | .cursor .. | .delete => id

/-- The request that a call makes of a compiled search. -/
def request (query : Query) (compiled : SearchRequest) : EntryPoint → Request
  | .read _ | .first | .count => .search compiled
  | .cursor .. => Cursor.openingOf compiled
  | .delete => .deleteByQuery (Dsl.deletionOf query compiled)

theorem scope?_request (entry : EntryPoint) (query : Query) (compiled : SearchRequest) :
    (entry.request query compiled).scope? = some compiled.scope := by
  cases entry <;> rfl

theorem collection_adjust (entry : EntryPoint) (query : Query) :
    (entry.adjust query).collection = query.collection := by
  rcases entry with (_ | _ | _ | _) | _ | _ | _ | _ <;> rfl

/-- No call touches the clauses. -/
theorem contexts_adjust (entry : EntryPoint) (target : Target) (collection : String)
    (query : Query) :
    Dsl.contexts target collection (entry.adjust query) =
      Dsl.contexts target collection query := by
  cases query
  rcases entry with (_ | _ | _ | _) | _ | _ | _ | _ <;> rfl

/-- Only a count leaves out something that may fail to compile: the aggregations. -/
theorem searchConditions_adjust {entry : EntryPoint} (h : entry ≠ .count) (query : Query) :
    (entry.adjust query).searchConditions = query.searchConditions := by
  cases query
  rcases entry with (_ | _ | _ | _) | _ | _ | _ | _
  case count => exact absurd rfl h
  all_goals rfl

theorem exists_select_adjust (entry : EntryPoint) {target : Target} {query : Query}
    {own : SearchRequest} (h : Dsl.select target query = .ok own) :
    ∃ compiled, Dsl.select target (entry.adjust query) = .ok compiled := by
  by_cases hcount : entry = .count
  · subst hcount
    exact exists_select_countQuery h
  · have hnone : failure? (Dsl.select target (entry.adjust query)) = none := by
      rw [Dsl.failure?_select, searchConditions_adjust hcount, ← Dsl.failure?_select, h]
      rfl
    cases hselect : Dsl.select target (entry.adjust query) with
    | ok compiled => exact ⟨compiled, rfl⟩
    | error =>
      rw [hselect] at hnone
      cases hnone

theorem select_adjust_error {entry : EntryPoint} (hcount : entry ≠ .count) {target : Target}
    {query : Query} {error : Error} (h : Dsl.select target query = .error error) :
    Dsl.select target (entry.adjust query) = .error error := by
  rw [← failure?_eq_some, Dsl.failure?_select] at h ⊢
  rw [searchConditions_adjust hcount, h]

theorem scope_select_adjust {entry : EntryPoint} {target : Target} {query : Query}
    {own compiled : SearchRequest} (hown : Dsl.select target query = .ok own)
    (hcompiled : Dsl.select target (entry.adjust query) = .ok compiled) :
    compiled.scope = own.scope := by
  obtain ⟨first, hfirst, hscope⟩ := Dsl.scope_of_select hown
  obtain ⟨second, hsecond, hscope'⟩ := Dsl.scope_of_select hcompiled
  rw [collection_adjust, contexts_adjust, hfirst] at hsecond
  rw [hscope, hscope', collection_adjust, Except.ok.inj hsecond]

theorem run_first (session : Session) :
    Call.first.run.run session =
      match (search ((session.query.withLimit 1).selectIfUnset ["*"])).run.run session with
      | (.ok found, later) => (.ok found.documents.head?, later)
      | (.error error, later) => (.error error, later) := by
  rw [Call.first, run_bind, run_get]
  dsimp only
  rw [run_bind]
  rcases (search ((session.query.withLimit 1).selectIfUnset ["*"])).run.run session with ⟨_ | _, _⟩
  · rfl
  · rfl

theorem run_delete_of_error {session : Session} {error : Error}
    (h : Dsl.select session.target session.query = .error error) :
    Call.delete.run.run session = (.error error, session) := by
  rw [Call.delete, run_bind, run_get]
  dsimp only
  rw [run_deleteMatching, Dsl.delete_eq_map_select, h]
  rfl

theorem run_count_of_error {session : Session}
    (hmemo : session.memo.bind (·.results.total?) = none) {error : Error}
    (h : Dsl.select session.target (countQuery session.query) = .error error) :
    Call.count.run.run session = (.error error, session) := by
  rw [Call.count, run_bind, run_get]
  simp only [hmemo]
  rw [run_bind, run_ofExcept, h]

theorem run_cursor_of_error {session : Session} {error : Error} (items : Option Nat)
    (h : Dsl.select session.target session.query = .error error) :
    (Call.cursor items).run.run session =
      (.ok (if items = some 0 then [] else [.failure error]), session) := by
  have hsteps : Cursor.steps session.target session.query session.server = [.failure error] := by
    rw [Cursor.steps, Cursor.opening, h]
    rfl
  rw [Call.cursor, run_bind, run_get]
  dsimp only
  rw [hsteps, run_bind, run_set]
  rcases items with _ | _ | count
  · rfl
  · rfl
  · rfl

/-- A call whose query does not compile fails with what is wrong with it and does nothing. -/
theorem run_of_select_error {session : Session} (hmemo : session.memo = none)
    (entry : EntryPoint) {error : Error}
    (h : Dsl.select session.target (entry.adjust session.query) = .error error) :
    entry.run session = (some error, session) := by
  cases entry with
  | read reading =>
    have hselect : Dsl.select session.target (reading.adjust session.query) = .error error := h
    have hforget : { session with memo := none } = session := by rw [← hmemo]
    rw [run, @run_reading_fresh reading session (by simp [hmemo]), hselect]
    dsimp only
    rw [hforget]
    rfl
  | first =>
    have hselect : Dsl.select session.target ((session.query.withLimit 1).selectIfUnset ["*"]) =
      .error error := h
    rw [run, run_first, run_search, hselect]
    rfl
  | count =>
    rw [run, run_count_of_error (by rw [hmemo]; rfl) h]
    rfl
  | cursor items asked =>
    rw [run, run_cursor_of_error items h, if_neg asked]
    rfl
  | delete =>
    rw [run, run_delete_of_error h]
    rfl

theorem sentSince_read {session : Session} (hmemo : session.memo = none) (reading : Reading)
    {compiled : SearchRequest}
    (h : Dsl.select session.target (reading.adjust session.query) = .ok compiled) :
    (reading.call.run.run session).2.sentSince session = [.search compiled] := by
  have hsent := session.sentSince_exchange .search (.search compiled)
  have hrun := @run_reading_fresh reading session (by simp [hmemo])
  rw [hrun, h]
  dsimp only
  rcases hexchange : session.exchange .search (.search compiled) with ⟨_ | _, later⟩ <;>
    rw [hexchange] at hsent
  · exact hsent
  · exact hsent

theorem sentSince_first {session : Session} {compiled : SearchRequest}
    (h : Dsl.select session.target ((session.query.withLimit 1).selectIfUnset ["*"]) =
      .ok compiled) :
    (Call.first.run.run session).2.sentSince session = [.search compiled] := by
  have hsent := session.sentSince_exchange .search (.search compiled)
  rw [run_first, run_search, h]
  dsimp only
  rcases hexchange : session.exchange .search (.search compiled) with ⟨_ | _, later⟩ <;>
    rw [hexchange] at hsent
  · exact hsent
  · exact hsent

theorem sentSince_delete {session : Session} {own : SearchRequest}
    (h : Dsl.select session.target session.query = .ok own) :
    (Call.delete.run.run session).2.sentSince session =
      [.deleteByQuery (Dsl.deletionOf session.query own)] := by
  have hlog : (Call.delete.run.run session).2.log = _ := log_deleteMatching session.query session
  rw [Session.sentSince, Session.gainedSince, hlog, List.drop_left, Dsl.delete_eq_map_select, h]
  rfl

theorem filterMap_cursorEvents (requests : List Request) :
    ((cursorEvents requests).filterMap fun
      | .sent request => some request
      | _ => none) = requests := by
  induction requests with
  | nil => rfl
  | cons request rest ih => exact congrArg (request :: ·) ih

theorem sentSince_cursor {session : Session} {items : Option Nat} {own : SearchRequest}
    (asked : items ≠ some 0) (h : Dsl.select session.target session.query = .ok own) :
    ∃ later, ((Call.cursor items).run.run session).2.sentSince session =
        Cursor.openingOf own :: later ∧ ∀ other ∈ later, other.scope? = none := by
  obtain ⟨rest, hpages, hrest⟩ := Cursor.isScroll_behind_first
    { limit := session.query.limit, includeInnerHits := session.query.options.includeInnerHits }
    session.server.exhaustion session.server.pageReplies (Cursor.openingOf own) 0
  have hsteps : Cursor.steps session.target session.query session.server =
      .request (Cursor.openingOf own) :: rest := by
    rw [← hpages, Cursor.steps, Cursor.opening, h]
    rfl
  have hcursor : ∃ followed, (∀ step ∈ followed, step ∈ rest) ∧
      ((Call.cursor items).run.run session).2.log = session.log ++
        cursorEvents (Cursor.requests (.request (Cursor.openingOf own) :: followed)) := by
    rw [Call.cursor, run_bind, run_get]
    dsimp only
    rw [hsteps, run_bind, run_set]
    rcases items with _ | _ | count
    · exact ⟨rest, fun _ hstep => hstep, log_exchanges _ session⟩
    · exact absurd rfl asked
    · exact ⟨Cursor.untilItems (count + 1) rest, fun _ => Cursor.mem_of_mem_untilItems,
        log_exchanges _ session⟩
  obtain ⟨followed, hfollowed, hlog⟩ := hcursor
  refine ⟨Cursor.requests followed, ?_, fun other hother => ?_⟩
  · rw [Session.sentSince, Session.gainedSince, hlog, List.drop_left]
    exact filterMap_cursorEvents _
  · exact Cursor.scope?_of_isScroll (hrest other (hfollowed _ (Cursor.mem_requests.mp hother)))

/-- A call whose query compiles opens with the request that is compiled for it. -/
theorem requests_of_select {session : Session} (hmemo : session.memo = none)
    (entry : EntryPoint) {compiled : SearchRequest}
    (h : Dsl.select session.target (entry.adjust session.query) = .ok compiled) :
    ∃ later, entry.requests session = entry.request session.query compiled :: later ∧
      ∀ other ∈ later, entry.IsPaged ∧ other.scope? = none := by
  cases entry with
  | read reading => exact ⟨[], sentSince_read hmemo reading h, List.forall_mem_nil _⟩
  | first => exact ⟨[], sentSince_first h, List.forall_mem_nil _⟩
  | count =>
    refine ⟨[], ?_, List.forall_mem_nil _⟩
    have hgained := gainedSince_count (by rw [hmemo]; rfl) h
    rw [requests, Session.sentSince]
    exact congrArg _ hgained
  | cursor items asked =>
    obtain ⟨later, hsent, hlater⟩ := sentSince_cursor asked h
    refine ⟨later, ?_, fun other hother => ⟨trivial, hlater other hother⟩⟩
    exact hsent
  | delete => exact ⟨[], sentSince_delete h, List.forall_mem_nil _⟩

end EntryPoint

/-- On a session with no results at hand, every call that reads, counts, streams or deletes by the
query asks for the documents of the search of that query: its first request has the same index,
query and post filter, and what a cursor sends behind it names no documents. A deletion has none of
the members that only shape an answer, and the limit of the query is the largest number of documents
it deletes. Where the clauses do not compile, every call fails with the error of the search and does
nothing; where only the aggregations do not compile, every call but the count does. -/
theorem entry_points_share_scope {session : Session} (hmemo : session.memo = none) :
    (∀ own, Dsl.select session.target session.query = .ok own →
      (∀ entry : EntryPoint, ∃ compiled opening later,
        entry.requests session = opening :: later ∧
        opening = entry.request session.query compiled ∧ opening.scope? = some own.scope ∧
        ∀ other ∈ later, entry.IsPaged ∧ other.scope? = none) ∧
      ∃ deletion : DeleteRequest,
        EntryPoint.delete.requests session = [.deleteByQuery deletion] ∧
        deletion.body.sort = none ∧ deletion.body.offset = none ∧ deletion.body.size = none ∧
        deletion.body.aggregations = none ∧ deletion.maxDocs = session.query.limit) ∧
    (∀ error, Dsl.contexts session.target session.query.collection session.query = .error error →
      Dsl.select session.target session.query = .error error ∧
      ∀ entry : EntryPoint, entry.run session = (some error, session)) ∧
    (∀ error, Dsl.select session.target session.query = .error error →
      ∀ entry : EntryPoint, entry ≠ .count → entry.run session = (some error, session)) := by
  refine ⟨fun own hown => ⟨fun entry => ?_, ?_⟩, fun error herror => ?_, ?_⟩
  · obtain ⟨compiled, hcompiled⟩ := entry.exists_select_adjust hown
    obtain ⟨later, hrequests, hlater⟩ := entry.requests_of_select hmemo hcompiled
    refine ⟨compiled, _, later, hrequests, rfl, ?_, hlater⟩
    rw [entry.scope?_request, EntryPoint.scope_select_adjust hown hcompiled]
  · exact ⟨_, EntryPoint.sentSince_delete hown, rfl, rfl, rfl, rfl, rfl⟩
  · refine ⟨Dsl.select_of_contexts_error herror, fun entry => ?_⟩
    apply entry.run_of_select_error hmemo
    apply Dsl.select_of_contexts_error
    rw [entry.collection_adjust, entry.contexts_adjust, herror]
  · intro error herror entry hcount
    exact entry.run_of_select_error hmemo (EntryPoint.select_adjust_error hcount herror)

/-- A session whose query has clauses of every kind, a page, and the given clauses behind them. -/
def pickySession (further : List Clause) : Session where
  target := { indexSuffix := "_v1" }
  query := {
    collection := "posts"
    wheres := [.ofCondition (.eq "posts.status" (.plain (.str "open")))]
    filters := [.ofCondition (.eq "year" (.plain (.int 2020)))]
    postFilters := .ofCondition (.eq "lang" (.plain (.str "en"))) :: further
    limit := some 5
    offset := some 10 }
  server := .direct [] false

/-- A count counts what a search finds, whatever its limit, and is refused together with it. -/
theorem entry_points_share_scope_pickySession :
    (∃ own, Dsl.select { indexSuffix := "_v1" } (pickySession []).query = .ok own ∧
      own.scope = {
        index := "posts_v1"
        query := some (.single "bool" (.obj [
          ("filter", .single "term" (.single "year" (.int 2020))),
          ("must", .arr [.single "term" (.single "status" (.str "open"))])]))
        postFilter := some (.single "term" (.single "lang" (.str "en"))) } ∧
      ∃ counting, EntryPoint.count.requests (pickySession []) = [counting] ∧
        counting.scope? = some own.scope) ∧
    let refused := pickySession [.ofCondition (.datePart "posted" .year .like 2020)]
    EntryPoint.count.run refused = (some (.invalidOperator "like"), refused) := by
  constructor
  · obtain ⟨hcompiles, -⟩ := @entry_points_share_scope (pickySession []) rfl
    obtain ⟨hentries, -⟩ := hcompiles _ rfl
    obtain ⟨_, counting, later, hrequests, -, hscope, hlater⟩ := hentries .count
    refine ⟨_, rfl, rfl, counting, ?_, hscope⟩
    have hnone : later = [] := List.eq_nil_iff_forall_not_mem.mpr fun other h => (hlater other h).1
    rw [hrequests, hnone]
  · obtain ⟨-, hfails, -⟩ := @entry_points_share_scope
      (pickySession [.ofCondition (.datePart "posted" .year .like 2020)]) rfl
    exact (hfails _ rfl).2 .count

end Call

end SearchQuery
