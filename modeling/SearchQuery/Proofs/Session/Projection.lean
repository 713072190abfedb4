import SearchQuery.Proofs.Session.Unchanged
/-!
# Which columns an answer has

Every answer of a reading call goes back to one search, which asked for the columns of the reading
call that sent it. That is the reading call itself, unless the latest one succeeded with the same
offset: then it is an earlier one, which may have asked for other columns.
-/

namespace SearchQuery

theorem Dsl.source_of_select {target : Target} {query : Query} {request : SearchRequest}
    (h : Dsl.select target query = .ok request) :
    request.body.source = .ofColumns query.columns := by
  simp only [Dsl.select, bind_eq_ok, pure_eq_ok] at h
  obtain ⟨body, hbody, rfl⟩ := h
  obtain ⟨compiled, aggregated, -, -, rfl⟩ := Dsl.body_eq_ok.mp hbody
  rfl

namespace Call

/-- The fields that the search of a reading call asks for, if the query leaves the choice to it. -/
def Reading.projection : Reading → SourceFilter
  | .columns names => .ofColumns (some names)
  | .documents | .aggregations | .took => .all

/-- Whether a reading call sends a search and finds something with it. -/
def Reading.Finds (reading : Reading) (session : Session) (request : SearchRequest)
    (found : SearchResults) : Prop :=
  (reading.call.run.run session).2.gainedSince session =
      [.counted .search, .sent (.search request)] ∧
    ∃ value, (session.exchange .search (.search request)).1 = .ok value ∧
      found = .ofResponse session.query.options.includeInnerHits (value.getD .null)

/-! ### The search of a reading call -/

theorem projection_of_select {reading : Reading} {session : Session} {request : SearchRequest}
    (hcolumns : session.query.columns = none)
    (hselect : Dsl.select session.target (reading.adjust session.query) = .ok request) :
    request.body.source = reading.projection := by
  rw [Dsl.source_of_select hselect]
  cases reading with
  | columns names => simp [Reading.adjust, Query.selectIfUnset, Reading.projection, hcolumns]
  | documents =>
    simp [Reading.adjust, Query.selectIfUnset, Reading.projection, SourceFilter.ofColumns, hcolumns]
  | aggregations | took =>
    simp [Reading.adjust, Reading.projection, SourceFilter.ofColumns, hcolumns]

/-- What is found is what comes back for the search that was sent. -/
theorem found?_of_sent {reading : Reading} {session : Session} {request : SearchRequest}
    (h : (reading.call.run.run session).2.gainedSince session =
      [.counted .search, .sent (.search request)]) :
    reading.found? session = (session.exchange .search (.search request)).1.toOption.map
      fun value => .ofResponse session.query.options.includeInnerHits (value.getD .null) := by
  rw [Reading.found?, h]
  dsimp only
  cases (session.exchange .search (.search request)).1 with
  | error => rfl
  | ok value => rfl

theorem finds_of_found? {reading : Reading} {session : Session} {found : SearchResults}
    (h : reading.found? session = some found) :
    ∃ request, reading.Finds session request found ∧
      Dsl.select session.target (reading.adjust session.query) = .ok request := by
  obtain ⟨memo, hmemo, hhit⟩ | hmiss := memo_hit_or_miss session
  · rw [found?_reused reading hmemo hhit] at h
    cases h
  · have hsearches := searches_of_fresh reading hmiss
    unfold Reading.Searches at hsearches
    split at hsearches
    · rw [Reading.found?, hsearches.2] at h
      cases h
    · next request hselect =>
      rw [found?_of_sent hsearches.1] at h
      cases hreply : (session.exchange .search (.search request)).1 with
      | error => rw [hreply] at h; cases h
      | ok value =>
        rw [hreply] at h
        exact ⟨request, ⟨hsearches.1, value, hreply, (Option.some.inj h).symm⟩, hselect⟩

/-- A reading call that succeeds leaves the results at hand that it answers from. -/
theorem memo_after_read {reading : Reading} {session : Session} {answer : reading.Answer}
    (h : (reading.call.run.run session).1 = .ok answer) :
    ∃ memo, (reading.call.run.run session).2.memo = some memo ∧
      memo.offset = session.query.offset ∧ answer = reading.answer memo.results := by
  obtain ⟨memo, hmemo, hhit⟩ | hmiss := memo_hit_or_miss session
  · rw [run_reading_reused reading hmemo hhit] at h ⊢
    exact ⟨memo, hmemo, hhit, (Except.ok.inj h).symm⟩
  · have hrun := run_reading_fresh reading hmiss
    split at hrun
    · rw [hrun] at h
      cases h
    · split at hrun
      · rw [hrun] at h
        cases h
      · rw [hrun] at h ⊢
        exact ⟨_, rfl, rfl, (Except.ok.inj h).symm⟩

/-! ### Runs -/

/-- Where results at hand come from: a reading call `asker`, on the session `origin`, has found them
at their offset, and the reading calls `since` have found nothing. -/
structure FoundBy (start : Session) (turns : List Turn) (memo : Memo) (origin : Session)
    (asker : Reading) (since : List (Session × Reading)) : Prop where
  suffix : (origin, asker) :: since <:+ readings start turns
  silent : ∀ entry ∈ since, entry.2.found? entry.1 = none
  offset : origin.query.offset = memo.offset
  found : asker.found? origin = some memo.results

theorem FoundBy.concat_of_not_reading {start origin : Session} {turns : List Turn} {memo : Memo}
    {asker : Reading} {since : List (Session × Reading)} {turn : Turn}
    (hturn : ∀ session, turn.readings session = [])
    (h : FoundBy start turns memo origin asker since) :
    FoundBy start (turns ++ [turn]) memo origin asker since := by
  have hreadings : readings start (turns ++ [turn]) = readings start turns := by
    rw [readings_concat, hturn, List.append_nil]
  exact { h with suffix := hreadings ▸ h.suffix }

/-- The step of a reading call: it keeps the results at hand, or has found those that it leaves. -/
theorem foundBy_read {start : Session} {turns : List Turn} {reading : Reading} {memo : Memo}
    (hbefore : ∀ memo, (afterTurns start turns).memo = some memo →
      ∃ origin asker since, FoundBy start turns memo origin asker since)
    (hmemo : (reading.call.run.run (afterTurns start turns)).2.memo = some memo) :
    ∃ origin asker since, FoundBy start (turns ++ [.read reading]) memo origin asker since := by
  have hreadings := readings_concat start turns (.read reading)
  obtain ⟨held, hheld, hhit⟩ | hmiss := memo_hit_or_miss (afterTurns start turns)
  · rw [run_reading_reused reading hheld hhit] at hmemo
    obtain rfl : held = memo := Option.some.inj (hheld.symm.trans hmemo)
    obtain ⟨origin, asker, since, hfound⟩ := hbefore held hheld
    refine ⟨origin, asker, since ++ [(afterTurns start turns, reading)], ?_, ?_, hfound.offset,
      hfound.found⟩
    · rw [hreadings]
      exact (List.suffix_append_self_iff).mpr hfound.suffix
    · intro entry hentry
      obtain hentry | hentry := List.mem_append.mp hentry
      · exact hfound.silent entry hentry
      · rw [List.mem_singleton.mp hentry]
        exact found?_reused reading hheld hhit
  · have hrun := run_reading_fresh reading hmiss
    split at hrun
    · rw [hrun] at hmemo
      cases hmemo
    · split at hrun
      · rw [hrun] at hmemo
        cases hmemo
      · next hexchange =>
        have hfound := found?_searched hrun hexchange
        rw [hrun] at hmemo
        obtain rfl := (Option.some.inj hmemo).symm
        refine ⟨afterTurns start turns, reading, [], ?_, ?_, rfl, hfound⟩
        · rw [hreadings]
          exact List.suffix_append _ _
        · exact fun _ h => nomatch h

/-- Over any turns on a new session, results at hand come from a reading call. -/
theorem foundBy_memo {start : Session} (hnew : start.memo = none) (turns : List Turn) (memo : Memo)
    (hmemo : (afterTurns start turns).memo = some memo) :
    ∃ origin asker since, FoundBy start turns memo origin asker since := by
  induction turns using List.reverseRecOn generalizing memo with
  | nil =>
    rw [show (afterTurns start []).memo = none from hnew] at hmemo
    cases hmemo
  | append_singleton turns turn ih =>
    rw [afterTurns_concat] at hmemo
    cases turn with
    | read reading => exact foundBy_read ih hmemo
    | edit change =>
      obtain ⟨origin, asker, since, h⟩ := ih memo hmemo
      exact ⟨origin, asker, since, h.concat_of_not_reading fun _ => rfl⟩
    | other call =>
      rw [Turn.after, call.memo_after] at hmemo
      obtain ⟨origin, asker, since, h⟩ := ih memo hmemo
      exact ⟨origin, asker, since, h.concat_of_not_reading fun _ => rfl⟩

/-- Without a choice of columns in the query, and without edits that make one, no reading call meets
a choice. -/
theorem columns_of_mem_readings {start : Session} (hunselected : start.query.columns = none)
    {turns : List Turn}
    (hedits : ∀ change, .edit change ∈ turns → ∀ query, (change query).columns = query.columns)
    {entry : Session × Reading} (hentry : entry ∈ readings start turns) :
    entry.1.query.columns = none := by
  induction turns generalizing start with
  | nil => cases hentry
  | cons turn rest ih =>
    have hafter : (turn.after start).query.columns = none := by
      rw [query_after_turn]
      cases turn with
      | edit change => exact (hedits change List.mem_cons_self _).trans hunselected
      | read reading => exact hunselected
      | other call => exact hunselected
    obtain hentry | hentry := List.mem_append.mp hentry
    · cases turn with
      | read reading =>
        rw [List.mem_singleton.mp hentry]
        exact hunselected
      | edit change => cases hentry
      | other call => cases hentry
    · exact ih hafter (fun change hchange => hedits change (List.mem_cons_of_mem _ hchange)) hentry

theorem found?_eq_none_iff_reusable {start : Session} (hnew : start.memo = none)
    {turns : List Turn} {reading : Reading}
    (hsucceeds : reading.Succeeds (afterTurns start turns)) :
    reading.found? (afterTurns start turns) = none ↔ Reusable start turns := by
  constructor
  · intro hnone
    by_contra hfresh
    have hsearches := searches_of_not_reusable hnew hfresh reading
    obtain ⟨answer, hanswer⟩ := hsucceeds
    unfold Reading.Searches at hsearches
    split at hsearches
    · rw [hsearches.1] at hanswer
      cases hanswer
    · next request hselect =>
      rw [hsearches.2] at hanswer
      rw [found?_of_sent hsearches.1] at hnone
      cases hreply : ((afterTurns start turns).exchange .search (.search request)).1 with
      | error => rw [hreply] at hanswer; cases hanswer
      | ok value => rw [hreply] at hnone; cases hnone
  · intro hreusable
    obtain ⟨found, -, hreuses⟩ := reuses_of_reusable hnew hreusable reading
    rw [Reading.found?, hreuses]
    simp [Session.gainedSince, Session.record]

/-- Behind a reading call, the latest reading call is that one. -/
theorem FoundBy.last_read {start origin : Session} {turns : List Turn} {reading asker : Reading}
    {memo : Memo} {since : List (Session × Reading)}
    (h : FoundBy start (turns ++ [.read reading]) memo origin asker since) :
    ((origin, asker) :: since).getLast (List.cons_ne_nil _ _) =
      (afterTurns start turns, reading) := by
  obtain ⟨front, hfront⟩ := h.suffix
  rw [readings_concat, Turn.readings] at hfront
  have hlast := congrArg List.getLast? hfront
  rw [List.getLast?_append, List.getLast?_eq_some_getLast (List.cons_ne_nil _ _), Option.some_or,
    List.getLast?_concat] at hlast
  exact Option.some.inj hlast

/-- An answer comes from the search of its own call exactly where that call has found something. -/
theorem FoundBy.since_eq_nil_iff {start origin : Session} {turns : List Turn}
    {reading asker : Reading} {memo : Memo} {since : List (Session × Reading)}
    (h : FoundBy start (turns ++ [.read reading]) memo origin asker since) :
    since = [] ↔ reading.found? (afterTurns start turns) ≠ none := by
  have hlast := h.last_read
  constructor
  · rintro rfl
    obtain ⟨rfl, rfl⟩ := Prod.mk.inj hlast
    rw [h.found]
    exact Option.some_ne_none _
  · intro hfound
    by_contra hsince
    rw [List.getLast_cons hsince] at hlast
    have hmem := List.getLast_mem hsince
    rw [hlast] at hmem
    exact hfound (h.silent _ hmem)

/-- Over any turns that leave the choice of columns open, an answer comes from the latest search that
a reading call has made with success, for the offset of now. That search asked for the columns of
the call that sent it, which is the call that answers unless it may answer from earlier results. -/
theorem answers_carry_projection_of_asker {start : Session} (hnew : start.memo = none)
    (hunselected : start.query.columns = none) {turns : List Turn}
    (hedits : ∀ change, .edit change ∈ turns → ∀ query, (change query).columns = query.columns)
    {reading : Reading} {answer : reading.Answer}
    (hrun : (reading.call.run.run (afterTurns start turns)).1 = .ok answer) :
    ∃ origin asker since request found,
      (origin, asker) :: since <:+ readings start (turns ++ [.read reading]) ∧
      (∀ entry ∈ since, entry.2.found? entry.1 = none) ∧
      origin.query.offset = (afterTurns start turns).query.offset ∧
      asker.Finds origin request found ∧
      request.body.source = asker.projection ∧
      answer = reading.answer found ∧
      (since = [] ↔ ¬ Reusable start turns) ∧
      (since = [] → origin = afterTurns start turns ∧ asker = reading) := by
  obtain ⟨memo, hmemo, hoffset, rfl⟩ := memo_after_read hrun
  have hturns : (afterTurns start (turns ++ [.read reading])).memo = some memo := by
    rw [afterTurns_concat]
    exact hmemo
  obtain ⟨origin, asker, since, hby⟩ := foundBy_memo hnew _ memo hturns
  obtain ⟨request, hfinds, hselect⟩ := finds_of_found? hby.found
  have hcolumns : origin.query.columns = none := by
    refine columns_of_mem_readings hunselected ?_ (hby.suffix.mem List.mem_cons_self)
    intro change hchange
    exact hedits change (by simpa using hchange)
  refine ⟨origin, asker, since, request, memo.results, hby.suffix, hby.silent,
    hby.offset.trans hoffset, hfinds, projection_of_select hcolumns hselect, rfl, ?_, ?_⟩
  · rw [hby.since_eq_nil_iff, ← found?_eq_none_iff_reusable hnew ⟨_, hrun⟩]
  · rintro rfl
    exact Prod.mk.inj hby.last_read

/-- A response with one post. -/
def postResponse (fields : Object) : Json :=
  .obj [("hits", .obj [("hits", .arr [.obj [("_id", .str "1"), ("_source", .obj fields)]])])]

/-- A session with a server that has a post with its title only, and then the whole post. -/
def postSession : Session where
  target := {}
  query := { collection := "posts" }
  server := .direct [.ok (some (postResponse [("title", .str "a")])),
    .ok (some (postResponse [("text", .str "b"), ("title", .str "a")]))] false

/-- With another offset, a post is read as a whole although only its title was read before. -/
theorem answers_carry_projection_of_asker_postSession :
    let now := afterTurns postSession [.read (.columns ["title"]), .edit (·.withOffset 20)]
    ∃ request found, Reading.documents.Finds now request found ∧ request.body.source = .all ∧
      found.documents = [[("id", .str "1"), ("text", .str "b"), ("title", .str "a")]] := by
  intro now
  have hfresh : ¬ Reusable postSession [.read (.columns ["title"]), .edit (·.withOffset 20)] := by
    rintro ⟨earlier, ⟨reading, hlast, -⟩, hoffset⟩
    obtain ⟨rfl, -⟩ := Prod.mk.inj (Option.some.inj hlast)
    cases hoffset
  have hedits : ∀ change, Turn.edit change ∈
      [Turn.read (.columns ["title"]), .edit (·.withOffset 20)] →
        ∀ query, (change query).columns = query.columns := by
    intro change hchange query
    simp only [List.mem_cons, reduceCtorEq, Turn.edit.injEq, List.not_mem_nil, or_false,
      false_or] at hchange
    rw [hchange]
    rfl
  obtain ⟨origin, asker, since, request, found, -, -, -, hfinds, hsource, hanswer, hnil, hown⟩ :=
    @answers_carry_projection_of_asker postSession rfl rfl _ hedits .documents _ rfl
  obtain ⟨rfl, rfl⟩ := hown (hnil.mpr hfresh)
  exact ⟨request, found, hfinds, hsource, hanswer.symm⟩

/-- With the same offset, it is not: whole documents are asked for, but the title is all that comes
back, and no request has asked for more. -/
theorem answer_keeps_earlier_columns :
    let now := afterTurns postSession [.read (.columns ["title"])]
    now.query = postSession.query ∧
      (getDocuments.run.run now).1 = .ok [[("id", .str "1"), ("title", .str "a")]] ∧
      ∀ request, .sent (.search request) ∈ (getDocuments.run.run now).2.log →
        request.body.source = .fields ["title"] ∧
          request.body.source ≠ Reading.documents.projection := by
  intro now
  refine ⟨rfl, rfl, ?_⟩
  intro request hrequest
  have hlog : ∃ asked, (getDocuments.run.run now).2.log =
      [.counted .search, .sent (.search asked), .reused] ∧
        asked.body.source = .fields ["title"] := ⟨_, rfl, rfl⟩
  obtain ⟨asked, hlog, hsource⟩ := hlog
  rw [hlog] at hrequest
  obtain rfl : request = asked := by simpa using hrequest
  rw [hsource]
  exact ⟨rfl, fun h => nomatch h⟩

end Call

end SearchQuery
