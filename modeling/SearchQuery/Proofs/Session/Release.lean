import SearchQuery.Proofs.Session.Paging
/-!
# Which scrolls are closed

A cursor that ends by itself closes the scroll of its last page, if that page has one. The scroll of
an earlier page is not remembered: behind a last page without a scroll, the one received before it
stays open.
-/

namespace SearchQuery

namespace Cursor

/-- The scroll that was received last with so many pages, from the first one on. -/
def latestScroll? (page : Nat → SearchResults) (count : Nat) : Option String :=
  ((List.range count).filterMap fun i => (page i).scrollId?).getLast?

theorem latestScroll?_succ (page : Nat → SearchResults) (count : Nat) :
    latestScroll? page (count + 1) = (page count).scrollId?.or (latestScroll? page count) := by
  unfold latestScroll?
  rw [List.range_succ, List.filterMap_append, List.getLast?_append]
  cases h : (page count).scrollId? <;> simp [h]

theorem isPage_of_mem_scrolls {page : Nat → SearchResults} {last : Nat} {request : Request}
    (h : request ∈ scrolls page last) : request.IsPage := by
  obtain ⟨i, -, hi⟩ := List.mem_filterMap.mp h
  obtain ⟨id, -, rfl⟩ := Option.map_eq_some_iff.mp hi
  trivial

theorem isPage_of_mem_asked {page : Nat → SearchResults} {last : Nat} {opened : SearchRequest}
    {request : Request} (h : request ∈ openingOf opened :: scrolls page last) :
    request.IsPage := by
  obtain rfl | h := List.mem_cons.mp h
  · trivial
  · exact isPage_of_mem_scrolls h

variable {limit : Option Nat} {count : Nat} {last : SearchResults}

/-- A last page without a scroll leaves nothing that is closed. -/
theorem closing_of_none (h : last.scrollId? = none) : closing limit count last = [] := by
  unfold closing
  rw [h]
  split
  · rfl
  · rfl

/-- A last page with a scroll has ended the cursor in a way that closes it. -/
theorem closing_of_some {id : String} (hend : Ends limit count last)
    (h : last.scrollId? = some id) : closing limit count last = [.clearScroll id] := by
  have hclosed : last.documents = [] ∨ Reaches limit count := by
    obtain hempty | hreached | hnone := hend
    · exact .inl hempty
    · exact .inr hreached
    · rw [h] at hnone
      cases hnone
  rw [closing, if_pos hclosed, h]
  rfl

end Cursor

namespace Call

open Cursor

theorem mem_cursorEvents {request : Request} {requests : List Request} :
    .sent request ∈ cursorEvents requests ↔ request ∈ requests := by
  simp [cursorEvents]

/-- A cursor that is read to its end asks for the pages up to the one that ends it, and then at most
closes a scroll. -/
theorem log_cursor {session : Session} {request : SearchRequest} {reply : Nat → Reply}
    {page : Nat → SearchResults} {last : Nat}
    (hselect : Dsl.select session.target session.query = .ok request)
    (hserver : session.server.Answers reply)
    (hbefore : ∀ i < last,
      Carries session.query.options.includeInnerHits (reply i) (page i) ∧
        ¬ Ends session.query.limit (received page (i + 1)).length (page i))
    (hlast : Carries session.query.options.includeInnerHits (reply last) (page last))
    (hend : Ends session.query.limit (received page (last + 1)).length (page last)) :
    ((cursor none).run.run session).2.log = session.log ++ cursorEvents
      (openingOf request :: scrolls page last ++
        closing session.query.limit (received page (last + 1)).length (page last)) := by
  obtain rfl := hserver.eq_scripted
  let settings : Settings :=
    { limit := session.query.limit, includeInnerHits := session.query.options.includeInnerHits }
  have hsteps : Cursor.steps session.target session.query session.server =
      pages settings session.server.exhaustion session.server.pageReplies (openingOf request) 0 := by
    rw [Cursor.steps, opening, hselect]
    rfl
  have hrequests := (pages_until_end settings (openingOf request) hbefore hlast hend).2
  rw [← hsteps] at hrequests
  rw [← hrequests]
  exact log_exchanges _ session

/-- If a page had a scroll, a cursor that has ended by itself has closed the scroll received last, by
its last request and no other: this is so exactly where the page that ended it has a scroll, or is
the only page. -/
theorem cursor_closes_latest_scroll_iff {session : Session} {request : SearchRequest}
    {reply : Nat → Reply} {page : Nat → SearchResults} {last : Nat}
    (hselect : Dsl.select session.target session.query = .ok request)
    (hserver : session.server.Answers reply)
    (hbefore : ∀ i < last,
      Carries session.query.options.includeInnerHits (reply i) (page i) ∧
        ¬ Ends session.query.limit (received page (i + 1)).length (page i))
    (hlast : Carries session.query.options.includeInnerHits (reply last) (page last))
    (hend : Ends session.query.limit (received page (last + 1)).length (page last)) :
    ((∃ i ≤ last, (page i).scrollId? ≠ none) →
      ∃ id asked, latestScroll? page (last + 1) = some id ∧
        ((cursor none).run.run session).2.log =
          session.log ++ cursorEvents (asked ++ [.clearScroll id]) ∧
        ∀ request ∈ asked, request.IsPage) ↔
      (page last).scrollId? ≠ none ∨ last = 0 := by
  have hlog := log_cursor hselect hserver hbefore hlast hend
  constructor
  · intro hcloses
    by_cases hnone : (page last).scrollId? = none
    · obtain rfl | hpositive := Nat.eq_zero_or_pos last
      · exact .inr rfl
      -- The page in front of the last one has a scroll, or else it would have ended the cursor.
      have hprevious : (page (last - 1)).scrollId? ≠ none := fun h =>
        (hbefore (last - 1) (by omega)).2 (.inr (.inr h))
      obtain ⟨id, asked, -, hclosed, -⟩ := hcloses ⟨last - 1, by omega, hprevious⟩
      rw [closing_of_none hnone, List.append_nil] at hlog
      rw [hlog, List.append_cancel_left_eq] at hclosed
      have hmem : Event.sent (.clearScroll id) ∈
          cursorEvents (openingOf request :: scrolls page last) := by
        rw [hclosed, mem_cursorEvents]
        simp
      exact (isPage_of_mem_asked (mem_cursorEvents.mp hmem)).elim
    · exact .inl hnone
  · intro hlastOrOnly hscroll
    have hsome : (page last).scrollId? ≠ none := by
      obtain hsome | rfl := hlastOrOnly
      · exact hsome
      · obtain ⟨i, hi, hsome⟩ := hscroll
        rwa [Nat.le_zero.mp hi] at hsome
    obtain ⟨id, hid⟩ := Option.ne_none_iff_exists'.mp hsome
    rw [closing_of_some hend hid] at hlog
    refine ⟨id, _, ?_, hlog, fun _ => isPage_of_mem_asked⟩
    rw [latestScroll?_succ, hid, Option.some_or]

/-- A session with a server that has a page of one document with a scroll, and one page more. -/
def twoPageSession (tail : Json) : Session where
  target := {}
  query := { collection := "posts" }
  server := .direct [.ok (some (idPage "s1" ["1"])), .ok (some tail)] false

/-- The empty page that ends the cursor has a scroll of its own, which is closed. -/
theorem cursor_closes_latest_scroll_twoPageSession : ∃ asked : List Request,
    ((cursor none).run.run (twoPageSession (idPage "s2" []))).2.log =
      cursorEvents (asked ++ [.clearScroll "s2"]) ∧ ∀ request ∈ asked, request.IsPage := by
  let page : Nat → SearchResults
    | 0 => .ofResponse false (idPage "s1" ["1"])
    | _ => .ofResponse false (idPage "s2" [])
  let session := twoPageSession (idPage "s2" [])
  have hbefore : ∀ i < 1, Carries false (Server.scripted none session.server.pageReplies i)
      (page i) ∧ ¬ Ends none (received page (i + 1)).length (page i) := by
    intro i hi
    obtain rfl : i = 0 := by omega
    refine ⟨⟨_, rfl, rfl⟩, ?_⟩
    rintro (hempty | hreaches | hscroll)
    · cases hempty
    · cases hreaches
    · cases hscroll
  have hcloses := (@cursor_closes_latest_scroll_iff session _ _ page 1 rfl
    (Server.answers_scripted _) hbefore ⟨_, rfl, rfl⟩ (.inl rfl)).mpr (.inl (fun h => nomatch h))
  obtain ⟨id, asked, hid, hlog, hasked⟩ := hcloses ⟨0, by omega, fun h => nomatch h⟩
  obtain rfl : id = "s2" := (Option.some.inj hid).symm
  exact ⟨asked, hlog, hasked⟩

/-- An empty page without a scroll ends the cursor, and the scroll of the page in front of it stays
open. -/
theorem cursor_leaves_scroll_open : ∃ steps later request,
    (cursor none).run.run (twoPageSession Server.emptyPage) = (.ok steps, later) ∧
      items steps = [.ok [("id", .str "1")]] ∧
      later.log = cursorEvents [openingOf request, .scroll "s1"] ∧
      ∀ id, .sent (.clearScroll id) ∉ later.log := by
  have hlog : ∃ request, ((cursor none).run.run (twoPageSession Server.emptyPage)).2.log =
      cursorEvents [openingOf request, .scroll "s1"] := ⟨_, rfl⟩
  obtain ⟨request, hlog⟩ := hlog
  refine ⟨_, _, request, rfl, rfl, hlog, fun id hid => ?_⟩
  have hmem := hlog ▸ hid
  rw [mem_cursorEvents] at hmem
  obtain h | h := List.mem_cons.mp hmem
  · cases h
  · cases List.mem_singleton.mp h

end Call

end SearchQuery
