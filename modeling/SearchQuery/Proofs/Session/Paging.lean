import SearchQuery.Proofs.Session.Run
/-!
# What a cursor reads

The pages of a server are what it answers to the requests for pages, one after the other. A cursor
reads them up to the first page that ends it or the first request that fails, hands out their
documents in order and no more of them than the limit, and asks for each page with the scroll of the
page before it. The scroll is closed where the cursor ends by itself, and that has no effect on what
is handed out.
-/

namespace SearchQuery

/-- Whether a request is one for a page of a cursor. -/
def Request.IsPage : Request → Prop
  | .search _ | .scroll _ => True
  | _ => False

namespace Server

/-- The server after it has answered requests. -/
def after (server : Server) (requests : List Request) : Server :=
  requests.foldl (fun server request => (server.exchange request).2) server

/-- `server.Answers reply`: the request for a page that comes behind `n` others gets `reply n`. -/
def Answers (server : Server) (reply : Nat → Reply) : Prop :=
  ∀ (front : List Request) (request : Request), (∀ earlier ∈ front, earlier.IsPage) →
    request.IsPage → ((server.after front).exchange request).1 = reply front.length

/-- What comes back for every request of a page once a script is used up. -/
def exhausted : Option Error → Reply
  | some error => .error error
  | none => .ok (some emptyPage)

/-- The reply with a number in a script that goes on forever with what comes when it is used up. -/
def scripted (exhaustion : Option Error) (replies : List Reply) (n : Nat) : Reply :=
  replies[n]?.getD (exhausted exhaustion)

theorem scripted_succ (exhaustion : Option Error) (replies : List Reply) (n : Nat) :
    scripted exhaustion replies (n + 1) = scripted exhaustion replies.tail n := by
  cases replies <;> simp [scripted]

/-- A request for a page takes one reply off the script. -/
theorem exchange_page (server : Server) {request : Request} (h : request.IsPage) :
    (server.exchange request).1 = scripted server.exhaustion server.pageReplies 0 ∧
      (server.exchange request).2.pageReplies = server.pageReplies.tail ∧
      (server.exchange request).2.exhaustion = server.exhaustion := by
  cases request with
  | search | scroll => rcases server with ⟨_ | _, _⟩ | ⟨_, _ | _⟩ <;> exact ⟨rfl, rfl, rfl⟩
  | _ => exact h.elim

theorem after_pages (server : Server) {requests : List Request}
    (h : ∀ request ∈ requests, request.IsPage) :
    (server.after requests).pageReplies = server.pageReplies.drop requests.length ∧
      (server.after requests).exhaustion = server.exhaustion := by
  induction requests generalizing server with
  | nil => exact ⟨rfl, rfl⟩
  | cons request rest ih =>
    obtain ⟨-, hreplies, hexhaustion⟩ := exchange_page server (h request List.mem_cons_self)
    obtain ⟨hrest, hrest'⟩ := ih (server.exchange request).2
      fun later hlater => h later (List.mem_cons_of_mem _ hlater)
    exact ⟨by rw [after, List.foldl_cons, ← after, hrest, hreplies, List.drop_tail,
      List.length_cons], by rw [after, List.foldl_cons, ← after, hrest', hexhaustion]⟩

/-- The pages of a server are those of its script. -/
theorem answers_scripted (server : Server) :
    server.Answers (scripted server.exhaustion server.pageReplies) := by
  intro front request hfront hrequest
  obtain ⟨hreplies, hexhaustion⟩ := after_pages server hfront
  rw [(exchange_page _ hrequest).1, hreplies, hexhaustion, scripted, scripted, List.getElem?_drop,
    Nat.add_zero]

theorem Answers.eq_scripted {server : Server} {reply : Nat → Reply} (h : server.Answers reply) :
    reply = scripted server.exhaustion server.pageReplies := by
  funext n
  have hfront : ∀ earlier ∈ List.replicate n (Request.scroll ""), earlier.IsPage := by
    intro earlier hearlier
    rw [List.eq_of_mem_replicate hearlier]
    trivial
  have hn := h (List.replicate n (.scroll "")) (.scroll "") hfront trivial
  have hscript := answers_scripted server (List.replicate n (.scroll "")) (.scroll "") hfront trivial
  rw [hscript, List.length_replicate] at hn
  exact hn.symm

end Server

namespace Cursor

/-- What a cursor hands out, item by item. -/
def items (steps : List Step) : List (Except Error Document) :=
  steps.filterMap fun
    | .document document => some (.ok document)
    | .failure error => some (.error error)
    | .request _ => none

/-- `Carries includeInnerHits reply page`: the reply is no failure, and its response is read as the
page. -/
def Carries (includeInnerHits : Bool) (reply : Reply) (page : SearchResults) : Prop :=
  ∃ value, reply = .ok value ∧ page = .ofResponse includeInnerHits (value.getD .null)

/-- The documents of so many pages, from the first one on. -/
def received (page : Nat → SearchResults) (count : Nat) : List Document :=
  (List.range count).flatMap fun i => (page i).documents

/-- Whether a number of documents reaches a limit. -/
abbrev Reaches (limit : Option Nat) (count : Nat) : Prop := limit.any fun n => n ≤ count

/-- Whether a page ends a cursor that has received so many documents with it: it is empty, or the
documents reach the limit, or it has no scroll. -/
def Ends (limit : Option Nat) (count : Nat) (page : SearchResults) : Prop :=
  page.documents = [] ∨ Reaches limit count ∨ page.scrollId? = none

/-- The requests for the pages behind the first one, each with the scroll of the page before it, up
to the page with a number. -/
def scrolls (page : Nat → SearchResults) (last : Nat) : List Request :=
  (List.range last).filterMap fun i => (page i).scrollId?.map .scroll

@[simp] theorem received_zero (page : Nat → SearchResults) : received page 0 = [] := rfl

theorem received_succ (page : Nat → SearchResults) (count : Nat) :
    received page (count + 1) = received page count ++ (page count).documents := by
  simp [received, List.range_succ]

theorem received_succ_first (page : Nat → SearchResults) (count : Nat) :
    received page (count + 1) =
      (page 0).documents ++ received (fun i => page (i + 1)) count := by
  simp [received, List.range_succ_eq_map, List.flatMap_map]

theorem scrolls_succ (page : Nat → SearchResults) (last : Nat) {id : String}
    (h : (page 0).scrollId? = some id) :
    scrolls page (last + 1) = .scroll id :: scrolls (fun i => page (i + 1)) last := by
  simp [scrolls, List.range_succ_eq_map, List.filterMap_map, h, Function.comp_def]

@[simp] theorem items_request (request : Request) (steps : List Step) :
    items (.request request :: steps) = items steps := rfl

@[simp] theorem items_documents (documents : List Document) (steps : List Step) :
    items (documents.map .document ++ steps) = documents.map .ok ++ items steps := by
  simp [items, List.filterMap_append, List.filterMap_map, Function.comp_def]

@[simp] theorem requests_request (request : Request) (steps : List Step) :
    requests (.request request :: steps) = request :: requests steps := rfl

@[simp] theorem requests_documents (documents : List Document) (steps : List Step) :
    requests (documents.map .document ++ steps) = requests steps := by
  simp [requests, List.filterMap_append, List.filterMap_map, Function.comp_def]

@[simp] theorem items_release (id : Option String) : items (release id) = [] := by
  cases id <;> rfl

@[simp] theorem requests_release (id : Option String) :
    requests (release id) = (id.map .clearScroll).toList := by
  cases id <;> rfl

/-! ### Limits -/

variable (settings : Settings) (yielded : Nat)

@[simp] theorem withinLimit_nil : withinLimit settings yielded [] = [] := by
  unfold withinLimit
  cases settings.limit with
  | none => rfl
  | some limit => exact List.take_nil

theorem withinLimit_append (front back : List Document) :
    withinLimit settings yielded (front ++ back) =
      withinLimit settings yielded front ++ withinLimit settings (yielded + front.length) back := by
  unfold withinLimit
  cases settings.limit with
  | none => rfl
  | some limit => simp only [List.take_append, Nat.sub_add_eq]

theorem withinLimit_of_not_reaches {documents : List Document}
    (h : ¬ Reaches settings.limit (yielded + documents.length)) :
    withinLimit settings yielded documents = documents := by
  unfold withinLimit
  cases hlimit : settings.limit with
  | none => rfl
  | some limit =>
    have hlt : yielded + documents.length < limit := by simpa [hlimit] using h
    exact List.take_of_length_le (by omega)

theorem isReached_withinLimit (documents : List Document) :
    isReached settings (yielded + (withinLimit settings yielded documents).length) =
      settings.limit.any fun n => n ≤ yielded + documents.length := by
  unfold isReached withinLimit
  cases settings.limit with
  | none => rfl
  | some limit =>
    simp only [List.length_take, Option.any_some, decide_eq_decide]
    omega

/-! ### One page -/

variable {exhaustion : Option Error} {replies : List Reply} (request : Request)

/-- A cursor acts in the same way on the replies of a script and on what comes when it is used up. -/
theorem pages_eq : pages settings exhaustion replies request yielded = .request request ::
    match Server.scripted exhaustion replies 0 with
    | .error error => [.failure error]
    | .ok value =>
      let page := SearchResults.ofResponse settings.includeInnerHits (value.getD .null)
      if page.documents.isEmpty then release page.scrollId?
      else
        let shown := withinLimit settings yielded page.documents
        let yielded := yielded + shown.length
        shown.map .document ++
          if isReached settings yielded then release page.scrollId?
          else match page.scrollId? with
            | some id => pages settings exhaustion replies.tail (.scroll id) yielded
            | none => [] := by
  cases replies with
  | nil => cases exhaustion <;> rfl
  | cons reply rest => rfl

theorem pages_of_error {error : Error}
    (h : Server.scripted exhaustion replies 0 = .error error) :
    pages settings exhaustion replies request yielded = [.request request, .failure error] := by
  rw [pages_eq, h]

/-- A page that does not end the cursor is handed out as a whole, and the next one is asked for. -/
theorem pages_of_not_ends {page : SearchResults}
    (hpage : Carries settings.includeInnerHits (Server.scripted exhaustion replies 0) page)
    (hgo : ¬ Ends settings.limit (yielded + page.documents.length) page) :
    ∃ id, page.scrollId? = some id ∧
      pages settings exhaustion replies request yielded = .request request ::
        (page.documents.map .document ++ pages settings exhaustion replies.tail (.scroll id)
          (yielded + page.documents.length)) := by
  obtain ⟨value, hreply, hvalue⟩ := hpage
  obtain ⟨hdocuments, hlimit, hscroll⟩ := by simpa only [Ends, not_or] using hgo
  obtain ⟨id, hid⟩ := Option.ne_none_iff_exists'.mp hscroll
  refine ⟨id, hid, ?_⟩
  have hall := withinLimit_of_not_reaches settings yielded hlimit
  have hreached := isReached_withinLimit settings yielded page.documents
  rw [hall, Bool.eq_false_iff.mpr hlimit] at hreached
  rw [pages_eq, hreply]
  simp only [← hvalue, List.isEmpty_iff, if_neg hdocuments, hid, hall, hreached,
    Bool.false_eq_true, if_false]

/-- A page that ends the cursor is handed out up to the limit, and its scroll is closed unless it
ends the cursor only because it has none. -/
theorem pages_of_ends {page : SearchResults}
    (hpage : Carries settings.includeInnerHits (Server.scripted exhaustion replies 0) page)
    (hend : Ends settings.limit (yielded + page.documents.length) page) :
    pages settings exhaustion replies request yielded = .request request ::
      ((withinLimit settings yielded page.documents).map .document ++
        if page.documents = [] ∨ Reaches settings.limit (yielded + page.documents.length)
        then release page.scrollId? else []) := by
  obtain ⟨value, hreply, hvalue⟩ := hpage
  have hreached := isReached_withinLimit settings yielded page.documents
  rw [pages_eq, hreply]
  simp only [← hvalue, List.isEmpty_iff, hreached]
  by_cases hdocuments : page.documents = []
  · rw [if_pos hdocuments, if_pos (.inl hdocuments), hdocuments, withinLimit_nil, List.map_nil,
      List.nil_append]
  · rw [if_neg hdocuments]
    by_cases hlimit : Reaches settings.limit (yielded + page.documents.length)
    · rw [if_pos hlimit, if_pos (.inr hlimit)]
    · have hscroll := (hend.resolve_left hdocuments).resolve_left hlimit
      rw [if_neg hlimit, if_neg (not_or.mpr ⟨hdocuments, hlimit⟩), hscroll]

/-! ### All pages -/

/-- Behind pages that do not end it, a cursor has handed out their documents and is where it asks
for the next page. -/
theorem pages_after (page : Nat → SearchResults) (count : Nat)
    (hbefore : ∀ i < count,
      Carries settings.includeInnerHits (Server.scripted exhaustion replies i) (page i) ∧
        ¬ Ends settings.limit (yielded + (received page (i + 1)).length) (page i)) :
    ∃ asked last, asked ++ [last] = request :: scrolls page count ∧
      items (pages settings exhaustion replies request yielded) =
        (received page count).map .ok ++ items (pages settings exhaustion (replies.drop count) last
          (yielded + (received page count).length)) ∧
      requests (pages settings exhaustion replies request yielded) =
        asked ++ requests (pages settings exhaustion (replies.drop count) last
          (yielded + (received page count).length)) := by
  induction count generalizing replies request yielded page with
  | zero => exact ⟨[], request, rfl, rfl, rfl⟩
  | succ count ih =>
    obtain ⟨hpage, hgo⟩ := hbefore 0 (Nat.succ_pos _)
    rw [received_succ, received_zero, List.nil_append] at hgo
    obtain ⟨id, hid, hpages⟩ := pages_of_not_ends settings yielded request hpage hgo
    have hlater : ∀ i < count,
        Carries settings.includeInnerHits (Server.scripted exhaustion replies.tail i) (page (i + 1)) ∧
          ¬ Ends settings.limit (yielded + (page 0).documents.length +
            (received (fun i => page (i + 1)) (i + 1)).length) (page (i + 1)) := by
      intro i hi
      have hnext := hbefore (i + 1) (Nat.succ_lt_succ hi)
      rw [Server.scripted_succ, received_succ_first, List.length_append, ← Nat.add_assoc] at hnext
      exact hnext
    obtain ⟨asked, last, hasked, hitems, hrequests⟩ := ih _ (.scroll id) _ hlater
    refine ⟨request :: asked, last, ?_, ?_, ?_⟩
    · rw [List.cons_append, hasked, scrolls_succ page count hid]
    · rw [hpages, items_request, items_documents, hitems, received_succ_first, List.map_append,
        List.append_assoc, List.drop_tail, List.length_append, Nat.add_assoc]
    · rw [hpages, requests_request, requests_documents, hrequests, received_succ_first,
        List.drop_tail, List.length_append, Nat.add_assoc, List.cons_append]

theorem scripted_drop (count : Nat) :
    Server.scripted exhaustion (replies.drop count) 0 = Server.scripted exhaustion replies count := by
  rw [Server.scripted, Server.scripted, List.getElem?_drop, Nat.add_zero]

/-- The documents that a limit lets through. -/
def upTo (limit : Option Nat) (documents : List Document) : List Document :=
  match limit with
  | some n => documents.take n
  | none => documents

/-- The request that closes the scroll of the last page, when so many documents were received with
it. A cursor that only stops for want of a scroll has nothing to close. -/
def closing (limit : Option Nat) (count : Nat) (last : SearchResults) : List Request :=
  if last.documents = [] ∨ Reaches limit count then (last.scrollId?.map .clearScroll).toList else []

/-- The search that opens a cursor: a compiled search with pages of a hundred documents from the
first one on, and a scroll that is kept for a minute. -/
def openingOf (request : SearchRequest) : Request :=
  .search { request with
    body := { request.body with size := some 100, offset := none }
    scroll := some "1m" }

theorem withinLimit_zero (documents : List Document) :
    withinLimit settings 0 documents = upTo settings.limit documents := by
  unfold withinLimit upTo
  cases settings.limit <;> rfl

theorem requests_closing (limit : Option Nat) (count : Nat) (page : SearchResults) :
    requests (if page.documents = [] ∨ Reaches limit count then release page.scrollId? else []) =
      closing limit count page := by
  unfold closing
  split
  · exact requests_release _
  · rfl

theorem items_closing (limit : Option Nat) (count : Nat) (page : SearchResults) :
    items (if page.documents = [] ∨ Reaches limit count then release page.scrollId? else []) =
      [] := by
  split
  · exact items_release _
  · rfl

variable {page : Nat → SearchResults} {last : Nat}

theorem pages_until_end
    (hbefore : ∀ i < last,
      Carries settings.includeInnerHits (Server.scripted exhaustion replies i) (page i) ∧
        ¬ Ends settings.limit (received page (i + 1)).length (page i))
    (hlast : Carries settings.includeInnerHits (Server.scripted exhaustion replies last) (page last))
    (hend : Ends settings.limit (received page (last + 1)).length (page last)) :
    items (pages settings exhaustion replies request 0) =
        (upTo settings.limit (received page (last + 1))).map .ok ∧
      requests (pages settings exhaustion replies request 0) = request :: scrolls page last ++
        closing settings.limit (received page (last + 1)).length (page last) := by
  obtain ⟨asked, next, hasked, hitems, hrequests⟩ :=
    pages_after settings 0 request page last (by simpa only [Nat.zero_add] using hbefore)
  rw [received_succ, List.length_append] at hend
  rw [← scripted_drop] at hlast
  rw [Nat.zero_add] at hitems hrequests
  have hpages := pages_of_ends settings _ next hlast hend
  have hall : withinLimit settings 0 (received page last) = received page last := by
    cases last with
    | zero => exact withinLimit_nil settings 0
    | succ previous =>
      refine withinLimit_of_not_reaches _ _ fun hreaches => ?_
      rw [Nat.zero_add] at hreaches
      exact (hbefore previous (Nat.lt_succ_self _)).2 (.inr (.inl hreaches))
  constructor
  · rw [hitems, hpages, items_request, items_documents, items_closing, List.append_nil,
      received_succ, ← withinLimit_zero, withinLimit_append, hall, Nat.zero_add, List.map_append]
  · rw [hrequests, hpages, requests_request, requests_documents, requests_closing, ← hasked,
      received_succ, List.length_append, List.append_assoc, List.singleton_append]

theorem pages_until_error {error : Error}
    (hbefore : ∀ i < last,
      Carries settings.includeInnerHits (Server.scripted exhaustion replies i) (page i) ∧
        ¬ Ends settings.limit (received page (i + 1)).length (page i))
    (hlast : Server.scripted exhaustion replies last = .error error) :
    items (pages settings exhaustion replies request 0) =
        (received page last).map .ok ++ [.error error] ∧
      requests (pages settings exhaustion replies request 0) = request :: scrolls page last := by
  obtain ⟨asked, next, hasked, hitems, hrequests⟩ :=
    pages_after settings 0 request page last (by simpa only [Nat.zero_add] using hbefore)
  rw [← scripted_drop] at hlast
  rw [pages_of_error settings _ next hlast] at hitems hrequests
  exact ⟨hitems, hrequests.trans hasked⟩

end Cursor

namespace Call

/-- What a cursor writes to the log for its requests. -/
def cursorEvents (requests : List Request) : List Event :=
  requests.flatMap fun request => [.counted (cursorOperation request), .sent request]

theorem log_exchanges (requests : List Request) (session : Session) :
    (requests.foldl (fun session request =>
      (session.exchange (cursorOperation request) request).2) session).log =
      session.log ++ cursorEvents requests := by
  induction requests generalizing session with
  | nil => simp [cursorEvents]
  | cons request rest ih =>
    rw [List.foldl_cons, ih, Session.log_exchange, List.append_assoc]
    rfl

open Cursor

/-- A cursor that is read to its end hands out the documents of the pages of the server in order, up
to the first page that ends it and up to the limit, or up to the first failure. It opens with one
search, asks for each further page with the scroll of the page before it, and at most closes the
last scroll; what comes of that is not part of what it hands out. Pages are counted from zero. -/
theorem cursor_follows_pages {session : Session} {request : SearchRequest} {reply : Nat → Reply}
    {page : Nat → SearchResults} {last : Nat}
    (hselect : Dsl.select session.target session.query = .ok request)
    (hserver : session.server.Answers reply)
    (hbefore : ∀ i < last,
      Carries session.query.options.includeInnerHits (reply i) (page i) ∧
        ¬ Ends session.query.limit (received page (i + 1)).length (page i)) :
    ∃ steps later, (cursor none).run.run session = (.ok steps, later) ∧
      (Carries session.query.options.includeInnerHits (reply last) (page last) →
        Ends session.query.limit (received page (last + 1)).length (page last) →
        items steps = (upTo session.query.limit (received page (last + 1))).map .ok ∧
        later.log = session.log ++ cursorEvents (openingOf request :: scrolls page last ++
          closing session.query.limit (received page (last + 1)).length (page last))) ∧
      (∀ error, reply last = .error error →
        items steps = (received page last).map .ok ++ [.error error] ∧
        later.log = session.log ++ cursorEvents (openingOf request :: scrolls page last)) := by
  obtain rfl := hserver.eq_scripted
  let settings : Settings :=
    { limit := session.query.limit, includeInnerHits := session.query.options.includeInnerHits }
  have hsteps : Cursor.steps session.target session.query session.server =
      pages settings session.server.exhaustion session.server.pageReplies (openingOf request) 0 := by
    rw [Cursor.steps, opening, hselect]
    rfl
  refine ⟨_, _, rfl, ?_⟩
  rw [log_exchanges, hsteps]
  constructor
  · intro hlast hend
    obtain ⟨hitems, hrequests⟩ := pages_until_end settings (openingOf request) hbefore hlast hend
    exact ⟨hitems, by rw [hrequests]⟩
  · intro error herror
    obtain ⟨hitems, hrequests⟩ := pages_until_error settings (openingOf request) hbefore herror
    exact ⟨hitems, by rw [hrequests]⟩

/-- A page of documents that have nothing but an id. -/
def idPage (scroll : String) (ids : List String) : Json :=
  .obj [("_scroll_id", .str scroll),
    ("hits", .single "hits" (.arr (ids.map fun id => .single "_id" (.str id))))]

/-- A session with a limit of three documents, and a server that has pages of two and refuses to
close a scroll. -/
def pagedSession : Session where
  target := {}
  query := { collection := "posts", limit := some 3 }
  server := .direct [.ok (some (idPage "s1" ["1", "2"])), .ok (some (idPage "s2" ["3", "4"]))] true

/-- The second page reaches the limit: three documents are handed out, and its scroll is closed. -/
theorem cursor_follows_pages_pagedSession : ∃ request steps later,
    Dsl.select {} pagedSession.query = .ok request ∧
      (cursor none).run.run pagedSession = (.ok steps, later) ∧
      items steps = ["1", "2", "3"].map (fun id => .ok [("id", .str id)]) ∧
      later.log = cursorEvents [openingOf request, .scroll "s1", .clearScroll "s2"] := by
  let page : Nat → SearchResults
    | 0 => .ofResponse false (idPage "s1" ["1", "2"])
    | _ => .ofResponse false (idPage "s2" ["3", "4"])
  have hbefore : ∀ i < 1, Carries false (Server.scripted none pagedSession.server.pageReplies i)
      (page i) ∧ ¬ Ends (some 3) (received page (i + 1)).length (page i) := by
    intro i hi
    obtain rfl : i = 0 := by omega
    refine ⟨⟨_, rfl, rfl⟩, ?_⟩
    rintro (hempty | hreaches | hscroll)
    · cases hempty
    · exact absurd hreaches (by decide)
    · cases hscroll
  obtain ⟨steps, later, hrun, hend, -⟩ :=
    @cursor_follows_pages pagedSession _ _ page 1 rfl (Server.answers_scripted _) hbefore
  obtain ⟨hitems, hlog⟩ := hend ⟨_, rfl, rfl⟩ (.inr (.inl rfl))
  exact ⟨_, steps, later, rfl, hrun, hitems, hlog⟩

end Call

end SearchQuery
