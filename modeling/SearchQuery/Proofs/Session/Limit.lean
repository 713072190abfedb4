import SearchQuery.Proofs.Session.Paging
/-!
# Cursors with a limit

A cursor with a limit ends, whatever the server does: each page that does not end it has at least
one document, and brings the cursor that much closer to the limit. The server may answer each
request as it likes, also in view of all requests before it. Only its answers to the requests that
the cursor sends matter, so that a scripted server with these answers has the same run.
-/

namespace SearchQuery

/-- How a server may behave: its reply to the last of all requests that it has seen. -/
abbrev Behaviour := List Request → Reply

/-- `server.AnswersAs behaviour requests`: of these requests, those for pages are answered as by
the behaviour. -/
def Server.AnswersAs (server : Server) (behaviour : Behaviour) (requests : List Request) : Prop :=
  ∀ front request back, requests = front ++ request :: back → request.IsPage →
    ((server.after front).exchange request).1 = behaviour (front ++ [request])

/-- A request for a page that pages and a closing are split at is one of the pages. -/
theorem exists_later_pages {pages front back : List Request} {request : Request}
    {closed : Option String}
    (hsplit : pages ++ (closed.map .clearScroll).toList = front ++ request :: back)
    (hrequest : request.IsPage) : ∃ later, pages = front ++ request :: later := by
  have hclosing : request ∉ (closed.map Request.clearScroll).toList := by
    intro hmem
    cases closed with
    | none => cases hmem
    | some id =>
      obtain rfl := List.mem_singleton.mp hmem
      exact hrequest
  obtain ⟨inner, -, hinner⟩ | ⟨inner, hfront, hinner⟩ := List.append_eq_append_iff.mp hsplit
  · exact absurd (hinner ▸ List.mem_append_right _ List.mem_cons_self) hclosing
  · cases inner with
    | nil =>
      rw [List.nil_append] at hinner
      exact absurd (hinner ▸ List.mem_cons_self) hclosing
    | cons first later =>
      obtain rfl := (List.cons_eq_cons.mp hinner).1
      exact ⟨later, hfront⟩

/-- A script answers any requests for pages as by a behaviour. -/
theorem Server.exists_answersAs (behaviour : Behaviour) {pages : List Request}
    (hpages : ∀ page ∈ pages, page.IsPage) (closed : Option String) :
    ∃ server : Server, server.AnswersAs behaviour (pages ++ (closed.map .clearScroll).toList) := by
  -- The reply to a page is the one to all pages up to it.
  let replies := (List.range pages.length).map fun i => behaviour (pages.take (i + 1))
  refine ⟨.direct replies false, fun front request back hsplit hrequest => ?_⟩
  obtain ⟨later, rfl⟩ := exists_later_pages hsplit hrequest
  have hfront : ∀ earlier ∈ front, earlier.IsPage := fun earlier hearlier =>
    hpages earlier (List.mem_append_left _ hearlier)
  rw [Server.answers_scripted _ front request hfront hrequest, Server.scripted]
  have htake : (front ++ request :: later).take (front.length + 1) = front ++ [request] := by
    simp [List.take_append, List.take_of_length_le]
  have hreply : replies[front.length]? = some (behaviour (front ++ [request])) := by
    simp [replies, htake]
  change replies[front.length]?.getD _ = _
  rw [hreply, Option.getD_some]

namespace Cursor

/-- `Reads settings behaviour asked request yielded steps`: from the request of a page on, when
`yielded` documents have been handed out and `asked` have been sent, a cursor ends with these steps
before a server that behaves in any way. -/
inductive Reads (settings : Settings) (behaviour : Behaviour) :
    List Request → Request → Nat → List Step → Prop where
  /-- The request fails. -/
  | failure {asked request yielded error} (hreply : behaviour (asked ++ [request]) = .error error) :
      Reads settings behaviour asked request yielded [.request request, .failure error]
  /-- The page ends the cursor. -/
  | last {asked request yielded page}
      (hpage : Carries settings.includeInnerHits (behaviour (asked ++ [request])) page)
      (hend : Ends settings.limit (yielded + page.documents.length) page) :
      Reads settings behaviour asked request yielded (.request request ::
        ((withinLimit settings yielded page.documents).map .document ++
          if page.documents = [] ∨ Reaches settings.limit (yielded + page.documents.length)
          then release page.scrollId? else []))
  /-- The page is handed out, and the next one is asked for. -/
  | next {asked request yielded page id steps}
      (hpage : Carries settings.includeInnerHits (behaviour (asked ++ [request])) page)
      (hgo : ¬ Ends settings.limit (yielded + page.documents.length) page)
      (hid : page.scrollId? = some id)
      (hrest : Reads settings behaviour (asked ++ [request]) (.scroll id)
        (yielded + page.documents.length) steps) :
      Reads settings behaviour asked request yielded
        (.request request :: (page.documents.map .document ++ steps))

/-- `Runs target query behaviour steps`: the cursor of a query ends with these steps before a server
that behaves in any way. -/
def Runs (target : Target) (query : Query) (behaviour : Behaviour) (steps : List Step) : Prop :=
  match opening target query with
  | .error error => steps = [.failure error]
  | .ok request =>
    Reads { limit := query.limit, includeInnerHits := query.options.includeInnerHits } behaviour []
      (.search request) 0 steps

@[simp] theorem documents_request (request : Request) (steps : List Step) :
    documents (.request request :: steps) = documents steps := rfl

@[simp] theorem documents_failure (error : Error) (steps : List Step) :
    documents (.failure error :: steps) = documents steps := rfl

@[simp] theorem documents_append (list : List Document) (steps : List Step) :
    documents (list.map .document ++ steps) = list ++ documents steps := by
  simp [documents, List.filterMap_append, List.filterMap_map, Function.comp_def]

@[simp] theorem documents_release (id : Option String) : documents (release id) = [] := by
  cases id <;> rfl

variable {settings : Settings} {behaviour : Behaviour} {limit : Nat} {asked : List Request}
  {request : Request} {yielded : Nat} {steps : List Step}

/-- A page that does not end a cursor brings it closer to its limit. -/
theorem closer_of_not_ends {page : SearchResults}
    (hgo : ¬ Ends (some limit) (yielded + page.documents.length) page) :
    yielded < yielded + page.documents.length ∧ yielded + page.documents.length < limit := by
  obtain ⟨hdocuments, hlimit, -⟩ := by simpa only [Ends, not_or] using hgo
  have hpositive : 0 < page.documents.length := List.length_pos_iff.mpr hdocuments
  have hbelow : ¬ limit ≤ yielded + page.documents.length := by simpa using hlimit
  omega

/-- Whatever a server does, a cursor with a limit ends. -/
theorem exists_reads (behaviour : Behaviour) (hlimit : settings.limit = some limit)
    (asked : List Request) (request : Request) (yielded : Nat) :
    ∃ steps, Reads settings behaviour asked request yielded steps := by
  -- The induction is on the documents that are missing to the limit.
  induction hmissing : limit - yielded using Nat.strongRecOn
    generalizing asked request yielded with
  | ind missing ih =>
    cases hreply : behaviour (asked ++ [request]) with
    | error error => exact ⟨_, .failure hreply⟩
    | ok value =>
      let page := SearchResults.ofResponse settings.includeInnerHits (value.getD .null)
      have hpage : Carries settings.includeInnerHits (behaviour (asked ++ [request])) page :=
        ⟨value, hreply, rfl⟩
      by_cases hend : Ends settings.limit (yielded + page.documents.length) page
      · exact ⟨_, .last hpage hend⟩
      · have hcloser := closer_of_not_ends (hlimit ▸ hend)
        have hscroll : page.scrollId? ≠ none := fun h => hend (.inr (.inr h))
        obtain ⟨id, hid⟩ := Option.ne_none_iff_exists'.mp hscroll
        obtain ⟨steps, hrest⟩ := ih (limit - (yielded + page.documents.length)) (by omega)
          (asked ++ [request]) (.scroll id) _ rfl
        exact ⟨_, .next hpage hend hid hrest⟩

theorem length_withinLimit_le (hlimit : settings.limit = some limit) (yielded : Nat)
    (documents : List Document) :
    (withinLimit settings yielded documents).length ≤ limit - yielded := by
  rw [withinLimit, hlimit]
  exact List.length_take_le _ _

theorem documents_closing (limit : Option Nat) (count : Nat) (page : SearchResults) :
    documents (if page.documents = [] ∨ Reaches limit count then release page.scrollId? else []) =
      [] := by
  split
  · exact documents_release _
  · rfl

/-- A cursor hands out no more documents than its limit. -/
theorem Reads.documents_le (h : Reads settings behaviour asked request yielded steps)
    (hlimit : settings.limit = some limit) (hyielded : yielded ≤ limit) :
    yielded + (documents steps).length ≤ limit := by
  induction h with
  | failure => exact hyielded
  | @last _ _ yielded page =>
    have hshown := length_withinLimit_le hlimit yielded page.documents
    rw [documents_request, documents_append, documents_closing, List.append_nil]
    omega
  | next _ hgo _ _ ih =>
    have hcloser := closer_of_not_ends (hlimit ▸ hgo)
    have hrest := ih (by omega)
    rw [documents_request, documents_append, List.length_append]
    omega

/-- A cursor with a limit asks for one page, or for no more pages than documents are missing to the
limit. Then it may close a scroll. -/
theorem Reads.requests_eq (h : Reads settings behaviour asked request yielded steps)
    (hlimit : settings.limit = some limit) (hrequest : request.IsPage) :
    ∃ (pages : List Request) (closed : Option String),
      requests steps = pages ++ (closed.map .clearScroll).toList ∧
        (∀ page ∈ pages, page.IsPage) ∧ pages.length ≤ max 1 (limit - yielded) := by
  induction h with
  | @failure _ request =>
    exact ⟨[request], none, rfl, by simpa using hrequest, Nat.le_max_left _ _⟩
  | @last _ request yielded page =>
    obtain ⟨closed, hclosed⟩ : ∃ closed : Option String,
        closing settings.limit (yielded + page.documents.length) page =
          (closed.map .clearScroll).toList := by
      unfold closing
      split
      · exact ⟨page.scrollId?, rfl⟩
      · exact ⟨none, rfl⟩
    refine ⟨[request], closed, ?_, by simpa using hrequest, Nat.le_max_left _ _⟩
    rw [requests_request, requests_documents, requests_closing, hclosed, List.singleton_append]
  | @next _ request _ _ _ _ _ hgo _ _ ih =>
    have hcloser := closer_of_not_ends (hlimit ▸ hgo)
    obtain ⟨pages, closed, hrequests, hpages, hcount⟩ := ih trivial
    refine ⟨request :: pages, closed, ?_, List.forall_mem_cons.mpr ⟨hrequest, hpages⟩, ?_⟩
    · rw [requests_request, requests_documents, hrequests, List.cons_append]
    · rw [List.length_cons]
      omega

/-- A server that answers the requests of a run as by the behaviour has this very run. -/
theorem Reads.pages_eq (h : Reads settings behaviour asked request yielded steps) {server : Server}
    (hanswers : server.AnswersAs behaviour (asked ++ requests steps))
    (hasked : ∀ earlier ∈ asked, earlier.IsPage) (hrequest : request.IsPage) :
    pages settings server.exhaustion (server.pageReplies.drop asked.length) request yielded =
      steps := by
  have hreply {asked : List Request} {request : Request} {steps : List Step}
      (hanswers : server.AnswersAs behaviour (asked ++ requests (.request request :: steps)))
      (hasked : ∀ earlier ∈ asked, earlier.IsPage) (hrequest : request.IsPage) :
      Server.scripted server.exhaustion (server.pageReplies.drop asked.length) 0 =
        behaviour (asked ++ [request]) := by
    rw [scripted_drop, ← hanswers asked request _ rfl hrequest]
    exact (Server.answers_scripted server asked request hasked hrequest).symm
  induction h with
  | failure herror =>
    exact pages_of_error settings _ _ ((hreply hanswers hasked hrequest).trans herror)
  | last hpage hend =>
    exact pages_of_ends settings _ _ (hreply hanswers hasked hrequest ▸ hpage) hend
  | @next asked request _ page id steps hpage hgo hid hrest ih =>
    obtain ⟨id', hid', hpages⟩ :=
      pages_of_not_ends settings _ request (hreply hanswers hasked hrequest ▸ hpage) hgo
    obtain rfl : id = id' := Option.some.inj (hid.symm.trans hid')
    have hlater := ih (by simpa using hanswers)
      (List.forall_mem_append.mpr ⟨hasked, by simpa using hrequest⟩) trivial
    rw [List.length_append, List.length_singleton, ← List.tail_drop] at hlater
    rw [hpages, hlater]

theorem Runs.requests_eq {target : Target} {query : Query}
    (h : Runs target query behaviour steps) (hlimit : query.limit = some limit) :
    ∃ (pages : List Request) (closed : Option String),
      requests steps = pages ++ (closed.map .clearScroll).toList ∧
        (∀ page ∈ pages, page.IsPage) ∧ pages.length ≤ max 1 limit := by
  unfold Runs at h
  split at h
  · subst h
    exact ⟨[], none, rfl, by simp, Nat.zero_le _⟩
  · exact Reads.requests_eq h hlimit trivial

/-- The cursor of a query takes the steps of a run before every server that answers the requests of
the run as by the behaviour. -/
theorem Runs.steps_eq {target : Target} {query : Query} (h : Runs target query behaviour steps)
    {server : Server} (hanswers : server.AnswersAs behaviour (requests steps)) :
    Cursor.steps target query server = steps := by
  unfold Runs at h
  unfold Cursor.steps
  cases hopening : opening target query with
  | error error =>
    rw [hopening] at h
    exact h.symm
  | ok request =>
    rw [hopening] at h
    exact h.pages_eq hanswers (by simp) trivial

end Cursor

namespace Call

open Cursor

/-- A cursor with a limit that is read to its end comes to an end, whatever the server does. It
hands out no more documents than the limit and asks for no more pages, except for the one page that
it asks for under a limit of zero. It closes at most one scroll, by its last request. There is a
server that answers what the cursor asks as by the behaviour, and before every such server the
cursor does just this. -/
theorem cursor_ends_within_limit {query : Query} {limit : Nat} (hlimit : query.limit = some limit)
    (target : Target) (behaviour : Behaviour) :
    (∃ steps, Runs target query behaviour steps) ∧
    ∀ steps, Runs target query behaviour steps →
      (documents steps).length ≤ limit ∧
      (∃ (pages : List Request) (closed : Option String),
        requests steps = pages ++ (closed.map .clearScroll).toList ∧
          (∀ page ∈ pages, page.IsPage) ∧ pages.length ≤ max 1 limit) ∧
      (∃ server : Server, server.AnswersAs behaviour (requests steps)) ∧
      ∀ session : Session, session.target = target → session.query = query →
        session.server.AnswersAs behaviour (requests steps) →
        ∃ later, (cursor none).run.run session = (.ok steps, later) ∧
          later.log = session.log ++ cursorEvents (requests steps) := by
  refine ⟨?ends, fun steps hruns => ⟨?documents, hruns.requests_eq hlimit, ?server, ?session⟩⟩
  case ends =>
    unfold Runs
    cases opening target query with
    | error error => exact ⟨_, rfl⟩
    | ok request => exact exists_reads behaviour hlimit [] _ 0
  case documents =>
    unfold Runs at hruns
    split at hruns
    · subst hruns
      exact Nat.zero_le _
    · simpa using hruns.documents_le hlimit (Nat.zero_le _)
  case server =>
    obtain ⟨pages, closed, hrequests, hpages, -⟩ := hruns.requests_eq hlimit
    rw [hrequests]
    exact Server.exists_answersAs behaviour hpages closed
  case session =>
    rintro session rfl rfl hanswers
    obtain rfl := hruns.steps_eq hanswers
    exact ⟨_, rfl, log_exchanges _ session⟩

/-- Pages without an end: each has two documents and a scroll of its own. -/
def endlessPages : Behaviour := fun seen =>
  .ok (some (idPage ("s" ++ toString seen.length) ["1", "2"]))

theorem cursor_ends_within_limit_endlessPages :
    pagedSession.query.limit = some 3 ∧
      ∃ steps, Runs {} pagedSession.query endlessPages steps ∧ (documents steps).length ≤ 3 ∧
        ∃ (pages : List Request) (closed : Option String),
          requests steps = pages ++ (closed.map .clearScroll).toList ∧ pages.length ≤ 3 := by
  obtain ⟨⟨steps, hruns⟩, hbounds⟩ :=
    cursor_ends_within_limit (show pagedSession.query.limit = some 3 from rfl) {} endlessPages
  obtain ⟨hdocuments, ⟨pages, closed, hrequests, -, hpages⟩, -, -⟩ := hbounds steps hruns
  exact ⟨rfl, steps, hruns, hdocuments, pages, closed, hrequests, hpages⟩

end Call

end SearchQuery
