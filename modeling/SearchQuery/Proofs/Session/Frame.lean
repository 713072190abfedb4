import SearchQuery.Proofs.Session.Run
/-!
# What calls do to their sessions

A call sends requests and draws ids, and does nothing else to its session unless it keeps results at
hand. So the session afterwards is what requests and ids have made of it, one after the other, with
each request counted when it is sent. The target, the query and the results at hand stay as they
are, whatever the server answers.
-/

namespace SearchQuery

/-- What a session becomes by sending requests and drawing ids. Each request is one that may be
sent, and is counted as what is given for it. -/
inductive Session.MovesTo (counts : Request → Option Operation) (session : Session) :
    Session → Prop where
  | here : MovesTo counts session session
  | exchange {later : Session} {operation : Operation} {request : Request}
      (h : MovesTo counts session later) (hcounts : counts request = some operation) :
      MovesTo counts session (later.exchange operation request).2
  | draw {later : Session} (h : MovesTo counts session later) (ids : IdSupply) :
      MovesTo counts session { later with ids }

namespace Session.MovesTo

variable {counts : Request → Option Operation} {session later last : Session}

theorem trans (hfirst : session.MovesTo counts later) (hsecond : later.MovesTo counts last) :
    session.MovesTo counts last := by
  induction hsecond with
  | here => exact hfirst
  | exchange _ hcounts ih => exact ih.exchange hcounts
  | draw _ ids ih => exact ih.draw ids

theorem frame (h : session.MovesTo counts later) :
    ∃ server ids log, later = { session with server, ids, log } := by
  induction h with
  | here => exact ⟨_, _, _, rfl⟩
  | exchange _ _ ih =>
    obtain ⟨server, ids, log, rfl⟩ := ih
    exact ⟨_, _, _, rfl⟩
  | draw _ ids ih =>
    obtain ⟨server, _, log, rfl⟩ := ih
    exact ⟨server, ids, log, rfl⟩

end Session.MovesTo

namespace Cursor

/-- A request for a further page, or one that closes a scroll. -/
def IsScroll : Request → Prop
  | .scroll _ | .clearScroll _ => True
  | _ => False

theorem mem_requests {request : Request} {steps : List Step} :
    request ∈ requests steps ↔ .request request ∈ steps := by
  rw [requests, List.mem_filterMap]
  constructor
  · rintro ⟨step, hstep, hrequest⟩
    cases step with
    | request => exact Option.some.inj hrequest ▸ hstep
    | document | failure => cases hrequest
  · intro h
    exact ⟨_, h, rfl⟩

theorem mem_of_mem_untilItems {step : Step} {count : Nat} {steps : List Step}
    (h : step ∈ untilItems count steps) : step ∈ steps := by
  fun_induction untilItems count steps with
  | case1 => exact h
  | case2 => cases h
  | case3 _ _ _ ih => exact List.mem_cons.mpr ((List.mem_cons.mp h).imp_right ih)
  | case4 _ _ _ _ ih => exact List.mem_cons.mpr ((List.mem_cons.mp h).imp_right ih)

/-- Behind the request for its first page, a cursor only scrolls. -/
theorem isScroll_behind_first (settings : Settings) (exhaustion : Option Error)
    (replies : List Reply) (request : Request) (yielded : Nat) :
    ∃ rest, pages settings exhaustion replies request yielded = .request request :: rest ∧
      ∀ other, .request other ∈ rest → IsScroll other := by
  have hrelease {id : Option String} {other : Request} (h : .request other ∈ release id) :
      IsScroll other := by
    cases id with
    | none => cases h
    | some id =>
      cases List.mem_singleton.mp h
      trivial
  -- Only a page that does not end the cursor is followed by a request, and that one is a scroll.
  induction replies generalizing request yielded with
  | nil =>
    refine ⟨_, rfl, fun other h => ?_⟩
    cases exhaustion <;> simp at h
  | cons reply replies ih =>
    refine ⟨_, rfl, fun other h => ?_⟩
    cases reply with
    | error => simp at h
    | ok value =>
      dsimp only at h
      split at h
      · exact hrelease h
      · rw [List.mem_append] at h
        obtain h | h := h
        · simp at h
        · split at h
          · exact hrelease h
          · split at h
            · next id _ =>
              obtain ⟨rest, hpages, hrest⟩ := ih (.scroll id) _
              rw [hpages] at h
              obtain h | ⟨_, h⟩ := h
              · trivial
              · exact hrest other h
            · cases h

/-- A cursor sends a search first and only scrolls from then on. -/
theorem search_or_scroll {target : Target} {query : Query} {server : Server} {request : Request}
    (h : request ∈ requests (steps target query server)) :
    (∃ search, request = .search search) ∨ IsScroll request := by
  rw [mem_requests, steps] at h
  split at h
  · simp at h
  · next opened _ =>
    obtain ⟨rest, hpages, hrest⟩ := isScroll_behind_first
      { limit := query.limit, includeInnerHits := query.options.includeInnerHits }
      server.exhaustion server.pageReplies (.search opened) 0
    rw [hpages] at h
    obtain h | ⟨_, h⟩ := h
    · exact .inl ⟨opened, rfl⟩
    · exact .inr (hrest request h)

end Cursor

namespace Call

variable {α β : Type} {counts : Request → Option Operation}

/-- Whether a call only sends requests that it may send, counted as given, and draws ids. -/
def Exchanges (counts : Request → Option Operation) (call : Call α) : Prop :=
  ∀ session : Session, session.MovesTo counts (call.run.run session).2

theorem exchanges_bind {call : Call α} {next : α → Call β} (hcall : Exchanges counts call)
    (hnext : ∀ value, Exchanges counts (next value)) : Exchanges counts (call >>= next) := by
  intro session
  have hfirst := hcall session
  rw [run_bind]
  rcases hrun : call.run.run session with ⟨_ | value, later⟩
  · rw [hrun] at hfirst
    exact hfirst
  · rw [hrun] at hfirst
    exact hfirst.trans (hnext value later)

theorem exchanges_get : Exchanges counts get := fun _ => .here

theorem exchanges_ofExcept (result : Except Error α) : Exchanges counts (ofExcept result) :=
  fun _ => .here

theorem exchanges_pure (value : α) : Exchanges counts (pure value) := fun _ => .here

theorem exchanges_throw (error : Error) : Exchanges counts (throw error : Call α) :=
  fun _ => .here

theorem exchanges_withIds (action : StateM IdSupply α) : Exchanges counts (withIds action) :=
  fun _ => .draw .here _

theorem exchanges_send {operation : Operation} {request : Request}
    (h : counts request = some operation) : Exchanges counts (send operation request) := by
  intro session
  rw [run_send]
  exact .exchange .here h

theorem exchanges_sendForValue {operation : Operation} {request : Request}
    (h : counts request = some operation) : Exchanges counts (sendForValue operation request) :=
  exchanges_bind (exchanges_send h) fun _ => exchanges_pure _

/-! ### The calls -/

theorem exchanges_search (h : ∀ request, counts (.search request) = some .search) (query : Query) :
    Exchanges counts (search query) := by
  refine exchanges_bind exchanges_get fun session => ?_
  refine exchanges_bind (exchanges_ofExcept _) fun request => ?_
  exact exchanges_bind (exchanges_sendForValue (h request)) fun _ => exchanges_pure _

theorem exchanges_first (h : ∀ request, counts (.search request) = some .search) :
    Exchanges counts first := by
  refine exchanges_bind exchanges_get fun session => ?_
  exact exchanges_bind (exchanges_search h _) fun _ => exchanges_pure _

theorem exchanges_document (h : ∀ request, counts (.get request) = some .get) (id : String) :
    Exchanges counts (document id) := by
  refine exchanges_bind exchanges_get fun session => ?_
  refine exchanges_bind (exchanges_send (h _)) fun response => ?_
  cases response with
  | none => exact exchanges_pure _
  | some response => exact exchanges_pure _

theorem exchanges_count (h : ∀ request, counts (.search request) = some .count) :
    Exchanges counts count := by
  refine exchanges_bind exchanges_get fun session => ?_
  split
  · exact exchanges_pure _
  · refine exchanges_bind (exchanges_ofExcept _) fun request => ?_
    refine exchanges_bind (exchanges_sendForValue (h request)) fun response => ?_
    split
    · exact exchanges_pure _
    · exact exchanges_throw _

section Writing

variable (hindex : ∀ request, counts (.index request) = some .index)
  (hbulk : ∀ request, counts (.bulk request) = some .bulk)

include hindex in
theorem exchanges_write_index (request : IndexRequest) :
    Exchanges counts (write (.index request)) :=
  exchanges_bind (exchanges_sendForValue (hindex request)) fun _ => exchanges_ofExcept _

include hbulk in
theorem exchanges_write_bulk (request : BulkRequest) : Exchanges counts (write (.bulk request)) :=
  exchanges_bind (exchanges_sendForValue (hbulk request)) fun _ => exchanges_ofExcept _

include hindex hbulk in
theorem exchanges_insert (document : Document) : Exchanges counts (insert document) := by
  refine exchanges_bind exchanges_get fun session => ?_
  refine exchanges_bind (exchanges_withIds _) fun request => ?_
  cases request with
  | index request => exact exchanges_write_index hindex request
  | bulk request => exact exchanges_write_bulk hbulk request

include hbulk in
theorem exchanges_insertMany (documents : List Document) :
    Exchanges counts (insertMany documents) := by
  unfold insertMany
  split
  · exact exchanges_pure _
  · refine exchanges_bind exchanges_get fun session => ?_
    exact exchanges_bind (exchanges_withIds _) fun _ => exchanges_write_bulk hbulk _

include hindex in
theorem exchanges_update (values : Document) : Exchanges counts (update values) := by
  refine exchanges_bind exchanges_get fun session => ?_
  exact exchanges_bind (exchanges_withIds _) fun _ => exchanges_write_index hindex _

end Writing

section Deleting

variable (h : ∀ request, counts (.deleteByQuery request) = some .delete)

include h

theorem exchanges_deleteMatching (query : Query) : Exchanges counts (deleteMatching query) := by
  refine exchanges_bind exchanges_get fun session => ?_
  refine exchanges_bind (exchanges_ofExcept _) fun request => ?_
  exact exchanges_bind (exchanges_sendForValue (h request)) fun _ => exchanges_pure _

theorem exchanges_delete : Exchanges counts delete :=
  exchanges_bind exchanges_get fun _ => exchanges_deleteMatching h _

theorem exchanges_deleteById (id : String) : Exchanges counts (deleteById id) :=
  exchanges_bind exchanges_get fun _ => exchanges_deleteMatching h _

end Deleting

theorem exchanges_cursor (items : Option Nat)
    (h : ∀ request, (∃ search, request = .search search) ∨ Cursor.IsScroll request →
      counts request = some (cursorOperation request)) : Exchanges counts (cursor items) := by
  -- The requests of a cursor are laid out first, and then exchanged one by one.
  have hall (requests : List Request)
      (hrequests : ∀ request ∈ requests, counts request = some (cursorOperation request))
      (session : Session) : session.MovesTo counts (requests.foldl (fun session request =>
        (session.exchange (cursorOperation request) request).2) session) := by
    induction requests generalizing session with
    | nil => exact .here
    | cons request rest ih =>
      have hfirst := hrequests request List.mem_cons_self
      exact (Session.MovesTo.exchange .here hfirst).trans
        (ih (fun other hother => hrequests other (List.mem_cons_of_mem request hother)) _)
  intro session
  refine hall _ (fun request hrequest => h request ?_) session
  apply @Cursor.search_or_scroll session.target session.query session.server request
  rw [Cursor.mem_requests] at hrequest ⊢
  cases items with
  | none => exact hrequest
  | some count => exact Cursor.mem_of_mem_untilItems hrequest

end Call

end SearchQuery
