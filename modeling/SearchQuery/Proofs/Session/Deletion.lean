import SearchQuery.Proofs.Dsl.Column
import SearchQuery.Proofs.Dsl.Select
import SearchQuery.Proofs.Session.Run
/-!
# Deletion by id

A deletion by id deletes what the query finds once a clause that names the id stands behind its
scoring clauses. The clause restricts a query without OR. Behind an OR it is one more alternative,
and then the deletion reaches all that the query finds by itself.
-/

namespace SearchQuery

namespace Dsl

variable {target : Target} {collection : String}

theorem clauses_append {front back : List Clause} {compiled : List (Junction × Json)} :
    clauses target collection (front ++ back) = .ok compiled ↔
      ∃ first second, clauses target collection front = .ok first ∧
        clauses target collection back = .ok second ∧ compiled = first ++ second := by
  induction front generalizing compiled with
  | nil => simp [clauses, eq_comm]
  | cons clause front ih =>
    obtain ⟨condition, junction, options⟩ := clause
    simp only [List.cons_append, clauses, bind_eq_ok, pure_eq_ok, ih]
    constructor
    · rintro ⟨shape, hshape, _, ⟨first, second, hfirst, hsecond, rfl⟩, rfl⟩
      exact ⟨_, second, ⟨shape, hshape, first, hfirst, rfl⟩, hsecond, rfl⟩
    · rintro ⟨_, second, ⟨shape, hshape, first, hfirst, rfl⟩, hsecond, rfl⟩
      exact ⟨shape, hshape, _, ⟨first, second, hfirst, hsecond, rfl⟩, rfl⟩

theorem junctions_clauses {list : List Clause} {compiled : List (Junction × Json)}
    (h : clauses target collection list = .ok compiled) :
    compiled.map (·.1) = list.map (·.junction) := by
  induction list generalizing compiled with
  | nil =>
    simp only [clauses, Except.ok.injEq] at h
    simp [← h]
  | cons clause rest ih =>
    obtain ⟨condition, junction, options⟩ := clause
    simp only [clauses, bind_eq_ok, pure_eq_ok] at h
    obtain ⟨shape, -, others, hothers, rfl⟩ := h
    rw [List.map_cons, ih hothers, List.map_cons]

/-- A demand behind clauses under AND is one more of them, and behind an OR one more alternative. -/
theorem joined_push (list : List (Junction × Prop)) (last : Prop) :
    (Joined (list ++ [(.and, last)]) ↔
      if ∀ clause ∈ list, clause.1 = .and then Joined list ∧ last else Joined list ∨ last) := by
  rcases split_or list with hall | ⟨front, first, rest, rfl, hfront⟩
  · rw [if_pos hall, joined_front hall, joined_front]
    · simp [or_imp, forall_and]
    · simpa [or_imp, forall_and] using hall
  · have hor : ¬ ∀ clause ∈ front ++ (Junction.or, first) :: rest, clause.1 = .and := by
      intro h
      simpa using h (.or, first) (by simp)
    rw [if_neg hor, List.append_assoc, List.cons_append, joined_alternatives hfront,
      joined_alternatives hfront]
    simp only [List.mem_append, List.mem_singleton, or_and_right, exists_or, exists_eq_left,
      or_assoc]

theorem accepts_group_push {Doc : Type} (judge : Judgement Doc) (document : Doc)
    (clauses : List (Junction × Json)) (last : Json) :
    (Accepts judge document (group (clauses ++ [(.and, last)])) ↔
      if ∀ clause ∈ clauses, clause.1 = .and then
        Accepts judge document (group clauses) ∧ Matches judge document last
      else Accepts judge document (group clauses) ∨ Matches judge document last) := by
  rw [accepts_group, accepts_group, List.map_append, List.map_singleton, joined_push]
  simp only [List.forall_mem_map]

/-- The clause that a deletion by id adds. -/
abbrev idClause (id : String) : Clause := .ofCondition (.eq "_id" (.plain (.str id)))

/-- The query that names a document by its id. -/
abbrev idQuery (id : String) : Json := .single "term" (.single "_id" (.str id))

theorem clauses_idClause (id : String) :
    clauses target collection [idClause id] = .ok [(.and, idQuery id)] := by
  have hcolumn : bareColumn collection "_id" = "_id" :=
    bareColumn_of_no_dot collection (by decide)
  simp only [clauses, Clause.ofCondition, Condition.eq, shapeOf, hcolumn]
  rfl

theorem contexts_eq_ok {query : Query} {compiled : Contexts} :
    contexts target collection query = .ok compiled ↔
      ∃ wheres filters postFilters, clauses target collection query.wheres = .ok wheres ∧
        clauses target collection query.filters = .ok filters ∧
        clauses target collection query.postFilters = .ok postFilters ∧
        compiled = { query := group wheres, filter := group filters
                     postFilter := group postFilters } := by
  cases query
  simp only [contexts, bind_eq_ok, pure_eq_ok]
  constructor
  · rintro ⟨wheres, hwheres, filters, hfilters, postFilters, hpost, rfl⟩
    exact ⟨wheres, filters, postFilters, hwheres, hfilters, hpost, rfl⟩
  · rintro ⟨wheres, filters, postFilters, hwheres, hfilters, hpost, rfl⟩
    exact ⟨wheres, hwheres, filters, hfilters, postFilters, hpost, rfl⟩

/-- A query that can be deleted from with one more clause can be deleted from without it. -/
theorem exists_delete_of_push {query : Query} {clause : Clause} {request : DeleteRequest}
    (h : delete target (query.push clause) = .ok request) :
    ∃ own, delete target query = .ok own := by
  simp only [delete, bind_eq_ok] at h
  obtain ⟨_, hbody, -⟩ := h
  obtain ⟨compiled, aggregated, hcompiled, haggregated, -⟩ := body_eq_ok.mp hbody
  obtain ⟨_, filters, postFilters, hwheres, hfilters, hpost, rfl⟩ := contexts_eq_ok.mp hcompiled
  obtain ⟨wheres, _, hown, -, -⟩ := clauses_append.mp hwheres
  have hcontexts : contexts target query.collection query = .ok _ :=
    contexts_eq_ok.mpr ⟨wheres, filters, postFilters, hown, hfilters, hpost, rfl⟩
  have hbody := body_eq_ok.mpr ⟨_, aggregated, hcontexts, haggregated, rfl⟩
  exact ⟨_, bind_eq_ok.mpr ⟨_, hbody, rfl⟩⟩

variable {Doc : Type} (judge : Judgement Doc) (document : Doc)

/-- The tree of a deletion joins the two contexts of the query. -/
theorem accepts_delete {query : Query} {request : DeleteRequest}
    (h : delete target query = .ok request) :
    ∃ compiled, contexts target query.collection query = .ok compiled ∧
      (Accepts judge document request.body.query ↔
        Accepts judge document compiled.query ∧ Accepts judge document compiled.filter) := by
  simp only [delete, bind_eq_ok, pure_eq_ok] at h
  obtain ⟨compiledBody, hbody, rfl⟩ := h
  have haccepts := accepts_body judge document hbody
  exact haccepts

/-- A query with the clause of an id finds what the query finds and the id names, if the query has
no OR; else it finds all that the query finds by itself, and nothing but that and what the id
names. -/
theorem accepts_delete_push {query : Query} {id : String} {request own : DeleteRequest}
    (hrequest : delete target (query.push (idClause id)) = .ok request)
    (hown : delete target query = .ok own) :
    if ∀ clause ∈ query.wheres, clause.junction = .and then
      Accepts judge document request.body.query ↔
        Accepts judge document own.body.query ∧ judge "term" (.single "_id" (.str id)) document
    else (Accepts judge document own.body.query → Accepts judge document request.body.query) ∧
      (Accepts judge document request.body.query →
        Accepts judge document own.body.query ∨
          judge "term" (.single "_id" (.str id)) document) := by
  obtain ⟨_, hcompiled, hrequest⟩ := accepts_delete judge document hrequest
  obtain ⟨_, hcontexts, hown⟩ := accepts_delete judge document hown
  obtain ⟨wheres, filters, _, hwheres, hfilters, -, rfl⟩ := contexts_eq_ok.mp hcontexts
  obtain ⟨_, _, _, hpush, hfilters', -, rfl⟩ := contexts_eq_ok.mp hcompiled
  obtain ⟨_, _, hwheres', hid, rfl⟩ := clauses_append.mp hpush
  obtain rfl := Except.ok.inj (hwheres.symm.trans hwheres')
  obtain rfl := Except.ok.inj (hfilters.symm.trans hfilters')
  obtain rfl := Except.ok.inj ((clauses_idClause id).symm.trans hid)
  have hterm := matches_judge judge document "term" (.single "_id" (.str id)) (by decide)
    (by decide)
  have hjunctions : (∀ clause ∈ wheres, clause.1 = .and) ↔
      ∀ clause ∈ query.wheres, clause.junction = .and := by
    rw [← List.forall_mem_map (P := (· = Junction.and)), junctions_clauses hwheres,
      List.forall_mem_map]
  rw [hrequest, hown, accepts_group_push, hterm]
  simp only [hjunctions]
  split
  · rw [and_right_comm]
  · exact ⟨fun h => ⟨.inl h.1, h.2⟩, fun h => h.1.imp_left (⟨·, h.2⟩)⟩

end Dsl

namespace Call

open Dsl

theorem run_deleteMatching (query : Query) (session : Session) :
    (deleteMatching query).run.run session = match Dsl.delete session.target query with
      | .error error => (.error error, session)
      | .ok request =>
        ((session.exchange .delete (.deleteByQuery request)).1.map fun value =>
            decide (0 < (((value.getD .null).field? "deleted").bind Json.nat?).getD 0),
          (session.exchange .delete (.deleteByQuery request)).2) := by
  rw [deleteMatching, run_bind, run_get]
  dsimp only
  rw [run_bind, run_ofExcept]
  cases Dsl.delete session.target query with
  | error => rfl
  | ok request =>
    dsimp only
    rw [run_bind, run_sendForValue]
    rcases session.exchange .delete (.deleteByQuery request) with ⟨_ | _, _⟩
    · rfl
    · rfl

/-- What a deletion adds to the log: one request, or nothing where the query does not compile. -/
theorem log_deleteMatching (query : Query) (session : Session) :
    ((deleteMatching query).run.run session).2.log = session.log ++
      match Dsl.delete session.target query with
      | .ok request => [.counted .delete, .sent (.deleteByQuery request)]
      | .error _ => [] := by
  rw [run_deleteMatching]
  cases Dsl.delete session.target query with
  | error => exact (List.append_nil _).symm
  | ok request => exact session.log_exchange _ _

/-- A deletion by id sends the deletion of the query with the clause of the id. -/
theorem delete_of_sent {session : Session} {id : String} {request : DeleteRequest}
    (hsent : .sent (.deleteByQuery request) ∈
      ((deleteById id).run.run session).2.log.drop session.log.length) :
    Dsl.delete session.target (session.query.push (idClause id)) = .ok request := by
  have hlog : ((deleteById id).run.run session).2.log = _ :=
    log_deleteMatching (session.query.push (idClause id)) session
  rw [hlog, List.drop_left] at hsent
  split at hsent
  · next compiled hcompiled =>
    obtain rfl : request = compiled := by simpa using hsent
    exact hcompiled
  · simp at hsent

variable {Doc : Type} (judge : Judgement Doc) (identity : Doc → String)

/-- A deletion by id reaches no other document exactly when the query has no OR, or finds no other
document by itself. -/
theorem deleteById_reaches_only_id_iff {session : Session} {id : String} {request : DeleteRequest}
    (hid : ∀ document, judge "term" (.single "_id" (.str id)) document → identity document = id)
    (hsent : .sent (.deleteByQuery request) ∈
      ((deleteById id).run.run session).2.log.drop session.log.length) :
    (∀ document, Accepts judge document request.body.query → identity document = id) ↔
      (∀ clause ∈ session.query.wheres, clause.junction = .and) ∨
        ∃ own, Dsl.delete session.target session.query = .ok own ∧
          ∀ document, Accepts judge document own.body.query → identity document = id := by
  have hrequest := delete_of_sent hsent
  obtain ⟨own, hown⟩ := exists_delete_of_push hrequest
  have hpush := fun document => accepts_delete_push judge document hrequest hown
  by_cases hand : ∀ clause ∈ session.query.wheres, clause.junction = .and
  · simp only [if_pos hand] at hpush
    exact iff_of_true (fun document haccepts => hid document ((hpush document).mp haccepts).2)
      (.inl hand)
  · simp only [if_neg hand] at hpush
    constructor
    · intro honly
      exact .inr ⟨own, hown, fun document h => honly document ((hpush document).1 h)⟩
    · rintro (hand' | ⟨_, hown', honly⟩) document h
      · exact absurd hand' hand
      · obtain rfl := Except.ok.inj (hown.symm.trans hown')
        exact ((hpush document).2 h).elim (honly document) (hid document)

/-- A query with the given clauses, in a session with a server that has no answers to give. -/
def sessionOf (wheres : List Clause) : Session where
  target := {}
  query := { collection := "posts", wheres }
  server := .direct [] false

/-- Documents are their ids. The term of an id finds the document with that id, and any other term
finds all documents. -/
def idJudge : Judgement String := fun name content document =>
  name = "term" ∧ ∀ id, content = .single "_id" (.str id) → document = id

theorem eq_of_idJudge {id document : String}
    (h : idJudge "term" (.single "_id" (.str id)) document) : document = id :=
  h.2 id rfl

theorem deleteById_reaches_only_id_of_front :
    ∃ request, .sent (.deleteByQuery request) ∈
        ((deleteById "7").run.run (sessionOf [.ofCondition (.eq "a" (.plain (.int 1)))])).2.log ∧
      ∀ document, Accepts idJudge document request.body.query → document = "7" := by
  refine ⟨_, List.mem_cons_of_mem _ (List.mem_singleton_self _), ?_⟩
  apply (@deleteById_reaches_only_id_iff _ idJudge id
    (sessionOf [.ofCondition (.eq "a" (.plain (.int 1)))]) _ _ (fun _ => eq_of_idJudge)
    (List.mem_cons_of_mem _ (List.mem_singleton_self _))).mpr
  exact .inl (by simp [sessionOf, Clause.ofCondition])

/-- Behind an OR the deletion of one document reaches another one. -/
theorem deleteById_reaches_other_document :
    ∃ request, .sent (.deleteByQuery request) ∈
        ((deleteById "7").run.run (sessionOf [.ofCondition (.eq "a" (.plain (.int 1))),
          (Clause.ofCondition (.eq "b" (.plain (.int 2)))).or])).2.log ∧
      (∀ document, idJudge "term" (.single "_id" (.str "7")) document → document = "7") ∧
      Accepts idJudge "8" request.body.query := by
  refine ⟨_, List.mem_cons_of_mem _ (List.mem_singleton_self _), fun _ => eq_of_idJudge, ?_⟩
  change Accepts idJudge "8" (some (should [must [.single "term" (.single "a" (.int 1))],
    .single "term" (.single "b" (.int 2)), must [idQuery "7"]]))
  rw [accepts_some, matches_should]
  refine ⟨_, List.mem_cons_self, ?_⟩
  rw [matches_must]
  rintro query (_ | ⟨_, ⟨⟩⟩)
  rw [matches_judge _ _ _ _ (by decide) (by decide)]
  exact ⟨rfl, fun id h => by simp [Json.single, Object.single] at h⟩

end Call

end SearchQuery
