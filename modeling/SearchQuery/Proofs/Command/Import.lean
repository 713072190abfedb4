import Mathlib
import SearchQuery.Command.Basic
import SearchQuery.Proofs.Command.Lines
import SearchQuery.Proofs.Dsl.Prepared
import SearchQuery.Proofs.Session.Run
/-!
# Imports

An import hands the documents of its lines to bulk writes, list by list and in order. A write that
fails ends it, and so does a line that is no document, behind which nothing is read. Of the documents
in front of such a line, those that do not fill a list are not written.
-/

namespace SearchQuery

namespace Command

/-! ### Runs of commands -/

namespace Run

variable {α β : Type}

theorem run_bind (step : Run α) (next : α → Run β) (shell : Shell) :
    (step >>= next).run.run shell =
      match step.run.run shell with
      | (.ok value, later) => (next value).run.run later
      | (.error failure, later) => (.error failure, later) := by
  rw [run_steps]
  rcases step.run.run shell with ⟨_ | _, _⟩
  · rfl
  · rfl

theorem run_call (context : List String) (action : Call α) (shell : Shell) :
    (call context action).run.run shell =
      let outcome := action.run.run shell.session
      (outcome.1.mapError fun error => { context, cause := some error },
        { shell with session := outcome.2 }) := by
  change (ofExcept context (action.run.run shell.session).1).run.run
    { shell with session := (action.run.run shell.session).2 } = _
  rcases action.run.run shell.session with ⟨_ | _, _⟩
  · rfl
  · rfl

theorem run_printLine (line : String) (shell : Shell) :
    (printLine line).run.run shell = (.ok ⟨⟩, { shell with out := shell.out ++ line ++ "\n" }) := rfl

theorem run_useQuery (query : Query) (shell : Shell) :
    (useQuery query).run.run shell =
      (.ok ⟨⟩, { shell with session := { shell.session with query } }) := rfl

end Run

open Run

/-! ### Writing lists in turn -/

/-- Lists of documents are written one after the other, up to the first failure: the session that is
left, and the failure if there was one. -/
inductive WritesInTurn : Session → List (List Document) → Option Error → Session → Prop where
  | done (session : Session) : WritesInTurn session [] none session
  | failed {session later : Session} {documents : List Document} {error : Error}
      (h : (Call.insertMany documents).run.run session = (.error error, later)) :
      WritesInTurn session [documents] (some error) later
  | wrote {session later last : Session} {documents : List Document} {response : Json}
      {rest : List (List Document)} {failure : Option Error}
      (h : (Call.insertMany documents).run.run session = (.ok response, later))
      (hrest : WritesInTurn later rest failure last) :
      WritesInTurn session (documents :: rest) failure last

/-- The bulk requests of lists of documents, one for each. -/
def bulkRequests (session : Session) (lists : List (List Document)) : List BulkRequest :=
  ((lists.mapM (Dsl.insertMany session.target session.query)).run session.ids).1

/-- The events of sending bulk requests. -/
def bulkEvents (requests : List BulkRequest) : List Event :=
  requests.flatMap fun request => [.counted .bulk, .sent (.bulk request)]

theorem session_after_insertMany {documents : List Document} (h : documents ≠ [])
    (session : Session) :
    let compiled := (Dsl.insertMany session.target session.query documents).run session.ids
    ∃ server, ((Call.insertMany documents).run.run session).2 =
      { session with server, ids := compiled.2, log := session.log ++ bulkEvents [compiled.1] } := by
  intro compiled
  rw [Call.run_insertMany h]
  refine ⟨(session.server.exchange (.bulk compiled.1)).2, ?_⟩
  simp [Session.exchange, Session.record, bulkEvents, compiled]

/-- Every list that is written is one request, and nothing else is sent. -/
theorem WritesInTurn.log {session later : Session} {lists : List (List Document)}
    {failure : Option Error} (h : WritesInTurn session lists failure later)
    (hlists : ∀ documents ∈ lists, documents ≠ []) :
    later.log = session.log ++ bulkEvents (bulkRequests session lists) := by
  induction h with
  | done session => exact (List.append_nil _).symm
  | @failed session later documents error hrun =>
    obtain ⟨server, hlater⟩ := session_after_insertMany (hlists documents List.mem_cons_self) session
    rw [hrun] at hlater
    rw [show later = _ from hlater]
    rfl
  | @wrote session later last documents response rest failure hrun hrest ih =>
    obtain ⟨server, hlater⟩ := session_after_insertMany (hlists documents List.mem_cons_self) session
    rw [hrun] at hlater
    rw [ih fun list hlist => hlists list (List.mem_cons_of_mem _ hlist),
      show later = _ from hlater]
    dsimp only
    rw [List.append_assoc]
    unfold bulkRequests
    rw [Dsl.run_mapM_cons]
    rfl

/-- The failure of a command whose bulk write has failed. -/
def bulkFailure (error : Error) : Failure where
  context := ["Bulk import failed"]
  cause := some error

theorem run_writeBatches (pieces : List (List SizedDocument)) (shell : Shell) :
    ∃ written unwritten failure later,
      written ++ unwritten = pieces.map (·.map (·.document)) ∧ (failure = none → unwritten = []) ∧
      WritesInTurn shell.session written failure later ∧
      (writeBatches pieces).run.run shell =
        ((failure.map bulkFailure).elim (.ok ⟨⟩) .error, { shell with session := later }) := by
  induction pieces generalizing shell with
  | nil => exact ⟨[], [], none, shell.session, rfl, fun _ => rfl, .done _, rfl⟩
  | cons piece rest ih =>
    rcases hrun : (Call.insertMany (piece.map (·.document))).run.run shell.session with
      ⟨error | response, later⟩
    · refine ⟨[piece.map (·.document)], rest.map (·.map (·.document)), some error, later, rfl,
        (fun h => nomatch h), .failed hrun, ?_⟩
      rw [writeBatches, run_bind, run_call, hrun]
      rfl
    · obtain ⟨written, unwritten, failure, last, hall, hnone, hwrites, hrest⟩ :=
        ih { shell with session := later }
      refine ⟨piece.map (·.document) :: written, unwritten, failure, last, ?_, hnone,
        .wrote hrun hwrites, ?_⟩
      · rw [List.cons_append, hall, List.map_cons]
      · rw [writeBatches, run_bind, run_call, hrun]
        exact hrest

/-! ### What is planned -/

/-- The lists that are to be written of documents held back and of what is read behind them. -/
def planned (batchSize : Nat) (held read : List SizedDocument) : Option BadLine →
    List (List SizedDocument)
  | some _ => (batches.go batchSize held read).filter (max batchSize 1 ≤ ·.length)
  | none => batches.go batchSize held read

/-- The failure of a command that has met a bad line. -/
def lineFailure (bad : BadLine) : Failure where
  context := [BadLine.context bad]
  cause := some (.json "expected an object")

/-- How reading ends: with what is read, or at a bad line. -/
def ending (read : List SizedDocument) : Option BadLine → Run (List SizedDocument)
  | some bad => throw (lineFailure bad)
  | none => pure read

theorem writeDocuments_eq (collection name text : String) (batchSize : Nat) :
    writeDocuments collection { name, text := some text } batchSize = (do
      useQuery { collection }
      let (read, bad) := readDocuments 1 ((textLines text.toList).map String.ofList)
      writeBatches (planned batchSize [] read bad)
      ending read bad) := by
  rw [writeDocuments]
  dsimp only
  generalize readDocuments 1 ((textLines text.toList).map String.ofList) = outcome
  rcases outcome with ⟨read, _ | bad⟩
  · rfl
  · rfl

theorem cut_planned (batchSize : Nat) (read : List SizedDocument) (bad : Option BadLine) :
    ∃ full left, Cut (max batchSize 1) (read.map (·.document)) full left ∧
      (planned batchSize [] read bad).map (·.map (·.document)) =
        full ++ bad.elim (leftOver left) fun _ => [] := by
  obtain ⟨full, left, hcut, hbatches⟩ := cut_batches batchSize read
  unfold batches at hbatches
  refine ⟨_, _, hcut.map (·.document), ?_⟩
  cases bad with
  | none =>
    rw [planned, hbatches, List.map_append, map_leftOver]
    rfl
  | some bad =>
    rw [planned, hbatches, hcut.filter_full]
    exact (List.append_nil _).symm

/-! ### Line by line -/

/-- Reads lines one at a time. Documents are held back until they fill a list, which is written at
once; those that are held back at the end are written last. -/
def importLines (batchSize number : Nat) (held : List SizedDocument) :
    List String → Run (List SizedDocument)
  | [] => do
    writeBatches (leftOver held)
    return []
  | line :: rest =>
    if (trimmed line).isEmpty then importLines batchSize (number + 1) held rest
    else match documentOfLine? line with
      | none => throw (lineFailure { number, line })
      | some document => do
        let item : SizedDocument := { document, size := line.utf8ByteSize }
        let held := held ++ [item]
        if max batchSize 1 ≤ held.length then
          writeBatches [held]
          return item :: (← importLines batchSize (number + 1) [] rest)
        else return item :: (← importLines batchSize (number + 1) held rest)

theorem writeBatches_append (front back : List (List SizedDocument)) :
    writeBatches (front ++ back) = (do writeBatches front; writeBatches back) := by
  induction front with
  | nil => exact (pure_bind _ _).symm
  | cons batch rest ih =>
    rw [List.cons_append, writeBatches, writeBatches, ih, bind_assoc]

theorem ending_cons (item : SizedDocument) (read : List SizedDocument) (bad : Option BadLine) :
    (do return item :: (← ending read bad)) = ending (item :: read) bad := by
  cases bad with
  | none => rfl
  | some bad => rfl

theorem planned_bad {batchSize : Nat} {held : List SizedDocument}
    (hheld : held.length < max batchSize 1) (bad : BadLine) :
    planned batchSize held [] (some bad) = [] := by
  have hcut : Cut (max batchSize 1) held [] held := ⟨by simp, hheld, rfl⟩
  exact hcut.filter_full

theorem planned_cons_full {batchSize : Nat} {held read : List SizedDocument} {item : SizedDocument}
    (h : max batchSize 1 ≤ (held ++ [item]).length) (bad : Option BadLine) :
    planned batchSize held (item :: read) bad =
      [held ++ [item]] ++ planned batchSize [] read bad := by
  cases bad with
  | none =>
    simp only [planned, batches.go, if_pos h]
    rfl
  | some bad =>
    simp only [planned, batches.go, if_pos h]
    rw [List.filter_cons_of_pos (by simpa using h)]
    rfl

theorem planned_cons_held {batchSize : Nat} {held read : List SizedDocument} {item : SizedDocument}
    (h : ¬ max batchSize 1 ≤ (held ++ [item]).length) (bad : Option BadLine) :
    planned batchSize held (item :: read) bad = planned batchSize (held ++ [item]) read bad := by
  cases bad <;> simp only [planned, batches.go, if_neg h]

/-- Reading lines one at a time comes to the same as reading them all and writing the lists that are
planned. -/
theorem importLines_eq (batchSize number : Nat) {held : List SizedDocument} (lines : List String)
    (hheld : held.length < max batchSize 1) :
    importLines batchSize number held lines = (do
      let (read, bad) := readDocuments number lines
      writeBatches (planned batchSize held read bad)
      ending read bad) := by
  induction lines generalizing number held with
  | nil => rfl
  | cons line rest ih =>
    rw [importLines, readDocuments]
    by_cases hblank : (trimmed line).isEmpty
    · rw [if_pos hblank, if_pos hblank, ih (number + 1) hheld]
    · rw [if_neg hblank, if_neg hblank]
      cases documentOfLine? line with
      | none =>
        dsimp only
        rw [planned_bad hheld]
        rfl
      | some document =>
        rcases hread : readDocuments (number + 1) rest with ⟨read, bad⟩
        have hone : max batchSize 1 > 0 := by omega
        have hempty := @ih (number + 1) [] hone
        dsimp only
        by_cases hfull : max batchSize 1 ≤
          (held ++ [{ document, size := line.utf8ByteSize : SizedDocument }]).length
        · rw [if_pos hfull, planned_cons_full hfull, hempty, hread, writeBatches_append]
          simp only [bind_assoc, ← ending_cons]
        · rw [if_neg hfull, planned_cons_held hfull, ih (number + 1) (Nat.lt_of_not_le hfull), hread]
          simp only [bind_assoc, ← ending_cons]

/-- An import may as well read a line at a time and write each list as soon as it is full. -/
theorem writeDocuments_eq_importLines (collection name text : String) (batchSize : Nat) :
    writeDocuments collection { name, text := some text } batchSize = (do
      useQuery { collection }
      importLines batchSize 1 [] ((textLines text.toList).map String.ofList)) := by
  rw [writeDocuments_eq, importLines_eq batchSize 1 _ (by rw [List.length_nil]; omega)]

/-! ### Whole imports -/

/-- An output that goes on with the first lines of a report. -/
def reported (out : String) (count : Nat) : String :=
  out ++ "Import completed:" ++ "\n" ++ ("  Documents: " ++ toString count) ++ "\n"

theorem run_reportImport (read : List SizedDocument) (time : String) (shell : Shell) :
    ∃ rest, (reportImport read time).run.run shell =
      (.ok ⟨⟩, { shell with out := reported shell.out read.length ++ rest }) := by
  have hassoc (front first second third last : String) :
      front ++ first ++ second ++ third ++ last = front ++ (first ++ second ++ third ++ last) := by
    simp only [String.append_assoc]
  rw [reportImport]
  simp only [run_bind, run_printLine]
  exact ⟨_, by rw [← reported, hassoc]⟩

/-- What comes of an import: its first failure, if there is one. -/
def importResult : Option Error → Option BadLine → Except Failure Unit
  | some error, _ => .error (bulkFailure error)
  | none, some line => .error (lineFailure line)
  | none, none => .ok ⟨⟩

/-- An import writes the lists that are planned, up to the first write that fails, and reports what
it has read if nothing fails. -/
theorem run_importDocuments (collection name text : String) (batchSize : Nat) (quiet : Bool)
    (time : String) (shell : Shell) {read : List SizedDocument} {bad : Option BadLine}
    (hread : readDocuments 1 ((textLines text.toList).map String.ofList) = (read, bad)) :
    let outcome :=
      (importDocuments collection { name, text := some text } batchSize quiet time).run.run shell
    ∃ written unwritten failure,
      written ++ unwritten = (planned batchSize [] read bad).map (·.map (·.document)) ∧
      (failure = none → unwritten = []) ∧
      WritesInTurn { shell.session with query := { collection } } written failure
        outcome.2.session ∧
      outcome.1 = importResult failure bad ∧
      (outcome.1 = .ok ⟨⟩ → quiet = false →
        ∃ rest, outcome.2.out = reported shell.out read.length ++ rest) := by
  intro outcome
  obtain ⟨written, unwritten, failure, later, hall, hnone, hwrites, hrun⟩ :=
    run_writeBatches (planned batchSize [] read bad)
      { shell with session := { shell.session with query := { collection } } }
  have houtcome : outcome =
      match (importResult failure bad : Except Failure Unit) with
      | .error failed => (.error failed, { shell with session := later })
      | .ok _ => (if quiet = false then reportImport read time else pure ⟨⟩ : Run Unit).run.run
          { shell with session := later } := by
    change (importDocuments collection { name, text := some text } batchSize quiet time).run.run
      shell = _
    rw [importDocuments, run_bind, writeDocuments_eq, run_bind, run_useQuery]
    simp only [hread]
    rw [run_bind, hrun]
    cases failure with
    | some error => rfl
    | none =>
      cases bad with
      | some line => rfl
      | none => cases quiet <;> rfl
  refine ⟨written, unwritten, failure, hall, hnone, ?_⟩
  cases hresult : importResult failure bad with
  | error failed =>
    rw [hresult] at houtcome
    rw [houtcome]
    exact ⟨hwrites, rfl, fun h => nomatch h⟩
  | ok =>
    rw [hresult] at houtcome
    cases quiet with
    | true =>
      rw [houtcome]
      exact ⟨hwrites, rfl, fun _ h => nomatch h⟩
    | false =>
      obtain ⟨rest, hreport⟩ := run_reportImport read time { shell with session := later }
      rw [houtcome.trans hreport]
      exact ⟨hwrites, rfl, fun _ _ => ⟨rest, rfl⟩⟩

/-- What is planned of documents is written list by list, so that what has been written is a part of
them, from the first one on. -/
theorem isPrefix_of_planned {size : Nat} {documents left : List Document}
    {full written unwritten more : List (List Document)} (hcut : Cut size documents full left)
    (hmore : more = leftOver left ∨ more = []) (hall : written ++ unwritten = full ++ more) :
    written.flatten <+: documents ∧ ∀ list ∈ written, list ≠ [] := by
  constructor
  · have hplanned : (full ++ more).flatten <+: documents := by
      rw [← hcut.all, List.flatten_append, List.prefix_append_right_inj]
      obtain rfl | rfl := hmore
      · simp [flatten_leftOver]
      · exact List.nil_prefix
    refine List.IsPrefix.trans ?_ hplanned
    rw [← hall, List.flatten_append]
    exact List.prefix_append _ _
  · intro list hlist
    have hmem : list ∈ full ++ more := hall ▸ List.mem_append_left _ hlist
    obtain rfl | rfl := hmore
    · exact hcut.ne_nil hmem
    · rw [List.append_nil] at hmem
      exact hcut.ne_nil (List.mem_append_left _ hmem)

/-- An import hands the documents of its lines, each once and in their order, to one bulk request
after the other, until a write fails. If every line has a document or is blank, these are all of
them, in lists of the full size and one that may be shorter at the end, and their number is what is
reported. If a line is bad, they are those of the full lists in front of it, and the import fails. -/
theorem import_writes_documents_once (collection name : String) {text : String}
    {lines : List String} (hlines : Lines text.toList (lines.map String.toList)) (batchSize : Nat)
    (quiet : Bool) (time : String) (shell : Shell) :
    let outcome :=
      (importDocuments collection { name, text := some text } batchSize quiet time).run.run shell
    let start := { shell.session with query := { collection } }
    ∃ written failure,
      WritesInTurn start written failure outcome.2.session ∧
      outcome.2.session.log = start.log ++ bulkEvents (bulkRequests start written) ∧
      written.flatten <+: (recordLines lines).filterMap documentOfLine? ∧
      (∀ error, failure = some error → outcome.1 = .error (bulkFailure error)) ∧
      (∀ documents, HoldDocuments lines documents →
        ∃ full left unwritten, Cut (max batchSize 1) documents full left ∧
          written ++ unwritten = full ++ leftOver left ∧
          (failure = none → unwritten = [] ∧ outcome.1 = .ok ⟨⟩ ∧ (quiet = false → ∃ rest,
            outcome.2.out = reported shell.out (recordLines lines).length ++ rest))) ∧
      (∀ front bad rest documents, lines = front ++ bad :: rest → HoldDocuments front documents →
        IsBad bad →
          ∃ full left unwritten, Cut (max batchSize 1) documents full left ∧
            written ++ unwritten = full ∧
            (failure = none → unwritten = [] ∧
              outcome.1 = .error (lineFailure { number := front.length + 1, line := bad }))) := by
  intro outcome start
  have htext : (textLines text.toList).map String.ofList = lines := by
    rw [textLines_of_lines hlines, List.map_map]
    simp [Function.comp_def]
  rcases hread : readDocuments 1 lines with ⟨read, bad⟩
  obtain ⟨written, unwritten, failure, hall, hnone, hwrites, hresult, hreport⟩ :=
    run_importDocuments collection name text batchSize quiet time shell (htext ▸ hread)
  obtain ⟨full, left, hcut, hplanned⟩ := cut_planned batchSize read bad
  rw [hplanned] at hall
  have hmore : bad.elim (leftOver left) (fun _ => []) = leftOver left ∨
      bad.elim (leftOver left) (fun _ => []) = [] := by
    cases bad with
    | none => exact .inl rfl
    | some line => exact .inr rfl
  obtain ⟨hplaced, hlists⟩ := isPrefix_of_planned hcut hmore hall
  have hplace := readDocuments_isPrefix 1 lines
  rw [hread] at hplace
  refine ⟨written, failure, hwrites, hwrites.log hlists, hplaced.trans hplace, ?_, ?_, ?_⟩
  · rintro error rfl
    exact hresult
  · intro documents hdocuments
    obtain ⟨read', rfl, hread'⟩ := readDocuments_of_all hdocuments 1
    obtain ⟨rfl, rfl⟩ := Prod.mk.inj (hread.symm.trans hread')
    refine ⟨full, left, unwritten, hcut, hall, ?_⟩
    rintro rfl
    have hcount : (recordLines lines).length = read.length := by
      rw [hdocuments.length_eq, List.length_map]
    rw [hcount]
    exact ⟨hnone rfl, hresult, hreport hresult⟩
  · intro front line rest documents hfront hdocuments hline
    obtain ⟨read', rfl, hread'⟩ := @readDocuments_of_bad front rest line _ hdocuments hline 1
    rw [← hfront] at hread'
    obtain ⟨rfl, rfl⟩ := Prod.mk.inj (hread.symm.trans hread')
    refine ⟨full, left, unwritten, hcut, hall.trans (List.append_nil _), ?_⟩
    rintro rfl
    rw [Nat.add_comm] at hresult
    exact ⟨hnone rfl, hresult⟩

/-- A line with a document that has an id only. -/
def idLine (id : String) : String := "\x7b\"id\":" ++ id ++ "\x7d"

/-- Lines with three documents and a blank line. -/
def idLines : List String := [idLine "1", "", idLine "2", idLine "3"]

theorem idLines_hold : HoldDocuments idLines
    [[("id", .int 1)], [("id", .int 2)], [("id", .int 3)]] := by
  unfold HoldDocuments
  rw [show recordLines idLines = [idLine "1", idLine "2", idLine "3"] by decide]
  exact .cons (by cbv) (.cons (by cbv) (.cons (by cbv) .nil))

/-- A shell with a server that refuses nothing. -/
def acceptingShell : Shell where
  session := { target := {}, query := { collection := "posts" }, server := .direct [] false }

/-- With two documents to a list and a bad line at the end, the third document is read, but not
written. -/
theorem import_writes_documents_once_badLine :
    let text := idLine "1" ++ "\n\n" ++ idLine "2" ++ "\r\n" ++ idLine "3" ++ "\nno"
    let outcome :=
      (importDocuments "posts" { name := "", text := some text } 2 false "").run.run acceptingShell
    outcome.1 = .error (lineFailure { number := 5, line := "no" }) ∧
      outcome.2.session.log =
        bulkEvents (bulkRequests acceptingShell.session [[[("id", .int 1)], [("id", .int 2)]]]) := by
  intro text outcome
  have hlines : Lines text.toList ((idLines ++ ["no"]).map String.toList) :=
    textLines_eq_iff.mp (by decide)
  have hbad : IsBad "no" := ⟨by decide, by cbv⟩
  have hcut : Cut (max 2 1) [[("id", Json.int 1)], [("id", .int 2)], [("id", .int 3)]]
      [[[("id", .int 1)], [("id", .int 2)]]] [[("id", .int 3)]] := ⟨by simp, by simp, rfl⟩
  obtain ⟨written, failure, hwrites, hlog, -, -, -, hfront⟩ :=
    import_writes_documents_once "posts" "" hlines 2 false "" acceptingShell
  obtain ⟨full, left, unwritten, hcut', hall, hend⟩ := hfront _ "no" [] _ rfl idLines_hold hbad
  obtain ⟨rfl, rfl⟩ := hcut.unique hcut'
  have hnone : failure = none := by
    change WritesInTurn _ written failure outcome.2.session at hwrites
    generalize outcome.2.session = later at hwrites
    cases hwrites with
    | done => rfl
    | failed h =>
      obtain ⟨rfl, -⟩ := List.cons.inj hall
      cases h
    | wrote h hrest =>
      obtain ⟨-, hrest'⟩ := List.cons.inj hall
      obtain ⟨rfl, -⟩ := List.append_eq_nil_iff.mp hrest'
      cases hrest
      rfl
  obtain ⟨rfl, herror⟩ := hend hnone
  rw [List.append_nil] at hall
  rw [hall] at hlog
  exact ⟨herror, hlog⟩

end Command

end SearchQuery
