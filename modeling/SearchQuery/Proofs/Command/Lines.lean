import Mathlib.Data.List.Basic
import SearchQuery.Command.Lines
/-!
# Lines, documents and batches

A text is its ended lines, each with its line feed, and what follows the last of them. The documents
of lines are those of the lines that are not blank, and batches of them are lists of the full size
with a shorter one at the end. No line, no document and no order is lost on the way.
-/

namespace SearchQuery

variable {α β : Type}

/-- What is left over when a list is taken apart: one more piece, unless it is empty. -/
def leftOver (left : List α) : List (List α) := if left.isEmpty then [] else [left]

theorem flatten_leftOver (left : List α) : (leftOver left).flatten = left := by
  unfold leftOver
  cases left with
  | nil => rfl
  | cons first rest => simp

theorem map_leftOver (f : α → β) (left : List α) :
    (leftOver left).map (·.map f) = leftOver (left.map f) := by
  cases left with
  | nil => rfl
  | cons first rest => rfl

theorem ne_nil_of_mem_leftOver {list left : List α} (h : list ∈ leftOver left) : list ≠ [] := by
  cases left with
  | nil => cases h
  | cons first rest =>
    rw [List.mem_singleton.mp h]
    exact List.cons_ne_nil _ _

/-! ### Lines of a text -/

/-- A line without the carriage return that belongs to its end. -/
def withoutReturn (line : List Char) : List Char :=
  if line.getLast? = some '\r' then line.dropLast else line

/-- The lines of a text: what ends at a line feed, and what is left over. -/
def Lines (text : List Char) (lines : List (List Char)) : Prop :=
  ∃ (ended : List (List Char)) (left : List Char),
    text = (ended.map (· ++ ['\n'])).flatten ++ left ∧
    (∀ line ∈ ended, '\n' ∉ line) ∧ '\n' ∉ left ∧
    lines = ended.map withoutReturn ++ leftOver left

theorem withoutReturn_reverse (back : List Char) :
    withoutReturn back.reverse =
      (match back with
        | '\r' :: front => front
        | line => line).reverse := by
  unfold withoutReturn
  rw [List.getLast?_reverse]
  cases back with
  | nil => rfl
  | cons last front =>
    by_cases hreturn : last = '\r'
    · subst hreturn
      simp
    · rw [List.head?_cons, if_neg (fun h => hreturn (Option.some.inj h))]
      split
      · next h => exact absurd (List.cons.inj h).1 hreturn
      · rfl

theorem textLines_go_cons {c : Char} (h : c ≠ '\n') (back rest : List Char) :
    textLines.go back (c :: rest) = textLines.go (c :: back) rest := by
  conv_lhs => unfold textLines.go
  rw [if_neg h]

theorem textLines_go_feed (back rest : List Char) :
    textLines.go back ('\n' :: rest) = withoutReturn back.reverse :: textLines.go [] rest := by
  rw [withoutReturn_reverse]
  conv_lhs => unfold textLines.go
  exact if_pos rfl

theorem textLines_go_left (back left : List Char) (hleft : '\n' ∉ left) :
    textLines.go back left = leftOver (back.reverse ++ left) := by
  induction left generalizing back with
  | nil =>
    rw [textLines.go, List.append_nil, leftOver, List.isEmpty_reverse]
  | cons c rest ih =>
    have hc : c ≠ '\n' := (List.ne_of_not_mem_cons hleft).symm
    have hrest : '\n' ∉ rest := List.not_mem_of_not_mem_cons hleft
    rw [textLines_go_cons hc, ih (c :: back) hrest]
    simp

theorem textLines_go_ended (back line rest : List Char) (hline : '\n' ∉ line) :
    textLines.go back (line ++ '\n' :: rest) =
      withoutReturn (back.reverse ++ line) :: textLines.go [] rest := by
  induction line generalizing back with
  | nil =>
    rw [List.nil_append, textLines_go_feed, List.append_nil]
  | cons c more ih =>
    have hc : c ≠ '\n' := (List.ne_of_not_mem_cons hline).symm
    have hmore : '\n' ∉ more := List.not_mem_of_not_mem_cons hline
    rw [List.cons_append, textLines_go_cons hc, ih (c :: back) hmore]
    simp

theorem textLines_of_lines {text : List Char} {lines : List (List Char)} (h : Lines text lines) :
    textLines text = lines := by
  obtain ⟨ended, left, rfl, hended, hleft, rfl⟩ := h
  unfold textLines
  induction ended with
  | nil => exact textLines_go_left [] left hleft
  | cons line more ih =>
    have hline : '\n' ∉ line := hended line List.mem_cons_self
    have hmore : ∀ line ∈ more, '\n' ∉ line := fun line h => hended line (List.mem_cons_of_mem _ h)
    have hgo := textLines_go_ended [] line ((more.map (· ++ ['\n'])).flatten ++ left) hline
    simp only [List.map_cons, List.flatten_cons, List.append_assoc, List.cons_append,
      List.nil_append] at hgo ⊢
    rw [hgo, ih hmore]
    rfl

theorem exists_lines (text : List Char) : ∃ lines, Lines text lines := by
  suffices h : ∃ (ended : List (List Char)) (left : List Char),
      text = (ended.map (· ++ ['\n'])).flatten ++ left ∧
      (∀ line ∈ ended, '\n' ∉ line) ∧ '\n' ∉ left by
    obtain ⟨ended, left, htext, hended, hleft⟩ := h
    exact ⟨_, ended, left, htext, hended, hleft, rfl⟩
  induction text with
  | nil => exact ⟨[], [], rfl, by simp, by simp⟩
  | cons c rest ih =>
    obtain ⟨ended, left, rfl, hended, hleft⟩ := ih
    by_cases hc : c = '\n'
    · exact ⟨[] :: ended, left, by simp [hc], by simpa using hended, hleft⟩
    · have hfeed : '\n' ≠ c := Ne.symm hc
      cases ended with
      | nil => exact ⟨[], c :: left, rfl, by simp, by simp [hfeed, hleft]⟩
      | cons line more =>
        refine ⟨(c :: line) :: more, left, by simp, ?_, hleft⟩
        simpa [hfeed] using hended

/-- The lines that a text is read in are its lines, and it has no others. -/
theorem textLines_eq_iff {text : List Char} {lines : List (List Char)} :
    textLines text = lines ↔ Lines text lines := by
  constructor
  · rintro rfl
    obtain ⟨lines, hlines⟩ := exists_lines text
    rwa [textLines_of_lines hlines]
  · exact textLines_of_lines

/-! ### Documents of lines -/

/-- The lines that are to have a document each. -/
def recordLines (lines : List String) : List String :=
  lines.filter fun line => !(trimmed line).isEmpty

/-- The documents of lines: one for each line that is not blank, in their order. -/
def HoldDocuments (lines : List String) (documents : List Object) : Prop :=
  List.Forall₂ (fun line document => documentOfLine? line = some document) (recordLines lines)
    documents

/-- Whether a line is neither blank nor a document. -/
def IsBad (line : String) : Prop := (trimmed line).isEmpty = false ∧ documentOfLine? line = none

theorem readDocuments_append {front : List String} {documents : List Object}
    (h : HoldDocuments front documents) (number : Nat) (rest : List String) :
    ∃ read, read.map (·.document) = documents ∧
      readDocuments number (front ++ rest) =
        (read ++ (readDocuments (number + front.length) rest).1,
          (readDocuments (number + front.length) rest).2) := by
  induction front generalizing number documents with
  | nil =>
    cases h
    exact ⟨[], rfl, rfl⟩
  | cons line more ih =>
    have hnumber : number + (line :: more).length = number + 1 + more.length := by
      simp only [List.length_cons]
      omega
    rw [List.cons_append, readDocuments, hnumber]
    by_cases hblank : (trimmed line).isEmpty
    · rw [if_pos hblank]
      refine ih ?_ (number + 1)
      simpa [HoldDocuments, recordLines, hblank] using h
    · rw [if_neg hblank]
      have hrecords : recordLines (line :: more) = line :: recordLines more := by
        simp [recordLines, hblank]
      unfold HoldDocuments at h
      rw [hrecords] at h
      cases h with
      | cons hline hmore =>
        obtain ⟨read, hread, hrest⟩ := ih hmore (number + 1)
        rw [hline, hrest]
        refine ⟨_ :: read, ?_, rfl⟩
        rw [List.map_cons, hread]

theorem readDocuments_bad {line : String} (h : IsBad line) (number : Nat) (rest : List String) :
    readDocuments number (line :: rest) = ([], some { number, line }) := by
  rw [readDocuments, h.1, h.2]
  rfl

/-- Of lines with a document each, all documents are read. -/
theorem readDocuments_of_all {lines : List String} {documents : List Object}
    (h : HoldDocuments lines documents) (number : Nat) :
    ∃ read, read.map (·.document) = documents ∧ readDocuments number lines = (read, none) := by
  obtain ⟨read, hread, happend⟩ := readDocuments_append h number []
  refine ⟨read, hread, ?_⟩
  rw [List.append_nil] at happend
  rw [happend, readDocuments, List.append_nil]

/-- In front of a bad line, all documents are read. -/
theorem readDocuments_of_bad {front rest : List String} {bad : String} {documents : List Object}
    (h : HoldDocuments front documents) (hbad : IsBad bad) (number : Nat) :
    ∃ read, read.map (·.document) = documents ∧ readDocuments number (front ++ bad :: rest) =
      (read, some { number := number + front.length, line := bad }) := by
  obtain ⟨read, hread, happend⟩ := readDocuments_append h number (bad :: rest)
  refine ⟨read, hread, ?_⟩
  rw [happend, readDocuments_bad hbad, List.append_nil]

/-- What is read has its place among the documents of all lines. -/
theorem readDocuments_isPrefix (number : Nat) (lines : List String) :
    (readDocuments number lines).1.map (·.document) <+:
      (recordLines lines).filterMap documentOfLine? := by
  induction lines generalizing number with
  | nil => exact List.prefix_refl _
  | cons line rest ih =>
    rw [readDocuments]
    by_cases hblank : (trimmed line).isEmpty
    · rw [if_pos hblank]
      simpa [recordLines, hblank] using ih (number + 1)
    · have hrecords : recordLines (line :: rest) = line :: recordLines rest := by
        simp [recordLines, hblank]
      rw [if_neg hblank, hrecords]
      cases hline : documentOfLine? line with
      | none => exact List.nil_prefix
      | some document =>
        rw [List.filterMap_cons_some hline]
        exact List.cons_prefix_cons.mpr ⟨rfl, ih (number + 1)⟩

/-! ### Batches -/

/-- Items cut into lists of a size, with fewer left at the end. -/
structure Cut (size : Nat) (items : List α) (full : List (List α)) (left : List α) : Prop where
  whole : ∀ list ∈ full, list.length = size
  few : left.length < size
  all : full.flatten ++ left = items

theorem Cut.map {size : Nat} {items left : List α} {full : List (List α)}
    (h : Cut size items full left) (f : α → β) :
    Cut size (items.map f) (full.map (·.map f)) (left.map f) where
  whole := by
    intro list hlist
    obtain ⟨original, horiginal, rfl⟩ := List.mem_map.mp hlist
    rw [List.length_map]
    exact h.whole original horiginal
  few := by
    rw [List.length_map]
    exact h.few
  all := by rw [← h.all, List.map_append, List.map_flatten]

theorem Cut.behind {size : Nat} {items left list : List α} {full : List (List α)}
    (h : Cut size items (list :: full) left) :
    ∃ rest, items = list ++ rest ∧ list.length = size ∧ Cut size rest full left := by
  refine ⟨full.flatten ++ left, ?_, h.whole list List.mem_cons_self, ?_, h.few, rfl⟩
  · rw [← h.all, List.flatten_cons, List.append_assoc]
  · intro other hother
    exact h.whole other (List.mem_cons_of_mem _ hother)

/-- There is one way to cut items. -/
theorem Cut.unique {size : Nat} {items left left' : List α} {full full' : List (List α)}
    (h : Cut size items full left) (h' : Cut size items full' left') :
    full = full' ∧ left = left' := by
  induction full generalizing items full' with
  | nil =>
    have hleft : left = items := h.all
    have hfew := h.few
    cases full' with
    | nil => exact ⟨rfl, hleft.trans h'.all.symm⟩
    | cons list rest =>
      obtain ⟨more, hmore, hlist, -⟩ := h'.behind
      rw [hleft, hmore, List.length_append] at hfew
      omega
  | cons list rest ih =>
    obtain ⟨more, hmore, hlist, hrest⟩ := h.behind
    cases full' with
    | nil =>
      have hfew := h'.few
      rw [show left' = items from h'.all, hmore, List.length_append] at hfew
      omega
    | cons list' rest' =>
      obtain ⟨more', hmore', hlist', hrest'⟩ := h'.behind
      have hsplit : list = list' ∧ more = more' :=
        List.append_inj (hmore.symm.trans hmore') (hlist.trans hlist'.symm)
      obtain ⟨rfl, rfl⟩ := hsplit
      obtain ⟨rfl, rfl⟩ := ih hrest hrest'
      exact ⟨rfl, rfl⟩

/-- The step of cutting: what is held back is always fewer than a full list. -/
theorem cut_go (size : Nat) (items held : List α) (hheld : held.length < max size 1) :
    ∃ full left, Cut (max size 1) (held ++ items) full left ∧
      batches.go size held items = full ++ leftOver left := by
  induction items generalizing held with
  | nil => exact ⟨[], held, ⟨by simp, hheld, by simp⟩, by rw [batches.go]; rfl⟩
  | cons item rest ih =>
    have hlength : (held ++ [item]).length = held.length + 1 := by simp
    rw [batches.go]
    by_cases hfull : max size 1 ≤ (held ++ [item]).length
    · obtain ⟨full, left, hcut, hgo⟩ := ih [] (by rw [List.length_nil]; omega)
      refine ⟨(held ++ [item]) :: full, left, ⟨?_, hcut.few, ?_⟩, ?_⟩
      · intro list hlist
        obtain rfl | hlist := List.mem_cons.mp hlist
        · omega
        · exact hcut.whole list hlist
      · have hall := hcut.all
        simp only [List.nil_append] at hall
        simp [hall]
      · rw [if_pos hfull, hgo]
        rfl
    · obtain ⟨full, left, hcut, hgo⟩ := ih (held ++ [item]) (by omega)
      refine ⟨full, left, ?_, ?_⟩
      · simpa using hcut
      · rw [if_neg hfull, hgo]

theorem cut_batches (size : Nat) (items : List α) : ∃ full left, Cut (max size 1) items full left ∧
    batches size items = full ++ leftOver left :=
  cut_go size items [] (by rw [List.length_nil]; omega)

theorem Cut.ne_nil {size : Nat} {items left list : List α} {full : List (List α)}
    (h : Cut size items full left) (hlist : list ∈ full ++ leftOver left) : list ≠ [] := by
  obtain hlist | hlist := List.mem_append.mp hlist
  · rintro rfl
    have hwhole := h.whole [] hlist
    have hfew := h.few
    rw [List.length_nil] at hwhole
    omega
  · exact ne_nil_of_mem_leftOver hlist

/-- Of the batches, the full ones are those that are not left over. -/
theorem Cut.filter_full {size : Nat} {items left : List α} {full : List (List α)}
    (h : Cut size items full left) :
    (full ++ leftOver left).filter (size ≤ ·.length) = full := by
  have hfull : full.filter (size ≤ ·.length) = full := by
    rw [List.filter_eq_self]
    intro list hlist
    simp [h.whole list hlist]
  have hleft : (leftOver left).filter (size ≤ ·.length) = [] := by
    rw [List.filter_eq_nil_iff]
    intro list hlist
    have hfew := h.few
    unfold leftOver at hlist
    split at hlist
    · cases hlist
    · rw [List.mem_singleton.mp hlist]
      simpa using hfew
  rw [List.filter_append, hfull, hleft, List.append_nil]

end SearchQuery
