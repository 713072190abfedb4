import Mathlib.Data.List.TakeWhile
import SearchQuery.Proofs.Toml.Strings
/-!
# Reading TOML line by line

A document whose keys are plain words and whose values are strings and whole numbers can be written
one statement a line. It is read as the value of its statements, whatever the strings are.
-/

namespace SearchQuery

namespace Toml

/-! ### Keys -/

/-- Characters that belong to a word are taken up to the first one that does not. -/
theorem takeWhile_word {isWord : Char → Bool} {word after : List Char}
    (hword : ∀ c ∈ word, isWord c = true) (hafter : ∀ c ∈ after.head?, isWord c = false) :
    (word ++ after).takeWhile isWord = word ∧ (word ++ after).dropWhile isWord = after := by
  rw [List.takeWhile_append_of_pos hword, List.dropWhile_append_of_pos hword]
  cases after with
  | nil => simp
  | cons c after => simp [hafter c rfl]

theorem isBareChar_ne {c : Char} (h : isBareChar c = true) :
    isSpace c = false ∧ c ≠ '"' ∧ c ≠ '\'' := by
  rw [isSpace_eq_false]
  refine ⟨⟨?_, ?_⟩, ?_, ?_⟩
  all_goals
    rintro rfl
    cases h

theorem skipSpace_cons {c : Char} (h : isSpace c = false) (rest : List Char) :
    skipSpace (c :: rest) = c :: rest := by
  simp [skipSpace, h]

/-- Whether a key is written as it is. -/
def IsBareKey (key : String) : Prop := key ≠ "" ∧ key.toList.all isBareChar = true

theorem IsBareKey.forall_mem {key : String} (h : IsBareKey key) :
    ∀ c ∈ key.toList, isBareChar c = true := List.all_eq_true.mp h.2

theorem IsBareKey.eq_cons {key : String} (h : IsBareKey key) :
    ∃ c others, key.toList = c :: others ∧ isBareChar c = true := by
  have hne : key.toList ≠ [] := by simpa using h.1
  obtain ⟨c, others, hcons⟩ := List.exists_cons_of_ne_nil hne
  exact ⟨c, others, hcons, h.forall_mem c (by simp [hcons])⟩

/-- A word of bare characters is a key, unless a point follows behind it. -/
theorem readPath_bare {key : String} (hkey : IsBareKey key) {after : List Char}
    (hafter : ∀ c ∈ after.head?, isBareChar c = false)
    (hpoint : (skipSpace after).head? ≠ some '.') :
    readPath (key.toList ++ after) = some ([key], skipSpace after) := by
  obtain ⟨htake, hdrop⟩ := takeWhile_word hkey.forall_mem hafter
  obtain ⟨c, others, hcons, hbare⟩ := hkey.eq_cons
  obtain ⟨hspace, hquote, hmark⟩ := isBareChar_ne hbare
  have hread : readKey (c :: others ++ after) = some (key, after) := by
    rw [← String.ofList_toList (s := key), hcons]
    rw [hcons] at htake hdrop
    rw [readKey]
    · rw [htake, hdrop]
      rfl
    · rintro rest ⟨⟩
      exact hquote rfl
    · rintro rest ⟨⟩
      exact hmark rfl
  have hparts : readParts (c :: others ++ after).length (c :: others ++ after) =
      some ([key], skipSpace after) := by
    rw [List.cons_append] at hread ⊢
    rw [List.length_cons, readParts, skipSpace_cons hspace, hread]
    dsimp only [Option.bind_eq_bind, Option.bind_some]
    split
    · next hafter => rw [hafter] at hpoint; exact absurd rfl hpoint
    · rfl
  rw [readPath, hcons, hparts]
  rfl

theorem readStatement_table {key : String} (hkey : IsBareKey key) (fuel : Nat) (rest : List Char) :
    readStatement fuel ('[' :: key.toList ++ ']' :: rest) = some (.table [key], rest) := by
  have hpath : readPath (key.toList ++ ']' :: rest) = some ([key], ']' :: rest) := by
    refine readPath_bare hkey ?_ ?_
    · rintro c ⟨⟩
      rfl
    · rw [skipSpace_cons rfl]
      simp
  obtain ⟨c, others, hcons, hbare⟩ := hkey.eq_cons
  rw [hcons] at hpath ⊢
  rw [List.cons_append, readStatement, hpath]
  · rfl
  · rintro _ ⟨⟩
    cases hbare

theorem readStatement_pair {key : String} (hkey : IsBareKey key) {text rest : List Char}
    {value : Json} {fuel : Nat} (hstart : ∀ c ∈ text.head?, isSpace c = false)
    (hvalue : readValue 0 fuel text = some (value, rest)) :
    readStatement fuel (key.toList ++ ' ' :: '=' :: ' ' :: text) =
      some (.pair [key] value, rest) := by
  have hpath : readPath (key.toList ++ ' ' :: '=' :: ' ' :: text) =
      some ([key], '=' :: ' ' :: text) := by
    refine readPath_bare hkey ?_ ?_
    · rintro c ⟨⟩
      rfl
    · simp [skipSpace, isSpace]
  have hskip : skipSpace (' ' :: text) = text := by
    rw [skipSpace, List.dropWhile_cons_of_pos rfl]
    cases text with
    | nil => rfl
    | cons c text => exact skipSpace_cons (hstart c rfl) text
  obtain ⟨c, others, hcons, hbare⟩ := hkey.eq_cons
  have hbracket : c ≠ '[' := by
    rintro rfl
    cases hbare
  rw [hcons, List.cons_append] at hpath ⊢
  rw [readStatement, hpath]
  · simp only [Option.bind_eq_bind, Option.bind_some, hskip, hvalue]
    rfl
  all_goals
    intros
    simp_all

/-! ### Values -/

theorem quoted_eq_cons (text : List Char) :
    ∃ c others, quoted text = c :: others ∧ (c = '"' ∨ c = '\'') := by
  unfold quoted
  cases StringForm.of text with
  | basic | longBasic => exact ⟨_, _, rfl, .inl rfl⟩
  | literal | longLiteral => exact ⟨_, _, rfl, .inr rfl⟩

theorem readValue_quoted (text : String) (fuel : Nat) {rest : List Char} (hrest : EndsString rest) :
    readValue 0 (fuel + 1) (quoted text.toList ++ rest) = some (.str text, rest) := by
  have hread := readString_quoted text.toList hrest
  obtain ⟨c, others, hcons, rfl | rfl⟩ := quoted_eq_cons text.toList
  all_goals
    rw [hcons, List.cons_append] at hread ⊢
    rw [readValue, hread]
    simp

theorem decimalValue_toDigits (n : Nat) : decimalValue (Nat.toDigits 10 n) = n := by
  have hfold := @Nat.ofDigitChars_eq_foldl 10 (Nat.toDigits 10 n) 0
  rw [Nat.ofDigitChars_ten_toDigits] at hfold
  exact hfold.symm

theorem head?_toDigits_ne {n : Nat} (h : n ≠ 0) : (Nat.toDigits 10 n).head? ≠ some '0' := by
  have hdigit : ∀ d < 10, d ≠ 0 → Nat.digitChar d ≠ '0' := by decide
  induction n using Nat.strongRecOn with
  | ind n ih =>
    by_cases hlt : n < 10
    · rw [Nat.toDigits_of_lt_base hlt]
      simpa using hdigit n hlt h
    · have hfront := ih (n / 10) (by omega) (by omega)
      rw [Nat.toDigits_of_base_le (by decide) (by omega)]
      cases hdigits : Nat.toDigits 10 (n / 10) with
      | nil => exact absurd hdigits Nat.toDigits_ne_nil
      | cons c others =>
        rw [hdigits] at hfront
        exact hfront

theorem isPlainWhole_toDigits (n : Nat) : isPlainWhole (Nat.toDigits 10 n) = true := by
  by_cases hzero : n = 0
  · rw [hzero]
    rfl
  · simp [isPlainWhole, head?_toDigits_ne hzero]

theorem digitGroups?_digits {digits : List Char} (hdigits : ∀ c ∈ digits, c.isDigit = true)
    (hne : digits ≠ []) : digitGroups? Char.isDigit digits = some digits := by
  have hgo : ∀ afterDigit : Bool, (digits = [] → afterDigit = true) →
      digitGroups?.go Char.isDigit afterDigit digits = some digits := by
    clear hne
    induction digits with
    | nil =>
      intro afterDigit h
      rw [digitGroups?.go, if_pos (h rfl)]
    | cons c others ih =>
      intro afterDigit _
      have hothers := ih (fun d hd => hdigits d (List.mem_cons_of_mem c hd)) true (fun _ => rfl)
      rw [digitGroups?.go, if_pos (hdigits c List.mem_cons_self), hothers]
      rfl
  exact hgo false fun h => absurd h hne

/-- Decimal digits without a zero in front are a whole number. -/
theorem number?_digits {digits : List Char} (hdigits : ∀ c ∈ digits, c.isDigit = true)
    (hne : digits ≠ []) (hplain : isPlainWhole digits = true) :
    number? digits = wholeNumber? (decimalValue digits) := by
  have hgroups := digitGroups?_digits hdigits hne
  have hword : ∀ c ∈ digits, (c.isDigit || c = '_') = true := by
    intro c hc
    rw [hdigits c hc, Bool.true_or]
  have htake : digits.takeWhile (fun c => c.isDigit || c = '_') = digits :=
    List.takeWhile_eq_self_iff.mpr hword
  have hdrop : digits.dropWhile (fun c => c.isDigit || c = '_') = [] :=
    List.dropWhile_eq_nil_iff.mpr hword
  have hsign : Numeral.signOf digits = (none, digits) := by
    rw [Numeral.signOf]
    all_goals
      rintro others rfl
      cases hdigits _ List.mem_cons_self
  have hinf : digits ≠ ['i', 'n', 'f'] := by
    rintro rfl
    cases hdigits _ List.mem_cons_self
  have hnan : digits ≠ ['n', 'a', 'n'] := by
    rintro rfl
    cases hdigits _ List.mem_cons_self
  -- The marks of another radix, `0x` and the like, have a letter in the second place.
  have hradix : ∀ c others, digits = '0' :: c :: others → c.isDigit = true := by
    rintro c others rfl
    exact hdigits c (List.mem_cons_of_mem _ List.mem_cons_self)
  rw [number?]
  · simp only [hsign, htake, hdrop, hgroups, hplain, if_neg hinf, if_neg hnan,
      Option.bind_eq_bind, Option.bind_some]
    simp
  all_goals
    intro others h
    cases hradix _ _ h

theorem number?_toDigits {n : Nat} (h : n < 2 ^ 63) :
    number? (Nat.toDigits 10 n) = some (.int n) := by
  rw [number?_digits (fun c hc => Nat.isDigit_of_mem_toDigits (by decide) (by decide) hc)
    Nat.toDigits_ne_nil (isPlainWhole_toDigits n), decimalValue_toDigits, wholeNumber?, if_pos]
  omega

/-- Digits are no date and no time, which have marks between their digits. -/
theorem dateRest?_digits {digits : List Char} (hdigits : ∀ c ∈ digits, c.isDigit = true) :
    dateRest? digits = none := by
  have hmark : ∀ rest, digits.drop 4 ≠ '-' :: rest := by
    intro rest heq
    have hmem : '-' ∈ digits.drop 4 := by
      rw [heq]
      exact List.mem_cons_self
    cases hdigits _ (List.mem_of_mem_drop hmem)
  unfold dateRest?
  dsimp only
  split
  · rfl
  · split
    · next heq => exact absurd heq (hmark _)
    · rfl

theorem timeRest?_digits {digits : List Char} (hdigits : ∀ c ∈ digits, c.isDigit = true) :
    timeRest? digits = none := by
  match digits with
  | [] | [_] => rfl
  | a :: b :: others =>
    have hmark : ∀ rest, others ≠ ':' :: rest := by
      rintro rest rfl
      cases hdigits ':' (by simp)
    unfold timeRest?
    rw [twoDigits?, if_pos ⟨hdigits a (by simp), hdigits b (by simp)⟩]
    simp

theorem readWord_toDigits {n : Nat} (h : n < 2 ^ 63) {rest : List Char}
    (hrest : ∀ c ∈ rest.head?, isWordChar c = false) :
    readWord (Nat.toDigits 10 n ++ rest) = some (.int n, rest) := by
  have hdigits : ∀ c ∈ Nat.toDigits 10 n, c.isDigit = true := fun c hc =>
    Nat.isDigit_of_mem_toDigits (by decide) (by decide) hc
  have hword : ∀ c ∈ Nat.toDigits 10 n, isWordChar c = true := by
    intro c hc
    simp [isWordChar, isBareChar, Char.isAlphanum, hdigits c hc]
  obtain ⟨htake, hdrop⟩ := takeWhile_word hword hrest
  have hdatetime : isDatetime (Nat.toDigits 10 n) = false := by
    rw [isDatetime, dateRest?_digits hdigits, timeRest?_digits hdigits]
  unfold readWord
  simp only [htake, hdrop, dateRest?_digits hdigits, Option.getD_none]
  have hlatin : ∀ text : String, (∃ c ∈ text.toList, c.isDigit = false) →
      String.ofList (Nat.toDigits 10 n) ≠ text := by
    rintro text ⟨c, hc, hletter⟩ rfl
    rw [String.toList_ofList] at hc
    rw [hdigits c hc] at hletter
    cases hletter
  split
  · next heq => exact absurd heq (hlatin "true" ⟨'t', by decide, rfl⟩)
  · next heq => exact absurd heq (hlatin "false" ⟨'f', by decide, rfl⟩)
  · rw [hdatetime, if_neg Bool.false_ne_true, number?_toDigits h]
    rfl

theorem readValue_toDigits {n : Nat} (h : n < 2 ^ 63) (fuel : Nat) {rest : List Char}
    (hrest : ∀ c ∈ rest.head?, isWordChar c = false) :
    readValue 0 (fuel + 1) (Nat.toDigits 10 n ++ rest) = some (.int n, rest) := by
  have hread := readWord_toDigits h hrest
  have hdigits : ∀ c ∈ Nat.toDigits 10 n, c.isDigit = true := fun c hc =>
    Nat.isDigit_of_mem_toDigits (by decide) (by decide) hc
  obtain ⟨c, others, hcons⟩ := List.exists_cons_of_ne_nil (@Nat.toDigits_ne_nil n 10)
  have hfirst : c.isDigit = true := hdigits c (by simp [hcons])
  rw [hcons, List.cons_append] at hread ⊢
  rw [readValue, hread]
  all_goals
    intros
    simp_all

/-! ### Lines -/

/-- A value that is written on the line of its key. -/
inductive Scalar where
  | text (value : String)
  | whole (value : Nat)

def Scalar.written : Scalar → List Char
  | .text value => quoted value.toList
  | .whole value => Nat.toDigits 10 value

def Scalar.value : Scalar → Json
  | .text value => .str value
  | .whole value => .int value

/-- Whether a value is one that a document can have. -/
def Scalar.Fits : Scalar → Prop
  | .text _ => True
  | .whole value => value < 2 ^ 63

/-- A line of a document. -/
inductive Line where
  | blank
  | table (key : String)
  | pair (key : String) (scalar : Scalar)

def Line.written : Line → List Char
  | .blank => ['\n']
  | .table key => '[' :: key.toList ++ [']', '\n']
  | .pair key scalar => key.toList ++ [' ', '=', ' '] ++ scalar.written ++ ['\n']

/-- The statements of a line, at most one. -/
def Line.statements : Line → List Statement
  | .blank => []
  | .table key => [.table [key]]
  | .pair key scalar => [.pair [key] scalar.value]

/-- Whether a line is one that can be read. -/
def Line.Fits : Line → Prop
  | .blank => True
  | .table key => IsBareKey key
  | .pair key scalar => IsBareKey key ∧ scalar.Fits

theorem readValue_written {scalar : Scalar} (h : scalar.Fits) (fuel : Nat) (rest : List Char) :
    readValue 0 (fuel + 1) (scalar.written ++ '\n' :: rest) =
      some (scalar.value, '\n' :: rest) := by
  cases scalar with
  | text value =>
    refine readValue_quoted value fuel ?_
    rintro c ⟨⟩
    exact ⟨by decide, by decide⟩
  | whole value =>
    refine readValue_toDigits h fuel ?_
    rintro c ⟨⟩
    rfl

theorem Scalar.isSpace_head (scalar : Scalar) (rest : List Char) :
    ∀ c ∈ (scalar.written ++ rest).head?, isSpace c = false := by
  cases scalar with
  | text value =>
    obtain ⟨c, others, hcons, hc⟩ := quoted_eq_cons value.toList
    rw [written, hcons]
    rintro _ ⟨⟩
    obtain rfl | rfl := hc <;> rfl
  | whole value =>
    obtain ⟨c, others, hcons⟩ := List.exists_cons_of_ne_nil (@Nat.toDigits_ne_nil value 10)
    rw [written, hcons]
    rintro _ ⟨⟩
    refine (isBareChar_ne ?_).1
    have hdigit := Nat.isDigit_of_mem_toDigits (by decide) (by decide)
      (hcons ▸ List.mem_cons_self : c ∈ Nat.toDigits 10 value)
    simp [isBareChar, Char.isAlphanum, hdigit]

/-- A statement is read from its first character on. -/
theorem skipFiller_cons {c : Char} (h : c = '[' ∨ isBareChar c = true) (rest : List Char) :
    skipFiller false (c :: rest) = some (c :: rest) := by
  have hspace : isSpace c = false := by
    obtain rfl | h := h
    · rfl
    · exact (isBareChar_ne h).1
  have hnone : c ≠ '\n' ∧ c ≠ '\r' ∧ c ≠ '#' := by
    refine ⟨?_, ?_, ?_⟩
    all_goals
      rintro rfl
      obtain h | h := h <;> cases h
  rw [skipFiller]
  · simp [hspace, hnone.2.2]
  all_goals
    intros
    simp_all

theorem readStatements_statement {c : Char} {text rest : List Char} {statement : Statement}
    (hc : c = '[' ∨ isBareChar c = true)
    (h : ∀ fuel, readStatement (fuel + 1) (c :: text) = some (statement, '\n' :: rest))
    (fuel : Nat) :
    readStatements (fuel + 1) (c :: text) = (readStatements fuel rest).map (statement :: ·) := by
  have hend : endLine ('\n' :: rest) = some rest := rfl
  rw [readStatements, skipFiller_cons hc]
  simp only [Option.bind_eq_bind, Option.bind_some, h, hend]
  cases readStatements fuel rest with
  | none => rfl
  | some statements => rfl

/-- The lines of a document are read one by one. -/
theorem readStatements_lines {lines : List Line} (hlines : ∀ line ∈ lines, line.Fits) {fuel : Nat}
    (hfuel : lines.length < fuel) :
    readStatements fuel (lines.flatMap Line.written) = some (lines.flatMap Line.statements) := by
  -- A statement takes one step of the fuel and an empty line none.
  induction lines generalizing fuel with
  | nil =>
    obtain ⟨fuel, rfl⟩ := Nat.exists_eq_add_of_lt hfuel
    rfl
  | cons line lines ih =>
    have hothers {fuel : Nat} (h : lines.length < fuel) :=
      ih (fun other h => hlines other (List.mem_cons_of_mem line h)) h
    have hline := hlines line List.mem_cons_self
    obtain ⟨fuel, rfl⟩ : ∃ less, fuel = less + 1 := ⟨fuel - 1, by omega⟩
    have hless : lines.length < fuel := Nat.lt_of_succ_lt_succ hfuel
    rw [List.flatMap_cons, List.flatMap_cons]
    cases line with
    | blank => exact hothers (Nat.lt_succ_of_lt hless)
    | table key =>
      have hread (fuel : Nat) := readStatement_table hline (fuel + 1)
        ('\n' :: lines.flatMap Line.written)
      have hstatement := readStatements_statement (.inl rfl) hread fuel
      rw [hothers hless] at hstatement
      simpa [Line.written, Line.statements] using hstatement
    | pair key scalar =>
      obtain ⟨hkey, hfits⟩ := hline
      obtain ⟨c, others, hcons, hc⟩ := hkey.eq_cons
      have hread (fuel : Nat) := readStatement_pair hkey (scalar.isSpace_head _)
        (readValue_written hfits fuel (lines.flatMap Line.written))
      rw [hcons, List.cons_append] at hread
      have hstatement := readStatements_statement (.inr hc) hread fuel
      rw [hothers hless] at hstatement
      simpa [Line.written, Line.statements, hcons] using hstatement

theorem Line.written_eq_cons {line : Line} (h : line.Fits) :
    ∃ c others, line.written = c :: others ∧ c ≠ '\ufeff' := by
  cases line with
  | blank => exact ⟨_, _, rfl, by decide⟩
  | table key => exact ⟨_, _, rfl, by decide⟩
  | pair key scalar =>
    obtain ⟨c, others, hcons, hc⟩ := h.1.eq_cons
    refine ⟨c, others ++ [' ', '=', ' '] ++ scalar.written ++ ['\n'], ?_, ?_⟩
    · rw [written, hcons]
      rfl
    · rintro rfl
      cases hc

theorem parse_of_ne {text : String} (h : ∀ rest, text.toList ≠ '\ufeff' :: rest) :
    parse text = (readStatements (text.toList.length + 1) text.toList).bind documentValue := by
  unfold parse
  split
  · next heq => exact absurd heq (h _)
  · rfl

/-- A document that is written line by line is read as the value of its statements. -/
theorem parse_lines {lines : List Line} (hlines : ∀ line ∈ lines, line.Fits) :
    parse (String.ofList (lines.flatMap Line.written)) =
      documentValue (lines.flatMap Line.statements) := by
  have hlength : lines.length ≤ (lines.flatMap Line.written).length := by
    induction lines with
    | nil => exact Nat.le_refl 0
    | cons line lines ih =>
      obtain ⟨c, others, hcons, -⟩ := Line.written_eq_cons (hlines line List.mem_cons_self)
      have hless := ih fun other h => hlines other (List.mem_cons_of_mem line h)
      rw [List.flatMap_cons, hcons, List.length_append, List.length_cons, List.length_cons]
      omega
  have hread := readStatements_lines hlines (Nat.lt_succ_of_le hlength)
  have hmark : ∀ rest, lines.flatMap Line.written ≠ '\ufeff' :: rest := by
    cases lines with
    | nil => simp
    | cons line lines =>
      obtain ⟨c, others, hcons, hc⟩ := Line.written_eq_cons (hlines line List.mem_cons_self)
      rw [List.flatMap_cons, hcons]
      rintro rest ⟨⟩
      exact hc rfl
  rw [parse_of_ne (by rwa [String.toList_ofList]), String.toList_ofList, hread]
  rfl

end Toml

end SearchQuery
