import SearchQuery.Toml.Parser
import SearchQuery.Toml.Printer
/-!
# Written strings

A string that was written is read back, whatever stands behind it, as long as that is no further
quote. In each of the four forms the text is read character by character; in the forms on several
lines the quotes of the text are kept apart from the ones that close it.
-/

namespace SearchQuery

namespace Toml

/-- What stands behind a string does not go on with a quote. -/
def EndsString (rest : List Char) : Prop := ∀ c ∈ rest.head?, c ≠ '"' ∧ c ≠ '\''

theorem isSpace_eq_false {c : Char} : isSpace c = false ↔ c ≠ ' ' ∧ c ≠ '\t' := by
  simp [isSpace]

/-- No line end is a character of a text. -/
theorem isTextChar_ne {c : Char} (h : isTextChar c = true) : c ≠ '\n' ∧ c ≠ '\r' := by
  constructor
  all_goals
    rintro rfl
    cases h

theorem isTextChar_of_not_isControl {c : Char} (h : isControl c = false) :
    isTextChar c = true := by
  simp only [isControl, Bool.or_eq_false_iff, decide_eq_false_iff_not, Nat.not_lt] at h
  simp [isTextChar, h.1, h.2]

/-! ### Escapes -/

/-- How a character may be written between double quotes. -/
inductive Escaped (c : Char) : List Char → Prop where
  | letter {letter : Char} (h : escapedChar? letter = some c) : Escaped c ['\\', letter]
  | number {high low : Char} (h : unicodeChar? ['0', '0', high, low] = some c) :
    Escaped c ['\\', 'u', '0', '0', high, low]
  | plain (hquote : c ≠ '"') (hslash : c ≠ '\\') (htext : isTextChar c = true) : Escaped c [c]

theorem Escaped.eq_cons {c : Char} {text : List Char} (h : Escaped c text) :
    ∃ d others, text = d :: others ∧ d ≠ '"' ∧ d ≠ '\n' ∧ d ≠ '\r' := by
  cases h with
  | letter => exact ⟨'\\', _, rfl, by decide, by decide, by decide⟩
  | number => exact ⟨'\\', _, rfl, by decide, by decide, by decide⟩
  | plain hquote _ htext => exact ⟨c, [], rfl, hquote, isTextChar_ne htext⟩

theorem unicodeChar?_upperDigits : ∀ n : Fin 128,
    unicodeChar? ['0', '0', upperDigit (n.val / 16), upperDigit (n.val % 16)] =
      some (Char.ofNat n.val) := by
  decide

theorem escaped_escape (c : Char) : Escaped c (escape c) := by
  by_cases hletter : c ∈ ['\x08', '\t', '\n', '\x0c', '\r', '"', '\\']
  · simp only [List.mem_cons, List.not_mem_nil, or_false] at hletter
    obtain rfl | rfl | rfl | rfl | rfl | rfl | rfl := hletter <;> exact .letter rfl
  · simp only [List.mem_cons, List.not_mem_nil, or_false, not_or] at hletter
    simp only [escape, hletter, if_false]
    split
    · next hcontrol =>
      have hlt : c.toNat < 128 := by
        simp only [isControl, Bool.or_eq_true, decide_eq_true_eq] at hcontrol
        omega
      have hdigits := unicodeChar?_upperDigits ⟨c.toNat, hlt⟩
      rw [Char.ofNat_toNat] at hdigits
      exact .number hdigits
    · next hcontrol =>
      exact .plain hletter.2.2.2.2.2.1 hletter.2.2.2.2.2.2
        (isTextChar_of_not_isControl (by simpa using hcontrol))

/-- A letter of an escape is none that stands for something else behind a backslash. -/
theorem escapedChar?_ne {letter c : Char} (h : escapedChar? letter = some c) :
    letter ≠ 'u' ∧ letter ≠ 'U' ∧ isSpace letter = false ∧ letter ≠ '\n' ∧ letter ≠ '\r' := by
  rw [isSpace_eq_false]
  refine ⟨?_, ?_, ⟨?_, ?_⟩, ?_, ?_⟩
  all_goals
    rintro rfl
    cases h

theorem basicText_escaped {c : Char} {text : List Char} (h : Escaped c text) (rest : List Char) :
    basicText (text ++ rest) = addFront (some c) (basicText rest) := by
  cases h with
  | letter h =>
    obtain ⟨hu, hU, -⟩ := escapedChar?_ne h
    rw [List.cons_append, List.singleton_append, basicText, h]
    · exact fun _ _ _ _ _ hletter _ => hu hletter
    · exact fun _ _ _ _ _ _ _ _ _ hletter _ => hU hletter
  | number h =>
    simp only [List.cons_append, List.nil_append]
    rw [basicText, h]
  | plain hquote hslash htext =>
    rw [List.singleton_append, basicText, if_pos htext]
    all_goals
      intros
      simp_all

theorem longBasicText_escaped {c : Char} {text : List Char} (h : Escaped c text)
    (rest : List Char) :
    longBasicText false (text ++ rest) = addFront (some c) (longBasicText false rest) := by
  cases h with
  | letter h =>
    obtain ⟨hu, hU, hspace, hfeed, hreturn⟩ := escapedChar?_ne h
    rw [List.cons_append, List.singleton_append, longBasicText, if_neg (by simp_all), h]
    · exact fun _ _ _ _ _ hletter _ => hu hletter
    · exact fun _ _ _ _ _ _ _ _ _ hletter _ => hU hletter
  | number h =>
    simp only [List.cons_append, List.nil_append]
    rw [longBasicText, h]
  | plain hquote hslash htext =>
    obtain ⟨hfeed, hreturn⟩ := isTextChar_ne htext
    rw [List.singleton_append, longBasicText, if_neg (by simp), if_pos htext]
    all_goals
      intros
      simp_all

theorem basicText_escape (text rest : List Char) :
    basicText (text.flatMap escape ++ '"' :: rest) = some (text, rest) := by
  induction text with
  | nil => rfl
  | cons c text ih =>
    rw [List.flatMap_cons, List.append_assoc, basicText_escaped (escaped_escape c), ih]
    rfl

/-! ### Strings on several lines -/

/-- How a reader of a long string treats its mark: three in a row close the string, up to two in
front of them are part of the text, and so is one that is not followed by two more. -/
structure ReadsMarks (mark : Char) (read : List Char → Option (List Char × List Char)) : Prop where
  closed : ∀ count ≤ 2, ∀ rest : List Char, rest.head? ≠ some mark →
    read (List.replicate (count + 3) mark ++ rest) = some (List.replicate count mark, rest)
  inside : ∀ rest : List Char, (∀ others, rest ≠ mark :: mark :: others) →
    read (mark :: rest) = addFront (some mark) (read rest)

theorem readsMarks_longBasicText : ReadsMarks '"' (longBasicText false) where
  closed count hcount rest hrest := by
    obtain rfl | rfl | rfl : count = 0 ∨ count = 1 ∨ count = 2 := by omega
    all_goals
      simp only [List.replicate, List.cons_append, List.nil_append]
      rw [longBasicText]
      all_goals
        intros
        simp_all
  inside rest hrest := by
    rw [longBasicText, if_neg (by simp), if_pos (by decide)]
    all_goals
      intros
      simp_all

theorem readsMarks_longLiteralText : ReadsMarks '\'' longLiteralText where
  closed count hcount rest hrest := by
    obtain rfl | rfl | rfl : count = 0 ∨ count = 1 ∨ count = 2 := by omega
    all_goals
      simp only [List.replicate, List.cons_append, List.nil_append]
      rw [longLiteralText]
      all_goals
        intros
        simp_all
  inside rest hrest := by
    rw [longLiteralText, if_pos (by decide)]
    all_goals
      intros
      simp_all

/-- A mark in front of what is read as a text is read as the first character of the text, unless
two more stand behind it. -/
theorem ReadsMarks.cons {mark : Char} {read : List Char → Option (List Char × List Char)}
    (hread : ReadsMarks mark read) {written text rest : List Char}
    (hrest : rest.head? ≠ some mark) (hwritten : ∀ others, written ≠ mark :: mark :: others)
    (h : read (written ++ List.replicate 3 mark ++ rest) = some (text, rest)) :
    read (mark :: written ++ List.replicate 3 mark ++ rest) = some (mark :: text, rest) := by
  match written, hwritten with
  | [], _ =>
    have hnone := hread.closed 0 (by decide) rest hrest
    have hone := hread.closed 1 (by decide) rest hrest
    rw [List.nil_append, hnone] at h
    cases h
    exact hone
  | [c], _ =>
    by_cases hc : c = mark
    · subst hc
      have hone := hread.closed 1 (by decide) rest hrest
      have htwo := hread.closed 2 (by decide) rest hrest
      rw [show [c] ++ List.replicate 3 c = List.replicate (1 + 3) c from rfl, hone] at h
      cases h
      exact htwo
    · have hfirst := hread.inside ([c] ++ List.replicate 3 mark ++ rest) (by simp [hc])
      rw [h] at hfirst
      exact hfirst
  | c :: d :: others, hwritten =>
    have hfirst := hread.inside (c :: d :: others ++ List.replicate 3 mark ++ rest) (by
      rintro _ ⟨⟩
      exact hwritten others rfl)
    rw [h] at hfirst
    exact hfirst

/-- A text in which no quote may stand first without an escape does not start with one. -/
theorem head?_escapeLong_ne {run : Nat} {c : Char} (h : ¬ (c = '"' ∧ run < 2)) (text : List Char) :
    (escapeLong run (c :: text)).head? ≠ some '"' := by
  rw [escapeLong, if_neg h]
  split
  · next hfeed => simp [hfeed]
  · obtain ⟨d, others, hescape, hquote, -⟩ := (escaped_escape c).eq_cons
    simpa [hescape] using hquote

/-- Behind a quote without an escape at most one more stands without an escape. -/
theorem escapeLong_ne {run : Nat} (hrun : 1 ≤ run) (text others : List Char) :
    escapeLong run text ≠ '"' :: '"' :: others := by
  intro hquotes
  match text with
  | [] => cases hquotes
  | c :: text =>
    by_cases hfirst : c = '"' ∧ run < 2
    · rw [escapeLong, if_pos hfirst] at hquotes
      have hsecond := (List.cons.inj hquotes).2
      match text with
      | [] => cases hsecond
      | d :: text =>
        have hhead := @head?_escapeLong_ne (run + 1) d (by omega) text
        rw [hsecond] at hhead
        exact hhead rfl
    · have hhead := head?_escapeLong_ne hfirst text
      rw [hquotes] at hhead
      exact hhead rfl

theorem longBasicText_escapeLong (run : Nat) (text : List Char) {rest : List Char}
    (hrest : rest.head? ≠ some '"') :
    longBasicText false (escapeLong run text ++ List.replicate 3 '"' ++ rest) =
      some (text, rest) := by
  induction text generalizing run with
  | nil => exact readsMarks_longBasicText.closed 0 (by decide) rest hrest
  | cons c text ih =>
    rw [escapeLong]
    split
    · next hquote =>
      rw [hquote.1]
      exact readsMarks_longBasicText.cons hrest (escapeLong_ne (by omega) text) (ih _)
    · split
      · next hfeed =>
        rw [hfeed, List.cons_append, List.cons_append, longBasicText, if_neg (by simp), ih]
        rfl
      · rw [List.append_assoc, List.append_assoc, longBasicText_escaped (escaped_escape c),
          ← List.append_assoc, ih]
        rfl

theorem le_longestRun (mark : Char) (run : Nat) (text : List Char) :
    run ≤ longestRun mark run text := by
  induction text generalizing run with
  | nil => exact Nat.le_refl run
  | cons c text ih =>
    rw [longestRun]
    split
    · exact Nat.le_of_succ_le (ih (run + 1))
    · exact Nat.le_max_left _ _

theorem ne_of_longestRun {mark : Char} {run : Nat} {text others : List Char}
    (h : longestRun mark (run + 1) text ≤ 2) : text ≠ mark :: mark :: others := by
  rintro rfl
  have hrun := le_longestRun mark (run + 1 + 1 + 1) others
  rw [longestRun, if_pos rfl, longestRun, if_pos rfl] at h
  omega

theorem longLiteralText_append {run : Nat} {text : List Char}
    (htext : ∀ c ∈ text, isTextChar c = true ∨ c = '\n') (hrun : longestRun '\'' run text ≤ 2)
    {rest : List Char} (hrest : rest.head? ≠ some '\'') :
    longLiteralText (text ++ List.replicate 3 '\'' ++ rest) = some (text, rest) := by
  induction text generalizing run with
  | nil => exact readsMarks_longLiteralText.closed 0 (by decide) rest hrest
  | cons c text ih =>
    have hothers := fun d hd => htext d (List.mem_cons_of_mem c hd)
    rw [longestRun] at hrun
    split at hrun
    · next hmark =>
      rw [hmark]
      exact readsMarks_longLiteralText.cons hrest (fun _ => ne_of_longestRun hrun) (ih hothers hrun)
    · next hmark =>
      have hread := ih hothers (Nat.le_trans (Nat.le_max_right _ _) hrun)
      rw [List.cons_append, List.cons_append]
      obtain hchar | rfl := htext c List.mem_cons_self
      · obtain ⟨hfeed, hreturn⟩ := isTextChar_ne hchar
        rw [longLiteralText, if_pos hchar, hread]
        · rfl
        all_goals
          intros
          simp_all
      · rw [longLiteralText, hread]
        rfl

theorem literalText_append {text : List Char} (htext : ∀ c ∈ text, isTextChar c = true)
    (hmark : '\'' ∉ text) (rest : List Char) :
    literalText (text ++ '\'' :: rest) = some (text, rest) := by
  induction text with
  | nil => rfl
  | cons c text ih =>
    rw [List.mem_cons, not_or] at hmark
    have hread := ih (fun d hd => htext d (List.mem_cons_of_mem c hd)) hmark.2
    rw [List.cons_append, literalText, if_pos (htext c List.mem_cons_self), hread]
    · rfl
    · exact Ne.symm hmark.1

/-! ### Any string -/

/-- A line end that is put in front of a text with line ends is the one that is dropped. -/
theorem dropLineEnd_lineStart {text written : List Char}
    (h : '\n' ∉ text → ∀ c ∈ written.head?, c ≠ '\n' ∧ c ≠ '\r') :
    dropLineEnd (lineStart text ++ written) = written := by
  by_cases hfeed : '\n' ∈ text
  · rw [lineStart, if_pos (by simpa using hfeed)]
    rfl
  · rw [lineStart, if_neg (by simpa using hfeed), List.nil_append]
    cases written with
    | nil => rfl
    | cons c written =>
      obtain ⟨hfirst, hreturn⟩ := h hfeed c rfl
      rw [dropLineEnd]
      all_goals
        intros
        simp_all

/-- A string that is written without escapes has a text that its form can hold. -/
theorem StringForm.holds_of (text : List Char) :
    (StringForm.of text = .literal → '\'' ∉ text ∧ '\n' ∉ text) ∧
    (StringForm.of text = .longLiteral → longestRun '\'' 0 text ≤ 2) ∧
    (StringForm.of text = .literal ∨ StringForm.of text = .longLiteral →
      ∀ c ∈ text, isTextChar c = true ∨ c = '\n') := by
  unfold StringForm.of
  dsimp only
  split
  · split <;> simp
  · next hplain =>
    refine ⟨?_, ?_, fun _ c hc => ?_⟩
    · repeat' split
      all_goals simp_all
    · repeat' split
      all_goals simp_all
    · by_cases hcontrol : isControl c = true
      · have hkept : c = '\t' ∨ c = '\n' := by
          simp only [List.any_eq_true, not_exists, not_and] at hplain
          simpa [hcontrol, Decidable.or_iff_not_imp_left] using hplain c hc
        obtain rfl | rfl := hkept
        · exact .inl rfl
        · exact .inr rfl
      · exact .inl (isTextChar_of_not_isControl (by simpa using hcontrol))

section Forms

variable (text : List Char) {rest : List Char} (hrest : EndsString rest)

include hrest

theorem readString_basic :
    readString ('"' :: text.flatMap escape ++ ['"'] ++ rest) = some (text, rest) := by
  have hquote : rest.head? ≠ some '"' := fun h => (hrest _ h).1 rfl
  rw [List.append_assoc, List.cons_append, List.singleton_append, readString]
  · exact basicText_escape text rest
  · intro others hbody
    cases text with
    | nil => simp_all
    | cons c text =>
      obtain ⟨d, _, hescape, hd, -⟩ := (escaped_escape c).eq_cons
      simp_all

theorem readString_literal (hform : StringForm.of text = .literal) :
    readString ('\'' :: text ++ ['\''] ++ rest) = some (text, rest) := by
  have hmark : rest.head? ≠ some '\'' := fun h => (hrest _ h).2 rfl
  obtain ⟨hliteral, -, hchars⟩ := StringForm.holds_of text
  obtain ⟨hnone, hfeed⟩ := hliteral hform
  have hplain : ∀ c ∈ text, isTextChar c = true := by
    intro c hc
    refine (hchars (.inl hform) c hc).resolve_right ?_
    rintro rfl
    exact hfeed hc
  rw [List.append_assoc, List.cons_append, List.singleton_append, readString]
  · exact literalText_append hplain hnone rest
  · intro others hbody
    cases text with
    | nil => simp_all
    | cons c text => simp_all

theorem readString_longBasic :
    readString (['"', '"', '"'] ++ lineStart text ++ escapeLong 0 text ++ ['"', '"', '"'] ++ rest) =
      some (text, rest) := by
  have hquote : rest.head? ≠ some '"' := fun h => (hrest _ h).1 rfl
  have hread := longBasicText_escapeLong 0 text hquote
  have hstart : dropLineEnd (lineStart text ++ (escapeLong 0 text ++ List.replicate 3 '"' ++ rest))
      = escapeLong 0 text ++ List.replicate 3 '"' ++ rest := by
    apply dropLineEnd_lineStart
    intro hfeed c hc
    cases text with
    | nil =>
      cases hc
      exact ⟨by decide, by decide⟩
    | cons d text =>
      have hne : d ≠ '\n' := fun h => hfeed (h ▸ List.mem_cons_self)
      by_cases hd : d = '"'
      · subst hd
        cases hc
        exact ⟨by decide, by decide⟩
      · obtain ⟨e, others, hescape, -, he⟩ := (escaped_escape d).eq_cons
        rw [escapeLong, if_neg (fun h => hd h.1), if_neg hne, hescape] at hc
        cases hc
        exact he
  rw [← hstart] at hread
  simp only [List.replicate, List.append_assoc, List.cons_append, List.nil_append] at hread ⊢
  exact hread

theorem readString_longLiteral (hform : StringForm.of text = .longLiteral) :
    readString (['\'', '\'', '\''] ++ lineStart text ++ text ++ ['\'', '\'', '\''] ++ rest) =
      some (text, rest) := by
  have hmark : rest.head? ≠ some '\'' := fun h => (hrest _ h).2 rfl
  obtain ⟨-, hlong, hchars⟩ := StringForm.holds_of text
  have hread := longLiteralText_append (hchars (.inr hform)) (hlong hform) hmark
  have hstart : dropLineEnd (lineStart text ++ (text ++ List.replicate 3 '\'' ++ rest))
      = text ++ List.replicate 3 '\'' ++ rest := by
    apply dropLineEnd_lineStart
    intro hfeed c hc
    cases text with
    | nil =>
      cases hc
      exact ⟨by decide, by decide⟩
    | cons d text =>
      cases hc
      obtain hchar | rfl := hchars (.inr hform) c List.mem_cons_self
      · exact isTextChar_ne hchar
      · exact absurd List.mem_cons_self hfeed
  rw [← hstart] at hread
  simp only [List.replicate, List.append_assoc, List.cons_append, List.nil_append] at hread ⊢
  exact hread

/-- A string that was written is read back. -/
theorem readString_quoted : readString (quoted text ++ rest) = some (text, rest) := by
  unfold quoted
  cases hform : StringForm.of text with
  | basic => exact readString_basic text hrest
  | literal => exact readString_literal text hrest hform
  | longBasic => exact readString_longBasic text hrest
  | longLiteral => exact readString_longLiteral text hrest hform

end Forms

end Toml

end SearchQuery
