import SearchQuery.Time.Timestamp
/-!
# Written timestamps

The written form of a timestamp is one that is read, and what is read from it is the timestamp. A
number is read up to the first character that is no digit, so each part of the form is read back by
itself, whatever stands behind it.
-/

namespace SearchQuery

theorem isBlank_of_isDigit {c : Char} (h : c.isDigit = true) : isBlank c = false := by
  simp only [Char.isDigit, ge_iff_le, Bool.and_eq_true, decide_eq_true_eq, UInt32.le_iff_toNat_le]
    at h
  change 48 ≤ c.toNat ∧ c.toNat ≤ 57 at h
  simp only [isBlank, blankRanges, List.any_cons, List.any_nil, Bool.or_false, Bool.or_eq_false_iff,
    Bool.and_eq_false_iff, decide_eq_false_iff_not, Nat.not_le]
  omega

theorem trimStart_cons {c : Char} (rest : List Char) (h : isBlank c = false) :
    trimStart (c :: rest) = c :: rest := by
  simp [trimStart, h]

theorem toList_zeroPadded (width n : Nat) :
    (zeroPadded width n).toList =
      List.replicate (width - (Nat.toDigits 10 n).length) '0' ++ Nat.toDigits 10 n := by
  rw [zeroPadded, String.toList_ofList]

theorem isDigit_of_mem_zeroPadded {width n : Nat} {c : Char}
    (h : c ∈ (zeroPadded width n).toList) : c.isDigit = true := by
  rw [toList_zeroPadded, List.mem_append, List.mem_replicate] at h
  rcases h with ⟨-, rfl⟩ | h
  · rfl
  · exact Nat.isDigit_of_mem_toDigits (by decide) (by decide) h

theorem zeroPadded_ne_nil (width n : Nat) : (zeroPadded width n).toList ≠ [] := by
  simp [toList_zeroPadded]

/-- A number has a first digit. -/
theorem zeroPadded_eq_cons (width n : Nat) :
    ∃ c digits, (zeroPadded width n).toList = c :: digits ∧ c.isDigit = true := by
  obtain ⟨c, digits, hdigits⟩ := List.exists_cons_of_ne_nil (zeroPadded_ne_nil width n)
  have hmem : c ∈ (zeroPadded width n).toList := by
    rw [hdigits]
    exact List.mem_cons_self
  exact ⟨c, digits, hdigits, isDigit_of_mem_zeroPadded hmem⟩

theorem length_zeroPadded {width n : Nat} (hwidth : 0 < width) (h : n < 10 ^ width) :
    (zeroPadded width n).toList.length = width := by
  have hdigits : (Nat.toDigits 10 n).length ≤ width :=
    (Nat.length_toDigits_le_iff (by decide) hwidth).mpr h
  rw [toList_zeroPadded, List.length_append, List.length_replicate]
  omega

/-- What stands behind a number does not go on with a digit. -/
def EndsNumber (rest : List Char) : Prop := ∀ c ∈ rest.head?, c.isDigit = false

theorem endsNumber_cons {c : Char} {rest : List Char} (h : c.isDigit = false) :
    EndsNumber (c :: rest) := by
  rintro _ ⟨⟩
  exact h

theorem zeroPadded_append_ne_cons (width n : Nat) (rest after : List Char) {c : Char}
    (h : c.isDigit = false) : (zeroPadded width n).toList ++ rest ≠ c :: after := by
  intro heq
  obtain ⟨d, digits, hdigits, hdigit⟩ := zeroPadded_eq_cons width n
  rw [hdigits, List.cons_append, List.cons.injEq] at heq
  rw [heq.1, h] at hdigit
  cases hdigit

theorem trimStart_zeroPadded (width n : Nat) (rest : List Char) :
    trimStart ((zeroPadded width n).toList ++ rest) = (zeroPadded width n).toList ++ rest := by
  obtain ⟨c, digits, hdigits, hdigit⟩ := zeroPadded_eq_cons width n
  rw [hdigits, List.cons_append]
  exact trimStart_cons _ (isBlank_of_isDigit hdigit)

theorem takeWhile_isDigit_zeroPadded (width n : Nat) {rest : List Char} (hrest : EndsNumber rest) :
    ((zeroPadded width n).toList ++ rest).takeWhile Char.isDigit =
      (zeroPadded width n).toList := by
  rw [List.takeWhile_append_of_pos fun c h => isDigit_of_mem_zeroPadded h]
  cases rest with
  | nil => simp
  | cons c rest => simp [hrest c rfl]

theorem dropWhile_isDigit_zeroPadded (width n : Nat) {rest : List Char} (hrest : EndsNumber rest) :
    ((zeroPadded width n).toList ++ rest).dropWhile Char.isDigit = rest := by
  rw [List.dropWhile_append_of_pos fun c h => isDigit_of_mem_zeroPadded h]
  cases rest with
  | nil => rfl
  | cons c rest => simp [hrest c rfl]

namespace Timestamp

theorem digitsValue_eq (digits : List Char) :
    digitsValue digits = Nat.ofDigitChars 10 digits 0 := by
  simp only [digitsValue, Nat.ofDigitChars_eq_foldl, Nat.mul_comm]

theorem digitsValue_zeroPadded (width n : Nat) :
    digitsValue (zeroPadded width n).toList = n := by
  rw [digitsValue_eq, toList_zeroPadded, Nat.ofDigitChars_append, Nat.ofDigitChars_replicate_zero,
    Nat.mul_zero, Nat.ofDigitChars_ten_toDigits]

theorem readNumber_zeroPadded {most width n : Nat} {rest : List Char}
    (hmost : (zeroPadded width n).toList.length ≤ most) (hrest : EndsNumber rest) :
    readNumber most ((zeroPadded width n).toList ++ rest) = some (n, rest) := by
  have hempty : (zeroPadded width n).toList.isEmpty = false := by
    simpa using zeroPadded_ne_nil width n
  simp only [readNumber, takeWhile_isDigit_zeroPadded width n hrest, List.take_of_length_le hmost,
    hempty, Bool.false_eq_true, if_false, digitsValue_zeroPadded, List.drop_left]

theorem readTwoDigits_zeroPadded {n : Nat} (h : n < 100) {rest : List Char}
    (hrest : EndsNumber rest) :
    readTwoDigits ((zeroPadded 2 n).toList ++ rest) = some (n, rest) := by
  rw [readTwoDigits, trimStart_zeroPadded]
  have hlength : (zeroPadded 2 n).toList.length = 2 := length_zeroPadded (by decide) h
  exact readNumber_zeroPadded (by omega) hrest

theorem readMark_self {mark : Char} (h : isBlank mark = false) (rest : List Char) :
    readMark mark (mark :: rest) = some rest := by
  rw [readMark, trimStart_cons rest h]
  exact if_pos rfl

theorem readYear_yearText (year : Int) {rest : List Char} (hrest : EndsNumber rest) :
    readYear ((yearText year).toList ++ rest) = some (year, rest) := by
  unfold yearText
  split
  · next h =>
    have hlength : (zeroPadded 4 year.toNat).toList.length = 4 :=
      length_zeroPadded (by decide) (by omega)
    rw [readYear, trimStart_zeroPadded]
    split
    · next heq => exact absurd heq (zeroPadded_append_ne_cons _ _ _ _ rfl)
    · next heq => exact absurd heq (zeroPadded_append_ne_cons _ _ _ _ rfl)
    · rw [readNumber_zeroPadded (Nat.le_of_eq hlength) hrest, Option.map_some]
      dsimp only
      rw [Int.toNat_of_nonneg h.1]
  · next h =>
    have hnumber : readNumber ((zeroPadded 4 year.natAbs).toList ++ rest).length
        ((zeroPadded 4 year.natAbs).toList ++ rest) = some (year.natAbs, rest) :=
      readNumber_zeroPadded (by simp) hrest
    rw [String.toList_append, List.append_assoc]
    by_cases hnegative : year < 0
    · have hminus : "-".toList = ['-'] := rfl
      rw [if_pos hnegative, hminus, List.singleton_append, readYear, trimStart_cons _ rfl]
      simp only [hnumber, Option.map_some]
      rw [Int.ofNat_natAbs_of_nonpos (Int.le_of_lt hnegative), Int.neg_neg]
    · have hplus : "+".toList = ['+'] := rfl
      rw [if_neg hnegative, hplus, List.singleton_append, readYear, trimStart_cons _ rfl]
      simp only [hnumber, Option.map_some]
      rw [Int.natAbs_of_nonneg (Int.not_lt.mp hnegative)]

theorem readFraction_point (width n : Nat) {rest : List Char}
    (hlength : (zeroPadded width n).toList.length = width) (hwidth : width ≤ 9)
    (hrest : EndsNumber rest) :
    readFraction (("." ++ zeroPadded width n).toList ++ rest) =
      some (n * 10 ^ (9 - width), rest) := by
  have hempty : (zeroPadded width n).toList.isEmpty = false := by
    simpa using zeroPadded_ne_nil width n
  have hnine : (zeroPadded width n).toList.take 9 = (zeroPadded width n).toList :=
    List.take_of_length_le (by omega)
  have hpoint : ".".toList = ['.'] := rfl
  simp only [String.toList_append, hpoint, List.cons_append, List.nil_append, readFraction,
    takeWhile_isDigit_zeroPadded width n hrest, dropWhile_isDigit_zeroPadded width n hrest, hempty,
    Bool.false_eq_true, if_false, hnine, digitsValue_zeroPadded, hlength]

theorem readFraction_fractionText (t : Timestamp) {c : Char} {rest : List Char}
    (hdigit : c.isDigit = false) (hpoint : c ≠ '.') :
    readFraction (t.fractionText.toList ++ c :: rest) = some (t.nanosecond, c :: rest) := by
  have hrest : EndsNumber (c :: rest) := endsNumber_cons hdigit
  have hlt := t.nanosecond_lt
  unfold fractionText
  split
  · next h => simp [readFraction, hpoint, h]
  · split
    · next h =>
      have hlength : (zeroPadded 3 (t.nanosecond / 1000000)).toList.length = 3 :=
        length_zeroPadded (by decide) (by omega)
      have hvalue : t.nanosecond / 1000000 * 10 ^ (9 - 3) = t.nanosecond := by omega
      rw [readFraction_point _ _ hlength (by decide) hrest, hvalue]
    · split
      · next h =>
        have hlength : (zeroPadded 6 (t.nanosecond / 1000)).toList.length = 6 :=
          length_zeroPadded (by decide) (by omega)
        have hvalue : t.nanosecond / 1000 * 10 ^ (9 - 6) = t.nanosecond := by omega
        rw [readFraction_point _ _ hlength (by decide) hrest, hvalue]
      · have hlength : (zeroPadded 9 t.nanosecond).toList.length = 9 :=
          length_zeroPadded (by decide) hlt
        have hvalue : t.nanosecond * 10 ^ (9 - 9) = t.nanosecond := by omega
        rw [readFraction_point _ _ hlength (by decide) hrest, hvalue]

theorem ofParts?_self (t : Timestamp) :
    ofParts? t.date t.hour t.minute t.second t.nanosecond = some t := by
  rw [ofParts?, dif_pos ⟨t.hour_lt, t.minute_lt, t.second_le, t.nanosecond_lt⟩]

/-- A clock that is not ahead of UTC shows the instant as it is. -/
theorem ofLocal?_zero (t : Timestamp) :
    ofLocal? t.date t.hour t.minute t.second t.nanosecond 0 = some t := by
  have hhour := t.hour_lt
  have hminute := t.minute_lt
  have hsame : ¬ ((t.hour : Int) * 60 + t.minute - 0 < 0) := by omega
  have hday : ¬ ((1440 : Int) ≤ (t.hour : Int) * 60 + t.minute - 0) := by omega
  have hhours : (((t.hour : Int) * 60 + t.minute - 0) % 1440).toNat / 60 = t.hour := by omega
  have hminutes : (((t.hour : Int) * 60 + t.minute - 0) % 1440).toNat % 60 = t.minute := by omega
  simp only [ofLocal?, ofParts?_self, Option.bind_eq_bind, Option.bind_some, if_neg hsame,
    if_neg hday, hhours, hminutes]

theorem endsNumber_fractionText (t : Timestamp) {c : Char} (rest : List Char)
    (h : c.isDigit = false) : EndsNumber (t.fractionText.toList ++ c :: rest) := by
  have hpoint : ".".toList = ['.'] := rfl
  unfold fractionText
  split
  · exact endsNumber_cons h
  · split
    · rw [String.toList_append, hpoint]
      exact endsNumber_cons rfl
    · split
      · rw [String.toList_append, hpoint]
        exact endsNumber_cons rfl
      · rw [String.toList_append, hpoint]
        exact endsNumber_cons rfl

theorem toList_text (t : Timestamp) :
    t.text.toList = (yearText t.date.year).toList ++ '-' :: ((zeroPadded 2 t.date.month).toList ++
      '-' :: ((zeroPadded 2 t.date.day).toList ++ 'T' :: ((zeroPadded 2 t.hour).toList ++
      ':' :: ((zeroPadded 2 t.minute).toList ++ ':' :: ((zeroPadded 2 t.second).toList ++
      (t.fractionText.toList ++ ['Z'])))))) := by
  have hdash : "-".toList = ['-'] := rfl
  have hmiddle : "T".toList = ['T'] := rfl
  have hcolon : ":".toList = [':'] := rfl
  have hend : "Z".toList = ['Z'] := rfl
  simp only [text, textWithOffset, String.toList_append, List.append_assoc, hdash, hmiddle, hcolon,
    hend, List.cons_append, List.nil_append]

theorem daysInMonth_le (year : Int) (month : Nat) : daysInMonth year month ≤ 31 := by
  unfold daysInMonth
  split
  · split <;> decide
  · split <;> decide

/-- A timestamp is read back from its written form. -/
theorem parse_text (t : Timestamp) : parse t.text = some t := by
  have hdate : Date.ofYmd? t.date.year t.date.month t.date.day = some t.date := by
    rw [Date.ofYmd?, dif_pos t.date.isDate_eq]
  have hisDate := t.date.isDate_eq
  simp only [isDate, decide_eq_true_eq] at hisDate
  have hdays := daysInMonth_le t.date.year t.date.month
  have hhour := t.hour_lt
  have hminute := t.minute_lt
  have hsecond := t.second_le
  have hyear : ∀ rest, readYear ((yearText t.date.year).toList ++ '-' :: rest) =
      some (t.date.year, '-' :: rest) :=
    fun rest => readYear_yearText t.date.year (endsNumber_cons rfl)
  have hmonths : ∀ rest, readTwoDigits ((zeroPadded 2 t.date.month).toList ++ '-' :: rest) =
      some (t.date.month, '-' :: rest) :=
    fun rest => readTwoDigits_zeroPadded (by omega) (endsNumber_cons rfl)
  have hdays : ∀ rest, readTwoDigits ((zeroPadded 2 t.date.day).toList ++ 'T' :: rest) =
      some (t.date.day, 'T' :: rest) :=
    fun rest => readTwoDigits_zeroPadded (by omega) (endsNumber_cons rfl)
  have hhours : ∀ rest, readTwoDigits ((zeroPadded 2 t.hour).toList ++ ':' :: rest) =
      some (t.hour, ':' :: rest) :=
    fun rest => readTwoDigits_zeroPadded (by omega) (endsNumber_cons rfl)
  have hminutes : ∀ rest, readTwoDigits ((zeroPadded 2 t.minute).toList ++ ':' :: rest) =
      some (t.minute, ':' :: rest) :=
    fun rest => readTwoDigits_zeroPadded (by omega) (endsNumber_cons rfl)
  have hseconds : readTwoDigits ((zeroPadded 2 t.second).toList ++ (t.fractionText.toList ++ ['Z']))
      = some (t.second, t.fractionText.toList ++ ['Z']) :=
    readTwoDigits_zeroPadded (by omega) (endsNumber_fractionText t [] rfl)
  have hfraction : readFraction (t.fractionText.toList ++ ['Z']) = some (t.nanosecond, ['Z']) :=
    readFraction_fractionText t rfl (by decide)
  have hoffset : readOffset (trimStart ['Z']) = some (0, []) := rfl
  have hdash := @readMark_self '-' rfl
  have hcolon := @readMark_self ':' rfl
  rw [parse, toList_text]
  refine Option.bind_eq_some_iff.mpr ⟨_, hyear _, ?_⟩
  refine Option.bind_eq_some_iff.mpr ⟨_, hdash _, ?_⟩
  refine Option.bind_eq_some_iff.mpr ⟨_, hmonths _, ?_⟩
  refine Option.bind_eq_some_iff.mpr ⟨_, hdash _, ?_⟩
  refine Option.bind_eq_some_iff.mpr ⟨_, hdays _, ?_⟩
  refine Option.bind_eq_some_iff.mpr ⟨_, rfl, ?_⟩
  refine Option.bind_eq_some_iff.mpr ⟨_, hhours _, ?_⟩
  refine Option.bind_eq_some_iff.mpr ⟨_, hcolon _, ?_⟩
  refine Option.bind_eq_some_iff.mpr ⟨_, hminutes _, ?_⟩
  refine Option.bind_eq_some_iff.mpr ⟨_, hcolon _, ?_⟩
  refine Option.bind_eq_some_iff.mpr ⟨_, hseconds, ?_⟩
  refine Option.bind_eq_some_iff.mpr ⟨_, hfraction, ?_⟩
  refine Option.bind_eq_some_iff.mpr ⟨_, hoffset, ?_⟩
  refine Option.bind_eq_some_iff.mpr ⟨_, hdate, ?_⟩
  exact ofLocal?_zero t

end Timestamp

end SearchQuery
