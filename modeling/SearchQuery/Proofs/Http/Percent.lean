import SearchQuery.Http.Percent
/-!
# Percent-encoding and its inverse

What is encoded decodes to itself, as long as the percent sign is among the characters that are
encoded. So texts with the same encoding are the same.
-/

namespace SearchQuery

namespace Http

/-- The text that a percent-encoded text stands for; nothing where its bytes are no UTF-8. -/
def decoded? (text : String) : Option String :=
  String.fromUTF8? ⟨(percentDecode text.toList).toArray⟩

/-- The upper-case digit of a half byte has its value. -/
theorem hexValue?_digit : ∀ n : Fin 16,
    hexValue? ((Nat.toDigits 16 n.val).headD '0').toUpper = some n.val := by
  decide

theorem percentDecode_percentByte (byte : UInt8) (rest : List Char) :
    percentDecode (percentByte byte ++ rest) = byte :: percentDecode rest := by
  have hhigh := hexValue?_digit ⟨byte.toNat / 16, by have := byte.toNat_lt; omega⟩
  have hlow := hexValue?_digit ⟨byte.toNat % 16, by omega⟩
  have hbyte : UInt8.ofNat (16 * (byte.toNat / 16) + byte.toNat % 16) = byte := by
    rw [Nat.div_add_mod, UInt8.ofNat_toNat]
  simp only [percentByte, List.cons_append, List.nil_append, percentDecode, hhigh, hlow, hbyte]

theorem percentDecode_percentBytes (bytes : List UInt8) (rest : List Char) :
    percentDecode (bytes.flatMap percentByte ++ rest) = bytes ++ percentDecode rest := by
  induction bytes with
  | nil => rfl
  | cons byte bytes ih =>
    rw [List.flatMap_cons, List.append_assoc, percentDecode_percentByte, ih, List.cons_append]

theorem percentDecode_cons_of_ne {c : Char} (h : c ≠ '%') (rest : List Char) :
    percentDecode (c :: rest) = String.utf8EncodeChar c ++ percentDecode rest := by
  rw [percentDecode]
  intro _ _ _ hpercent
  exact absurd hpercent h

theorem percentDecode_percentEncode {escaped : Char → Bool} (h : escaped '%' = true)
    (text : List Char) :
    percentDecode (percentEncode escaped text) = text.flatMap String.utf8EncodeChar := by
  induction text with
  | nil => rfl
  | cons c text ih =>
    rw [percentEncode, List.flatMap_cons, ← percentEncode, List.flatMap_cons, ← ih]
    split
    · exact percentDecode_percentBytes _ _
    · next hc =>
      have hne : c ≠ '%' := by
        rintro rfl
        exact hc h
      exact percentDecode_cons_of_ne hne _

theorem fromUTF8?_flatMap (text : List Char) :
    String.fromUTF8? ⟨(text.flatMap String.utf8EncodeChar).toArray⟩ = some (String.ofList text) := by
  have hbytes : (⟨(text.flatMap String.utf8EncodeChar).toArray⟩ : ByteArray) = text.utf8Encode := by
    rw [← List.data_toByteArray]
    rfl
  rw [hbytes, String.fromUTF8?, dif_pos ⟨text, rfl⟩]
  rfl

/-- Decoding undoes an encoding in which the percent sign is encoded. -/
theorem decoded?_percentEncode {escaped : Char → Bool} (h : escaped '%' = true)
    (text : List Char) :
    decoded? (String.ofList (percentEncode escaped text)) = some (String.ofList text) := by
  rw [decoded?, String.toList_ofList, percentDecode_percentEncode h, fromUTF8?_flatMap]

/-- The characters that end a segment of a path, or the path itself. -/
def segmentEnds : List Char := ['/', '?', '#']

theorem digit_not_mem_segmentEnds : ∀ n : Fin 16,
    ((Nat.toDigits 16 n.val).headD '0').toUpper ∉ segmentEnds := by
  decide

theorem not_mem_percentByte {c : Char} (hc : c ∈ segmentEnds) (byte : UInt8) :
    c ∉ percentByte byte := by
  have hhigh := digit_not_mem_segmentEnds ⟨byte.toNat / 16, by have := byte.toNat_lt; omega⟩
  have hlow := digit_not_mem_segmentEnds ⟨byte.toNat % 16, by omega⟩
  intro hmem
  simp only [percentByte, List.mem_cons, List.not_mem_nil, or_false] at hmem
  obtain rfl | rfl | rfl := hmem
  · exact absurd hc (by decide)
  · exact hhigh hc
  · exact hlow hc

theorem not_mem_percentEncode {escaped : Char → Bool} {c : Char} (hc : c ∈ segmentEnds)
    (h : escaped c = true) (text : List Char) : c ∉ percentEncode escaped text := by
  rw [percentEncode, List.mem_flatMap]
  rintro ⟨d, -, hmem⟩
  split at hmem
  · obtain ⟨byte, -, hbyte⟩ := List.mem_flatMap.mp hmem
    exact not_mem_percentByte hc byte hbyte
  · next hd =>
    obtain rfl := List.mem_singleton.mp hmem
    exact hd h

end Http

end SearchQuery
