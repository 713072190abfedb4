import SearchQuery.Http.Url
import SearchQuery.Proofs.Http.Percent
/-!
# Adding names to a path

A name becomes one segment behind the others, from which it can be read back, or it does not: a URL
has no segments `.` and `..`, it loses tabs and line ends, and an empty segment that is the first
is lost again. How many segments there are in the end tells which of the two it was for all names.
-/

namespace SearchQuery

namespace Http

/-! ### The text of a path -/

theorem splitAtChar_append {separator : Char} {front rest part : List Char}
    {parts : List (List Char)} (hfront : separator ∉ front)
    (hrest : splitAtChar separator rest = part :: parts) :
    splitAtChar separator (front ++ rest) = (front ++ part) :: parts := by
  induction front with
  | nil => exact hrest
  | cons c front ih =>
    rw [List.mem_cons, not_or] at hfront
    rw [List.cons_append, splitAtChar, if_neg (Ne.symm hfront.1), ih hfront.2, List.cons_append]

namespace UrlPath

theorem toList_text_segments (list : List String) :
    (segments list).text.toList = list.flatMap ('/' :: ·.toList) := by
  rw [text, String.toList_join, List.flatMap_map]
  simp only [String.toList_append]
  rfl

theorem splitAtChar_text {list : List String} (h : ∀ segment ∈ list, '/' ∉ segment.toList) :
    splitAtChar '/' (segments list).text.toList = [] :: list.map String.toList := by
  rw [toList_text_segments]
  induction list with
  | nil => rfl
  | cons segment list ih =>
    have hsegment := h segment List.mem_cons_self
    have hlist := ih fun other hother => h other (List.mem_cons_of_mem _ hother)
    rw [List.flatMap_cons, List.cons_append, splitAtChar, if_pos rfl,
      splitAtChar_append hsegment hlist, List.append_nil, List.map_cons]

/-- Behind the same segments, different segments without slashes make different texts. -/
theorem segments_of_text {front list other : List String}
    (hlist : ∀ segment ∈ list, '/' ∉ segment.toList)
    (hother : ∀ segment ∈ other, '/' ∉ segment.toList)
    (h : (segments (front ++ list)).text = (segments (front ++ other)).text) : list = other := by
  have htext : (segments list).text.toList = (segments other).text.toList := by
    have hall := congrArg String.toList h
    simp only [toList_text_segments, List.flatMap_append] at hall ⊢
    exact List.append_cancel_left hall
  have hparts := congrArg (splitAtChar '/') htext
  rw [splitAtChar_text hlist, splitAtChar_text hother, List.cons.injEq] at hparts
  exact List.map_inj_right (fun _ _ => String.toList_inj.mp) |>.mp hparts.2

/-- The segments of a path, none for the one of a bare server. -/
def settled (path : List String) : List String := if path = [""] then [] else path

theorem settled_of_ne {path : List String} (h : path ≠ [""]) : settled path = path := if_neg h

theorem length_settled_le (path : List String) : (settled path).length ≤ path.length := by
  rw [settled]
  split
  · exact Nat.zero_le _
  · exact Nat.le_refl _

/-- However it is written, a segment that leads upwards stands for two dots. -/
theorem decoded?_of_isDoubleDot {segment : String} (h : isDoubleDot segment = true) :
    decoded? segment = some ".." := by
  have hbytes : percentDecode segment.toList = ['.', '.'].flatMap String.utf8EncodeChar := by
    rw [isDoubleDot, List.contains_iff_mem] at h
    revert segment
    decide
  rw [decoded?, hbytes, fromUTF8?_flatMap]

theorem decoded?_of_isSingleDot {segment : String} (h : isSingleDot segment = true) :
    decoded? segment = some "." := by
  have hbytes : percentDecode segment.toList = ['.'].flatMap String.utf8EncodeChar := by
    rw [isSingleDot, List.contains_iff_mem] at h
    revert segment
    decide
  rw [decoded?, hbytes, fromUTF8?_flatMap]

end UrlPath

/-! ### One name more -/

namespace Url

open UrlPath

/-- What a URL keeps of a name. -/
def keptName (name : String) : String := String.ofList (name.toList.filter (!isTabOrLineEnd ·))

/-- The segment that is written for a name. -/
def encodedName (special : Bool) (name : String) : String :=
  String.ofList (percentEncode (inSegment special) (name.toList.filter (!isTabOrLineEnd ·)))

/-- A name that a URL can have as a segment. -/
structure IsPlain (name : String) : Prop where
  ne_dot : name ≠ "."
  ne_dotDot : name ≠ ".."
  unbroken : ∀ c ∈ name.toList, ¬isTabOrLineEnd c

instance (name : String) : Decidable (IsPlain name) :=
  decidable_of_iff (name ≠ "." ∧ name ≠ ".." ∧ name.toList.any isTabOrLineEnd = false)
    ⟨fun ⟨hdot, hdotDot, hnone⟩ => ⟨hdot, hdotDot, List.any_eq_false.mp hnone⟩,
      fun h => ⟨h.ne_dot, h.ne_dotDot, List.any_eq_false.mpr h.unbroken⟩⟩

theorem keptName_eq_iff {name : String} :
    keptName name = name ↔ ∀ c ∈ name.toList, ¬isTabOrLineEnd c := by
  rw [keptName, ← String.toList_inj, String.toList_ofList, List.filter_eq_self]
  simp only [Bool.not_eq_true', Bool.not_eq_true]

theorem decoded?_encodedName (special : Bool) (name : String) :
    decoded? (encodedName special name) = some (keptName name) :=
  decoded?_percentEncode (by cases special <;> decide) _

theorem not_mem_encodedName (special : Bool) (name : String) {c : Char} (hc : c ∈ segmentEnds) :
    c ∉ (encodedName special name).toList := by
  have hescaped : inSegment special c = true := by
    simp only [segmentEnds, List.mem_cons, List.not_mem_nil, or_false] at hc
    obtain rfl | rfl | rfl := hc <;> cases special <;> rfl
  rw [encodedName, String.toList_ofList]
  exact not_mem_percentEncode hc hescaped _

theorem addSegment_of_ne {name : String} (h : ¬(name = "." ∨ name = "..")) (special : Bool)
    (path : List String) :
    addSegment special path name = resolve (settled path) [encodedName special name] := by
  rw [addSegment, if_neg h]
  rfl

/-- All that can become of a path when a name is added; only in the last case it holds the name. -/
theorem addSegment_cases (special : Bool) (path : List String) (name : String) :
    (name = "." ∨ name = "..") ∧ addSegment special path name = path ∨
    keptName name = ".." ∧ addSegment special path name = (settled path).dropLast ++ [""] ∨
    keptName name = "." ∧ addSegment special path name = settled path ++ [""] ∨
    ¬(name = "." ∨ name = "..") ∧
      addSegment special path name = settled path ++ [encodedName special name] := by
  have hdecoded := decoded?_encodedName special name
  by_cases hdots : name = "." ∨ name = ".."
  · exact .inl ⟨hdots, if_pos hdots⟩
  · rw [addSegment_of_ne hdots, resolve]
    split
    · next hdouble =>
      rw [decoded?_of_isDoubleDot hdouble, Option.some.injEq] at hdecoded
      exact .inr (.inl ⟨hdecoded.symm, rfl⟩)
    · split
      · next hsingle =>
        rw [decoded?_of_isSingleDot hsingle, Option.some.injEq] at hdecoded
        exact .inr (.inr (.inl ⟨hdecoded.symm, rfl⟩))
      · exact .inr (.inr (.inr ⟨hdots, rfl⟩))

theorem addSegment_of_isPlain {name : String} (h : IsPlain name) (special : Bool)
    (path : List String) :
    addSegment special path name = settled path ++ [encodedName special name] := by
  have hkept := keptName_eq_iff.mpr h.unbroken
  obtain ⟨hdots, -⟩ | ⟨hdouble, -⟩ | ⟨hsingle, -⟩ | ⟨-, hadded⟩ :=
    addSegment_cases special path name
  · exact absurd hdots (not_or.mpr ⟨h.ne_dot, h.ne_dotDot⟩)
  · exact absurd (hkept.symm.trans hdouble) h.ne_dotDot
  · exact absurd (hkept.symm.trans hsingle) h.ne_dot
  · exact hadded

/-- The segment of a plain name lasts, unless it is empty and there is nothing in front of it. -/
theorem settled_addSegment_iff {name : String} (h : IsPlain name) (special : Bool)
    (path : List String) :
    settled (addSegment special path name) = addSegment special path name
      ↔ (name = "" → settled path ≠ []) := by
  rw [addSegment_of_isPlain h]
  constructor
  · rintro hsettled rfl hnone
    rw [hnone] at hsettled
    exact absurd hsettled (by cases special <;> decide)
  · intro hfirst
    refine settled_of_ne fun hbare => ?_
    obtain ⟨hnone, hempty⟩ | ⟨-, hcons⟩ := List.append_eq_singleton_iff.mp hbare
    · have hread := decoded?_encodedName special name
      rw [List.singleton_inj.mp hempty, keptName_eq_iff.mpr h.unbroken] at hread
      exact hfirst (Option.some.inj hread).symm hnone
    · exact List.cons_ne_nil _ _ hcons

/-- Only a plain name can be read back from the segment that adding it leaves. -/
theorem isPlain_of_addSegment {special : Bool} {path : List String} {name segment : String}
    (hadded : addSegment special path name = settled path ++ [segment])
    (hread : decoded? segment = some name) : IsPlain name := by
  -- A segment that is empty stands for the empty name, and that is not one of the dots.
  have hempty : segment = "" → name = "" := by
    rintro rfl
    exact (Option.some.inj hread).symm
  obtain ⟨hdots, hsame⟩ | ⟨hdouble, hup⟩ | ⟨hsingle, hstay⟩ | ⟨hdots, henc⟩ :=
    addSegment_cases special path name
  · have hbare : path = [""] := Decidable.byContradiction fun hne => by
      rw [hsame, settled_of_ne hne] at hadded
      exact absurd (congrArg List.length hadded) (by simp)
    rw [hsame, hbare] at hadded
    obtain rfl := hempty (List.singleton_inj.mp hadded).symm
    exact absurd hdots (by decide)
  · rw [hup] at hadded
    obtain rfl := hempty (List.append_inj_right' hadded rfl |> List.singleton_inj.mp).symm
    exact absurd hdouble (by decide)
  · rw [hstay] at hadded
    obtain rfl := hempty (List.append_inj_right' hadded rfl |> List.singleton_inj.mp).symm
    exact absurd hsingle (by decide)
  · rw [henc] at hadded
    obtain rfl := List.singleton_inj.mp (List.append_cancel_left hadded)
    rw [decoded?_encodedName, Option.some.injEq] at hread
    obtain ⟨hdot, hdotDot⟩ := not_or.mp hdots
    exact ⟨hdot, hdotDot, keptName_eq_iff.mp hread⟩

/-- Adding a name makes a path longer by one segment, or not at all. -/
theorem addSegment_append_or_le (special : Bool) (path : List String) (name : String) :
    (∃ segment, addSegment special path name = settled path ++ [segment]) ∨
      (settled (addSegment special path name)).length ≤ (settled path).length := by
  obtain ⟨-, hsame⟩ | ⟨-, hup⟩ | ⟨-, hstay⟩ | ⟨-, henc⟩ := addSegment_cases special path name
  · rw [hsame]
    exact .inr (Nat.le_refl _)
  · rw [hup]
    cases hpath : settled path with
    | nil => exact .inl ⟨"", rfl⟩
    | cons first rest =>
      refine .inr (Nat.le_trans (length_settled_le _) ?_)
      rw [List.length_append, List.length_dropLast]
      exact Nat.le_refl _
  · exact .inl ⟨_, hstay⟩
  · exact .inl ⟨_, henc⟩

theorem length_settled_addSegment_le (special : Bool) (path : List String) (name : String) :
    (settled (addSegment special path name)).length ≤ (settled path).length + 1 := by
  obtain ⟨segment, hadded⟩ | hle := addSegment_append_or_le special path name
  · rw [hadded]
    exact Nat.le_trans (length_settled_le _) (Nat.le_of_eq List.length_append)
  · exact Nat.le_succ_of_le hle

/-- Where a path became longer, it has one segment more, and is settled. -/
theorem addSegment_of_length (special : Bool) (path : List String) (name : String)
    (h : (settled (addSegment special path name)).length = (settled path).length + 1) :
    ∃ segment, addSegment special path name = settled path ++ [segment] ∧
      settled (addSegment special path name) = addSegment special path name := by
  obtain ⟨segment, hadded⟩ | hle := addSegment_append_or_le special path name
  · refine ⟨segment, hadded, settled_of_ne ?_⟩
    intro hbare
    rw [hbare] at h
    exact absurd h (Nat.succ_ne_zero _).symm
  · omega

/-! ### All names -/

theorem length_settled_foldl_le (special : Bool) (names path : List String) :
    (settled (names.foldl (addSegment special) path)).length
      ≤ (settled path).length + names.length := by
  induction names generalizing path with
  | nil => exact Nat.le_refl _
  | cons name names ih =>
    have hstep := length_settled_addSegment_le special path name
    have hrest := ih (addSegment special path name)
    rw [List.foldl_cons, List.length_cons]
    omega

/-- Where each name made the path longer, what was there stays in front. -/
theorem prefix_of_length (special : Bool) (names path : List String)
    (h : (settled (names.foldl (addSegment special) path)).length
      = (settled path).length + names.length) :
    settled path <+: settled (names.foldl (addSegment special) path) := by
  induction names generalizing path with
  | nil => exact List.prefix_rfl
  | cons name names ih =>
    have hstep := length_settled_addSegment_le special path name
    have hrest := length_settled_foldl_le special names (addSegment special path name)
    rw [List.foldl_cons, List.length_cons] at h
    obtain ⟨segment, hadded, hsettled⟩ := addSegment_of_length special path name (by omega)
    have hprefix := ih (addSegment special path name) (by omega)
    rw [hsettled, hadded] at hprefix
    rw [List.foldl_cons, hadded]
    exact (List.prefix_append _ _).trans hprefix

/-- Plain names become one segment each, unless the first is empty and there is nothing in front
of it. -/
theorem settled_foldl_addSegment (special : Bool) {names : List String} (path : List String)
    (hplain : ∀ name ∈ names, IsPlain name)
    (hfirst : names.head? = some "" → settled path ≠ []) :
    settled (names.foldl (addSegment special) path)
      = settled path ++ names.map (encodedName special) := by
  induction names generalizing path with
  | nil => exact (List.append_nil _).symm
  | cons name names ih =>
    have hadded := addSegment_of_isPlain (hplain name List.mem_cons_self) special path
    have hsettled := (settled_addSegment_iff (hplain name List.mem_cons_self) special path).mpr
      fun hname => hfirst (congrArg some hname)
    have hrest := ih (addSegment special path name)
      (fun other hother => hplain other (List.mem_cons_of_mem _ hother)) (by
        rw [hsettled, hadded]
        exact fun _ => List.append_ne_nil_of_right_ne_nil _ (List.cons_ne_nil _ _))
    rw [List.foldl_cons, hrest, hsettled, hadded, List.append_assoc, List.map_cons,
      List.singleton_append]

/-- Names that can be read back from the segments that were added are plain. -/
theorem isPlain_of_foldl_addSegment {special : Bool} {names path added : List String}
    (h : settled (names.foldl (addSegment special) path) = settled path ++ added)
    (hread : added.map decoded? = names.map some) :
    (∀ name ∈ names, IsPlain name) ∧ (names.head? = some "" → settled path ≠ []) := by
  induction names generalizing path added with
  | nil => exact ⟨fun _ hname => absurd hname List.not_mem_nil, fun hhead => nomatch hhead⟩
  | cons name names ih =>
    obtain ⟨segment, rest, rfl, hsegment, hrest⟩ := List.map_eq_cons_iff.mp hread
    have hcount : rest.length = names.length := by
      simpa only [List.length_map] using congrArg List.length hrest
    rw [List.foldl_cons] at h
    have hlength := congrArg List.length h
    rw [List.length_append, List.length_cons] at hlength
    have hstep := length_settled_addSegment_le special path name
    have hrun := length_settled_foldl_le special names (addSegment special path name)
    -- As many segments as names were added, so each of the names added one.
    obtain ⟨first, hadded, hsettled⟩ := addSegment_of_length special path name (by omega)
    obtain ⟨tail, htail⟩ := prefix_of_length special names (addSegment special path name)
      (by omega)
    have hparts := htail.trans h
    rw [hsettled, hadded, List.append_assoc, List.singleton_append, List.append_cancel_left_eq,
      List.cons.injEq] at hparts
    obtain ⟨rfl, rfl⟩ := hparts
    have hplain := isPlain_of_addSegment hadded hsegment
    refine ⟨List.forall_mem_cons.mpr ⟨hplain, (ih htail.symm hrest).1⟩, fun hname => ?_⟩
    exact (settled_addSegment_iff hplain special path).mp hsettled (Option.some.inj hname)

end Url

end Http

end SearchQuery
