import SearchQuery.Json.Basic
/-!
# Entries of objects

What an object holds after an entry was put into it, and after all entries of a list were put into
it one by one: in increasing order of their names, the last entry of each name.
-/

namespace SearchQuery

namespace Object

@[simp] theorem get?_nil (name : String) : get? [] name = none := rfl

@[simp] theorem get?_cons (key : String) (value : Json) (rest : Object) (name : String) :
    get? ((key, value) :: rest) name = if key = name then some value else get? rest name := rfl

@[simp] theorem get?_insert (entries : Object) (name other : String) (value : Json) :
    get? (entries.insert name value) other =
      if name = other then some value else get? entries other := by
  induction entries with
  | nil => rfl
  | cons entry rest ih =>
    obtain ⟨key, old⟩ := entry
    simp only [insert]
    split
    · next h =>
      subst h
      by_cases hn : name = other <;> simp [hn]
    · next hne =>
      split
      · simp
      · by_cases hk : key = other
        · subst hk
          simp [hne]
        · simp [hk, ih]

theorem get?_map (entries : Object) (change : Json → Json) (name : String) :
    get? (entries.map fun entry => (entry.1, change entry.2)) name =
      (get? entries name).map change := by
  induction entries with
  | nil => rfl
  | cons entry rest ih =>
    obtain ⟨key, value⟩ := entry
    rw [List.map_cons, get?_cons, get?_cons, ih]
    split <;> rfl

/-- What is kept by its name is found by its name. -/
theorem get?_filter (entries : Object) (keep : String → Bool) (name : String) :
    get? (entries.filter fun entry => keep entry.1) name =
      if keep name then get? entries name else none := by
  induction entries with
  | nil => simp
  | cons entry rest ih =>
    obtain ⟨key, value⟩ := entry
    rw [List.filter_cons]
    by_cases hkeep : keep key = true
    · rw [if_pos hkeep, get?_cons, get?_cons, ih]
      by_cases hkey : key = name
      · subst hkey
        rw [if_pos rfl, if_pos rfl, if_pos hkeep]
      · rw [if_neg hkey, if_neg hkey]
    · rw [if_neg hkeep, ih, get?_cons]
      by_cases hkey : key = name
      · subst hkey
        rw [if_neg hkeep, if_neg hkeep]
      · rw [if_neg hkey]

@[simp] theorem get?_erase (entries : Object) (name other : String) :
    get? (entries.erase name) other = if name = other then none else get? entries other := by
  have h := get?_filter entries (· != name) other
  rw [erase, h]
  by_cases heq : name = other
  · simp [heq]
  · simp [heq, Ne.symm heq]

theorem get?_eq_none_of_has {entries : Object} {name : String} (h : ¬ has entries name = true) :
    get? entries name = none := by
  simpa [has] using h

theorem get?_eq_none_iff {entries : Object} {name : String} :
    get? entries name = none ↔ name ∉ entries.map (·.1) := by
  induction entries with
  | nil => simp
  | cons entry rest ih =>
    obtain ⟨key, value⟩ := entry
    by_cases hkey : key = name
    · simp [hkey]
    · simp only [get?_cons, if_neg hkey, ih, List.map_cons, List.mem_cons, Ne.symm hkey, false_or]

theorem erase_of_get?_eq_none {entries : Object} {name : String} (h : get? entries name = none) :
    entries.erase name = entries := by
  apply List.filter_eq_self.mpr
  intro entry hentry
  have hne : entry.1 ≠ name := by
    intro heq
    exact get?_eq_none_iff.mp h (heq ▸ List.mem_map_of_mem hentry)
  simpa using hne

theorem mem_of_get? {entries : Object} {name : String} {value : Json}
    (h : get? entries name = some value) : (name, value) ∈ entries := by
  induction entries with
  | nil => cases h
  | cons entry rest ih =>
    obtain ⟨key, old⟩ := entry
    rw [get?_cons] at h
    split at h
    · next heq =>
      cases h
      rw [heq]
      exact List.mem_cons_self
    · exact List.mem_cons_of_mem _ (ih h)

/-- The value under a name is smaller than the object. -/
theorem sizeOf_get? {entries : Object} {name : String} {value : Json}
    (h : get? entries name = some value) : sizeOf value < sizeOf entries := by
  induction entries with
  | nil => simp at h
  | cons entry rest ih =>
    obtain ⟨key, old⟩ := entry
    simp only [get?_cons] at h
    split at h
    · cases h
      simp only [List.cons.sizeOf_spec, Prod.mk.sizeOf_spec]
      omega
    · have hrest := ih h
      simp only [List.cons.sizeOf_spec]
      omega

/-- The names of an object are all different. -/
def Distinct (entries : Object) : Prop := (entries.map (·.1)).Nodup

/-- The names of an object increase. -/
def Sorted (entries : Object) : Prop := entries.Pairwise (·.1 < ·.1)

/-- The value of the last entry with the given name. -/
def last? : Object → String → Option Json
  | [], _ => none
  | (key, value) :: rest, name => (last? rest name).or (if key = name then some value else none)

@[simp] theorem last?_nil (name : String) : last? [] name = none := rfl

@[simp] theorem last?_cons (key : String) (value : Json) (rest : Object) (name : String) :
    last? ((key, value) :: rest) name =
      (last? rest name).or (if key = name then some value else none) := rfl

@[simp] theorem last?_append (front back : Object) (name : String) :
    last? (front ++ back) name = (last? back name).or (last? front name) := by
  induction front with
  | nil => simp
  | cons entry front ih =>
    obtain ⟨key, value⟩ := entry
    rw [List.cons_append, last?_cons, last?_cons, ih, Option.or_assoc]

theorem last?_eq_none {entries : Object} {name : String} (h : name ∉ entries.map (·.1)) :
    last? entries name = none := by
  induction entries with
  | nil => rfl
  | cons entry rest ih =>
    obtain ⟨key, value⟩ := entry
    rw [List.map_cons, List.mem_cons, not_or] at h
    rw [last?_cons, ih h.2, Option.none_or, if_neg (Ne.symm h.1)]

theorem Sorted.distinct {entries : Object} (h : Sorted entries) : Distinct entries := by
  unfold Distinct
  rw [List.Nodup, List.pairwise_map]
  apply List.Pairwise.imp ?_ h
  rintro first second hlt heq
  rw [heq] at hlt
  exact String.lt_irrefl _ hlt

/-- In an object with distinct names the first entry of a name is the last one. -/
theorem last?_eq_get? {entries : Object} (h : Distinct entries) (name : String) :
    last? entries name = get? entries name := by
  induction entries with
  | nil => rfl
  | cons entry rest ih =>
    obtain ⟨key, value⟩ := entry
    rw [Distinct, List.map_cons, List.nodup_cons] at h
    rw [last?_cons, get?_cons, ih h.2]
    split
    · next heq =>
      subst heq
      rw [← ih h.2, last?_eq_none h.1, Option.none_or]
    · rw [Option.or_none]

/-- An object with distinct names is any of its entries and the rest. -/
theorem perm_erase {entries : Object} {name : String} {value : Json} (h : Distinct entries)
    (hget : get? entries name = some value) :
    entries.Perm ((name, value) :: entries.erase name) := by
  induction entries with
  | nil => cases hget
  | cons entry rest ih =>
    obtain ⟨key, old⟩ := entry
    rw [Distinct, List.map_cons, List.nodup_cons] at h
    rw [get?_cons] at hget
    by_cases hkey : key = name
    · subst hkey
      rw [if_pos rfl] at hget
      cases hget
      have herase : Object.erase ((key, value) :: rest) key = rest := by
        have hrest := erase_of_get?_eq_none (get?_eq_none_iff.mpr h.1)
        simpa [Object.erase] using hrest
      rw [herase]
    · rw [if_neg hkey] at hget
      have herase : Object.erase ((key, old) :: rest) name =
          (key, old) :: Object.erase rest name := by
        simp [Object.erase, hkey]
      rw [herase]
      exact ((ih h.2 hget).cons _).trans (List.Perm.swap _ _ _)

theorem mem_insert {entries : Object} {name : String} {value : Json} {entry : String × Json}
    (h : entry ∈ entries.insert name value) : entry = (name, value) ∨ entry ∈ entries := by
  induction entries with
  | nil => exact .inl (List.mem_singleton.mp h)
  | cons first rest ih =>
    obtain ⟨key, old⟩ := first
    simp only [insert] at h
    split at h
    · rcases List.mem_cons.mp h with rfl | h
      · exact .inl rfl
      · exact .inr (List.mem_cons_of_mem _ h)
    · split at h
      · rcases List.mem_cons.mp h with rfl | h
        · exact .inl rfl
        · exact .inr h
      · rcases List.mem_cons.mp h with rfl | h
        · exact .inr List.mem_cons_self
        · exact (ih h).imp_right (List.mem_cons_of_mem _)

theorem Sorted.insert {entries : Object} (h : Sorted entries) (name : String) (value : Json) :
    Sorted (entries.insert name value) := by
  induction entries with
  | nil => exact List.pairwise_singleton _ _
  | cons first rest ih =>
    obtain ⟨key, old⟩ := first
    obtain ⟨hfirst, hrest⟩ := List.pairwise_cons.mp h
    simp only [Object.insert]
    split
    · next heq =>
      subst heq
      exact List.pairwise_cons.mpr ⟨hfirst, hrest⟩
    · next hne =>
      split
      · next hlt =>
        refine List.pairwise_cons.mpr ⟨?_, h⟩
        rintro entry hentry
        rcases List.mem_cons.mp hentry with rfl | hentry
        · exact hlt
        · exact String.lt_trans hlt (hfirst entry hentry)
      · next hle =>
        have hlt : key < name := by
          by_cases hgt : key < name
          · exact hgt
          · exact absurd (String.le_antisymm hgt hle) hne
        refine List.pairwise_cons.mpr ⟨?_, ih hrest⟩
        rintro entry hentry
        rcases mem_insert hentry with rfl | hentry
        · exact hlt
        · exact hfirst entry hentry

theorem Sorted.cons_cons {first second : String} {value other : Json} {rest : Object}
    (hlt : first < second) (h : Sorted ((second, other) :: rest)) :
    Sorted ((first, value) :: (second, other) :: rest) := by
  refine List.pairwise_cons.mpr ⟨?_, h⟩
  rintro entry (_ | ⟨_, hentry⟩)
  · exact hlt
  · exact String.lt_trans hlt ((List.pairwise_cons.mp h).1 entry hentry)

theorem sorted_pair {first second : String} (hlt : first < second) (value other : Json) :
    Sorted [(first, value), (second, other)] := .cons_cons hlt (List.pairwise_singleton _ _)

theorem Sorted.map {entries : Object} (h : Sorted entries) (change : Json → Json) :
    Sorted (entries.map fun entry => (entry.1, change entry.2)) :=
  List.pairwise_map.mpr h

theorem Sorted.erase {entries : Object} (h : Sorted entries) (name : String) :
    Sorted (entries.erase name) := List.Pairwise.filter _ h

/-- No name in front of the first one is found. -/
theorem Sorted.get?_of_lt {name key : String} {value : Json} {rest : Object}
    (h : Sorted ((key, value) :: rest)) (hlt : name < key) :
    get? ((key, value) :: rest) name = none := by
  apply get?_eq_none_iff.mpr
  intro hmem
  obtain ⟨entry, hentry, heq⟩ := List.mem_map.mp hmem
  have hle : name < entry.1 := by
    rcases List.mem_cons.mp hentry with hfirst | hrest
    · rwa [hfirst]
    · exact String.lt_trans hlt ((List.pairwise_cons.mp h).1 entry hrest)
  rw [heq] at hle
  exact String.lt_irrefl _ hle

/-- An object with increasing names is known by the values under its names. -/
theorem Sorted.ext {first second : Object} (hfirst : Sorted first) (hsecond : Sorted second)
    (h : ∀ name, get? first name = get? second name) : first = second := by
  induction first generalizing second with
  | nil =>
    cases second with
    | nil => rfl
    | cons entry rest =>
      have hname := h entry.1
      rw [get?_nil, get?_cons, if_pos rfl] at hname
      cases hname
  | cons entry rest ih =>
    obtain ⟨key, value⟩ := entry
    cases second with
    | nil =>
      have hname := h key
      rw [get?_nil, get?_cons, if_pos rfl] at hname
      cases hname
    | cons other others =>
      obtain ⟨name, old⟩ := other
      -- The smaller of two first names would be missing on the other side.
      have hle : ¬ name < key := by
        intro hlt
        have hname := h name
        rw [hfirst.get?_of_lt hlt, get?_cons, if_pos rfl] at hname
        cases hname
      have hge : ¬ key < name := by
        intro hlt
        have hname := h key
        rw [hsecond.get?_of_lt hlt, get?_cons, if_pos rfl] at hname
        cases hname
      obtain rfl : key = name := String.le_antisymm hle hge
      have hvalue := h key
      rw [get?_cons, get?_cons, if_pos rfl, if_pos rfl] at hvalue
      cases hvalue
      have hdistinct := hfirst.distinct
      have hdistinct' := hsecond.distinct
      rw [Distinct, List.map_cons, List.nodup_cons] at hdistinct hdistinct'
      have htail : rest = others := by
        apply ih hfirst.of_cons hsecond.of_cons
        intro other
        have hother := h other
        rw [get?_cons, get?_cons] at hother
        by_cases heq : key = other
        · rw [← heq, get?_eq_none_iff.mpr hdistinct.1, get?_eq_none_iff.mpr hdistinct'.1]
        · rwa [if_neg heq, if_neg heq] at hother
      rw [htail]

theorem insert_of_forall_lt {entries : Object} {name : String} (value : Json)
    (h : ∀ entry ∈ entries, entry.1 < name) :
    entries.insert name value = entries ++ [(name, value)] := by
  induction entries with
  | nil => rfl
  | cons first rest ih =>
    obtain ⟨key, old⟩ := first
    have hlt : key < name := h (key, old) List.mem_cons_self
    have hne : name ≠ key := by
      rintro rfl
      exact String.lt_irrefl _ hlt
    rw [Object.insert, if_neg hne, if_neg (String.lt_asymm hlt), List.cons_append,
      ih fun entry hentry => h entry (List.mem_cons_of_mem _ hentry)]

private theorem foldl_insert_of_sorted (entries object : Object) (h : Sorted (object ++ entries)) :
    entries.foldl (fun object entry => object.insert entry.1 entry.2) object =
      object ++ entries := by
  induction entries generalizing object with
  | nil => simp
  | cons entry rest ih =>
    have hlt : ∀ first ∈ object, first.1 < entry.1 := fun first hfirst =>
      (List.pairwise_append.mp h).2.2 first hfirst entry List.mem_cons_self
    rw [List.foldl_cons, insert_of_forall_lt _ hlt, ih, List.append_assoc, List.singleton_append]
    simpa using h

/-- A list of increasing names is the object that it makes. -/
theorem ofList_of_sorted {entries : Object} (h : Sorted entries) : ofList entries = entries := by
  rw [ofList, foldl_insert_of_sorted entries [] h, List.nil_append]

theorem Sorted.foldl_insert {object : Object} (h : Sorted object) (entries : Object) :
    Sorted (entries.foldl (fun object entry => object.insert entry.1 entry.2) object) :=
  List.foldlRecOn entries _ h fun _ h entry _ => h.insert entry.1 entry.2

theorem sorted_ofList (entries : Object) : Sorted (ofList entries) :=
  Sorted.foldl_insert List.Pairwise.nil entries

/-- Of several entries of one name the last one is kept, and it replaces what was there before. -/
theorem get?_foldl_insert (entries object : Object) (name : String) :
    get? (entries.foldl (fun object entry => object.insert entry.1 entry.2) object) name =
      (last? entries name).or (get? object name) := by
  induction entries generalizing object with
  | nil => simp
  | cons entry rest ih =>
    obtain ⟨key, value⟩ := entry
    rw [List.foldl_cons, ih, get?_insert, last?_cons, Option.or_assoc]
    congr 1
    split
    · rfl
    · rw [Option.none_or]

/-- Of several entries of one name the object made of a list holds the last one. -/
theorem get?_ofList (entries : Object) (name : String) :
    get? (ofList entries) name = last? entries name := by
  rw [ofList, get?_foldl_insert, get?_nil, Option.or_none]

end Object

/-- A flag is set where the truth value `true` is found. -/
theorem Json.bind_bool?_eq_true_iff {found : Option Json} :
    found.bind Json.bool? = some true ↔ found = some (.bool true) := by
  rw [Option.bind_eq_some_iff]
  constructor
  · rintro ⟨value, rfl, hbool⟩
    cases value with
    | bool => rw [Option.some.inj hbool]
    | _ => cases hbool
  · rintro rfl
    exact ⟨_, rfl, rfl⟩

end SearchQuery
