import SearchQuery.Dsl.Union
import SearchQuery.Proofs.Json.Valid
/-!
# Sequences in a union

Under a path of names a value holds a sequence of scalars, in the order of its arrays: a path goes
into every item of an array and counts none of them. A union holds under each path what its first
value holds there and then what its second one holds. So the sequences of several values in union
do not depend on how the values are put together, although the union itself does.
-/

namespace SearchQuery

namespace Json

def isScalar : Json → Bool
  | .arr _ | .obj _ => false
  | _ => true

mutual

/-- The scalars and objects that a value is made of, those of an array in order. -/
def elements : Json → List Json
  | .arr items => itemsElements items
  | value => [value]

def itemsElements : List Json → List Json
  | [] => []
  | item :: rest => item.elements ++ itemsElements rest

end

/-- The scalars under a path of names, null among them, in the order of the arrays they are in. -/
def scalarsAt : Json → List String → List Json
  | value, [] => value.elements.filter isScalar
  | value, name :: path => value.elements.flatMap fun element =>
      (element.field? name).elim [] (scalarsAt · path)

/-- What a value brings along into an array that it shares with another one. -/
def asItems : Json → List Json
  | .arr items => items
  | value => [value]

theorem itemsElements_eq (items : List Json) : itemsElements items = items.flatMap elements := by
  induction items with
  | nil => rfl
  | cons item rest ih => rw [itemsElements, ih, List.flatMap_cons]

theorem elements_arr (items : List Json) : (arr items).elements = items.flatMap elements := by
  rw [elements, itemsElements_eq]

theorem flatMap_elements_asItems (value : Json) :
    value.asItems.flatMap elements = value.elements := by
  cases value with
  | arr items => exact (elements_arr items).symm
  | _ => rfl

/-! ### Sequences under a path -/

theorem scalarsAt_obj_cons (entries : Object) (name : String) (path : List String) :
    (obj entries).scalarsAt (name :: path) =
      (Object.get? entries name).elim [] (·.scalarsAt path) := by
  rw [scalarsAt, elements, List.flatMap_singleton, field?]
  rintro items ⟨⟩

theorem scalarsAt_arr_append (front back : List Json) (path : List String) :
    (arr (front ++ back)).scalarsAt path =
      (arr front).scalarsAt path ++ (arr back).scalarsAt path := by
  cases path with
  | nil => simp only [scalarsAt, elements_arr, List.flatMap_append, List.filter_append]
  | cons name path => simp only [scalarsAt, elements_arr, List.flatMap_append]

theorem scalarsAt_arr_asItems (value : Json) (path : List String) :
    (arr value.asItems).scalarsAt path = value.scalarsAt path := by
  cases path <;> simp only [scalarsAt, elements_arr, flatMap_elements_asItems]

/-! ### What a union is -/

/-- Unless both values are objects, their union is an array that they share. -/
theorem union_eq_arr {left right : Json} (h : left.isObject = false ∨ right.isObject = false) :
    left.union right = .arr (left.asItems ++ right.asItems) := by
  cases right with
  | obj entries =>
    cases left with
    | obj object => simp [isObject] at h
    | _ => rfl
  | _ => cases left <;> rfl

/-- A union of objects has under each name the union of what the two have there. The second one
needs distinct names: of two entries of one name both join the union, while a look-up finds one. -/
theorem get?_unionEntries {entries : Object} (h : Object.Distinct entries) (object : Object)
    (name : String) : Object.get? (unionEntries object entries) name =
      Option.merge union (Object.get? object name) (Object.get? entries name) := by
  induction entries generalizing object with
  | nil => cases hobject : Object.get? object name <;> simp [unionEntries, hobject]
  | cons entry rest ih =>
    obtain ⟨key, value⟩ := entry
    rw [Object.Distinct, List.map_cons, List.nodup_cons] at h
    rw [unionEntries, ih h.2, Object.get?_insert, Object.get?_cons]
    by_cases hkey : key = name
    · subst hkey
      rw [if_pos rfl, if_pos rfl, Object.get?_eq_none_iff.mpr h.1]
      cases Object.get? object key <;> rfl
    · rw [if_neg hkey, if_neg hkey]

theorem valid_asItems {value : Json} (h : value.Valid) :
    ∀ item ∈ value.asItems, item.Valid := by
  intro item hitem
  cases value with
  | arr items =>
    rw [Valid, itemsValid_iff] at h
    exact h item hitem
  | _ => exact List.mem_singleton.mp hitem ▸ h

theorem valid_arr_append {left right : Json} (hleft : left.Valid) (hright : right.Valid) :
    (arr (left.asItems ++ right.asItems)).Valid := by
  rw [Valid, itemsValid_iff, List.forall_mem_append]
  exact ⟨valid_asItems hleft, valid_asItems hright⟩

mutual

theorem valid_union (left right : Json) (hleft : left.Valid) (hright : right.Valid) :
    (left.union right).Valid := by
  cases right with
  | obj entries =>
    rw [Valid] at hright
    cases left with
    | obj object =>
      rw [union]
      exact valid_unionEntries object entries hleft hright.2
    | _ =>
      rw [union_eq_arr (.inl rfl)]
      exact valid_arr_append hleft hright
  | _ =>
    rw [union_eq_arr (.inr rfl)]
    exact valid_arr_append hleft hright

theorem valid_unionEntries (object entries : Object) (hobject : (obj object).Valid)
    (hentries : EntriesValid entries) : (obj (unionEntries object entries)).Valid := by
  cases entries with
  | nil => exact hobject
  | cons entry rest =>
    obtain ⟨name, value⟩ := entry
    rw [EntriesValid] at hentries
    rw [unionEntries]
    refine valid_unionEntries _ rest (hobject.insert name ?_) hentries.2
    split
    · next old hold => exact valid_union old value (hobject.field? hold) hentries.1
    · exact hentries.1

end

/-! ### What a union holds -/

theorem objects_or_not (left right : Json) :
    (∃ object entries, left = .obj object ∧ right = .obj entries) ∨
      left.isObject = false ∨ right.isObject = false := by
  cases left with
  | obj object =>
    cases right with
    | obj entries => exact .inl ⟨object, entries, rfl, rfl⟩
    | _ => exact .inr (.inr rfl)
  | _ => exact .inr (.inl rfl)

theorem scalarsAt_union_of_not_object {left right : Json}
    (h : left.isObject = false ∨ right.isObject = false) (path : List String) :
    (left.union right).scalarsAt path = left.scalarsAt path ++ right.scalarsAt path := by
  rw [union_eq_arr h, scalarsAt_arr_append, scalarsAt_arr_asItems, scalarsAt_arr_asItems]

/-- Under each path a union holds what its first value holds, then what its second one holds. -/
theorem scalarsAt_union (left : Json) {right : Json} (hright : right.Valid) (path : List String) :
    (left.union right).scalarsAt path = left.scalarsAt path ++ right.scalarsAt path := by
  -- Only two objects have unions inside, and those are looked at with one name of the path less.
  induction path generalizing left right with
  | nil =>
    rcases objects_or_not left right with ⟨object, entries, rfl, rfl⟩ | hother
    · rfl
    · exact scalarsAt_union_of_not_object hother []
  | cons name path ih =>
    rcases objects_or_not left right with ⟨object, entries, rfl, rfl⟩ | hother
    · have hdistinct : Object.Distinct entries := by
        rw [Valid] at hright
        exact hright.1.distinct
      rw [union, scalarsAt_obj_cons, scalarsAt_obj_cons, scalarsAt_obj_cons,
        get?_unionEntries hdistinct]
      cases hold : Object.get? object name with
      | none => rw [Option.merge_none_left]; rfl
      | some old =>
        cases hvalue : Object.get? entries name with
        | none => exact (List.append_nil _).symm
        | some value => exact ih old (hright.field? hvalue)
    · exact scalarsAt_union_of_not_object hother (name :: path)

/-! ### Unions of many values -/

/-- A way to put values together two at a time, in their order. -/
inductive Bracketing where
  | single (value : Json)
  | join (front back : Bracketing)

namespace Bracketing

/-- The values that are put together, in order. -/
def values : Bracketing → List Json
  | .single value => [value]
  | .join front back => front.values ++ back.values

/-- What the values come to. -/
def total : Bracketing → Json
  | .single value => value
  | .join front back => front.total.union back.total

theorem valid_total {bracketing : Bracketing} (h : ∀ value ∈ bracketing.values, value.Valid) :
    bracketing.total.Valid := by
  induction bracketing with
  | single value => exact h value (List.mem_singleton_self value)
  | join front back ihfront ihback =>
    rw [values, List.forall_mem_append] at h
    exact valid_union _ _ (ihfront h.1) (ihback h.2)

theorem scalarsAt_total {bracketing : Bracketing} (h : ∀ value ∈ bracketing.values, value.Valid)
    (path : List String) :
    bracketing.total.scalarsAt path = bracketing.values.flatMap (·.scalarsAt path) := by
  induction bracketing with
  | single value => rw [total, values, List.flatMap_singleton]
  | join front back ihfront ihback =>
    rw [values, List.forall_mem_append] at h
    rw [total, scalarsAt_union _ (valid_total h.2), ihfront h.1, ihback h.2, values,
      List.flatMap_append]

end Bracketing

theorem scalarsAt_foldl_union {rest : List Json} (h : ∀ value ∈ rest, value.Valid)
    (first : Json) (path : List String) :
    (rest.foldl union first).scalarsAt path = (first :: rest).flatMap (·.scalarsAt path) := by
  induction rest generalizing first with
  | nil => rw [List.foldl_nil, List.flatMap_singleton]
  | cons value rest ih =>
    obtain ⟨hvalue, hrest⟩ := List.forall_mem_cons.mp h
    rw [List.foldl_cons, ih hrest, List.flatMap_cons, scalarsAt_union first hvalue,
      List.append_assoc, List.flatMap_cons, List.flatMap_cons]

/-- Nothing is lost, made up or moved in a union: under each path it holds what its first value
holds there, followed by what its second value holds. So the union of many values, from the first to
the last one or put together in any other way, holds what they hold one after the other. -/
theorem union_keeps_sequences (path : List String) :
    (∀ left right : Json, right.Valid →
      (left.union right).scalarsAt path = left.scalarsAt path ++ right.scalarsAt path) ∧
    (∀ (first : Json) (rest : List Json), (∀ value ∈ rest, value.Valid) →
      (rest.foldl union first).scalarsAt path = (first :: rest).flatMap (·.scalarsAt path)) ∧
    ∀ bracketing : Bracketing, (∀ value ∈ bracketing.values, value.Valid) →
      bracketing.total.scalarsAt path = bracketing.values.flatMap (·.scalarsAt path) := by
  refine ⟨?_, ?_, ?_⟩
  · intro left right hright
    exact scalarsAt_union left hright path
  · intro first rest hrest
    exact scalarsAt_foldl_union hrest first path
  · intro bracketing hvalues
    exact Bracketing.scalarsAt_total hvalues path

/-- A post with one tag. -/
def taggedPost : Json := .single "tags" (.str "lean")

/-- A post whose tags are a list that holds a null and an object. -/
def listedTags : Json := .single "tags" (.arr [.null, .single "by" (.str "ann")])

/-- A post in a list, beside a number. -/
def listedPost : Json := .arr [.single "tags" (.single "by" (.str "bob")), .int 7]

theorem tags_valid : ∀ value ∈ [taggedPost, listedTags, listedPost], value.Valid := by
  simp [taggedPost, listedTags, listedPost, single, Object.single, Valid, EntriesValid, ItemsValid,
    Object.Sorted]

/-- The first post, put together with what the other two come to. -/
def fromLast : Bracketing :=
  .join (.single taggedPost) (.join (.single listedTags) (.single listedPost))

theorem union_keeps_sequences_tags :
    (∀ value ∈ [taggedPost, listedTags, listedPost], value.Valid) ∧
      (taggedPost.union listedTags).scalarsAt ["tags"] = [.str "lean", .null] ∧
      ([listedTags, listedPost].foldl union taggedPost).scalarsAt ["tags", "by"] =
        [.str "ann", .str "bob"] ∧
      fromLast.total.scalarsAt ["tags", "by"] = [.str "ann", .str "bob"] := by
  obtain ⟨-, hrest⟩ := List.forall_mem_cons.mp tags_valid
  obtain ⟨hlisted, -⟩ := List.forall_mem_cons.mp hrest
  refine ⟨tags_valid, ?_, ?_, ?_⟩
  · exact (union_keeps_sequences ["tags"]).1 taggedPost listedTags hlisted
  · exact (union_keeps_sequences ["tags", "by"]).2.1 taggedPost _ hrest
  · exact (union_keeps_sequences ["tags", "by"]).2.2 fromLast tags_valid

/-- What comes out differs: put together from the last one, the first post joins a list. -/
example : ([listedTags, listedPost].foldl union taggedPost).asItems.length = 3 ∧
    fromLast.total.asItems.length = 4 := ⟨rfl, rfl⟩

end Json

end SearchQuery
