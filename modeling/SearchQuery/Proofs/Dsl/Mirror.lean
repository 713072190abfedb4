import SearchQuery.Proofs.Dsl.Arguments
import SearchQuery.Proofs.Except
/-!
# Compiled aggregation trees

A request holds an aggregation under its key: what its aggregator computes, under the name of the
aggregator, and beside it its children, if it has any. Of siblings with one key the last one is
held. With distinct keys the request therefore mirrors the tree, node by node, and of the arguments
it holds those that the aggregator knows.
-/

namespace SearchQuery

/-- The name of an aggregator in a request. -/
def Aggregator.word : Aggregator → String
  | .terms .. => "terms"
  | .dateHistogram .. => "date_histogram"
  | .cardinality _ => "cardinality"
  | .composite _ => "composite"
  | .dateRange _ => "date_range"
  | .exists _ => "exists"
  | .missing _ => "missing"
  | .reverseNested => "reverse_nested"
  | .nested _ => "nested"
  | .children _ => "children"
  | .filter _ => "filter"
  | .metric operation _ _ => operation.word

/-- The arguments that an aggregator knows, and the map in which it is given some; nothing for an
aggregator without such a map. -/
def Aggregator.argumentMap? : Aggregator → Option (List String × Object)
  | .terms _ options => some (Dsl.termsArguments, options)
  | .dateHistogram _ options => some (Dsl.dateHistogramArguments, options)
  | .cardinality args => some (Dsl.cardinalityArguments, args)
  | .composite args => some (Dsl.compositeArguments, args)
  | .dateRange args => some (Dsl.dateRangeArguments, args)
  | _ => none

/-- The field that an aggregator has beside its argument map. -/
def Aggregator.ownField? : Aggregator → Option String
  | .terms field _ | .dateHistogram field _ => some field
  | _ => none

/-- An argument as an aggregator sends it: unchanged, save for the bounds of a histogram. -/
def Aggregator.sentArgument (target : Target) (name : String) (value : Json) : Aggregator → Json
  | .dateHistogram .. => Dsl.sentArgument target name value
  | _ => value

/-- The last aggregation of a list that has the key. -/
def Aggregation.named? : List Aggregation → String → Option Aggregation
  | [], _ => none
  | aggregation :: rest, key =>
    (named? rest key).or (if aggregation.key = key then some aggregation else none)

/-- Siblings have different keys, at every level of a tree. -/
inductive Aggregation.DistinctKeys : List Aggregation → Prop where
  | intro {list : List Aggregation} (siblings : (list.map (·.key)).Nodup)
      (inner : ∀ aggregation ∈ list, DistinctKeys aggregation.children) : DistinctKeys list

namespace Aggregation

theorem mem_of_named? {list : List Aggregation} {key : String} {aggregation : Aggregation}
    (h : named? list key = some aggregation) : aggregation ∈ list ∧ aggregation.key = key := by
  induction list with
  | nil => cases h
  | cons first rest ih =>
    rw [named?, Option.or_eq_some_iff] at h
    rcases h with h | ⟨-, h⟩
    · exact (ih h).imp_left (List.mem_cons_of_mem _)
    · split at h
      · next hkey =>
        cases h
        exact ⟨List.mem_cons_self, hkey⟩
      · cases h

theorem named?_eq_none_iff {list : List Aggregation} {key : String} :
    named? list key = none ↔ key ∉ list.map (·.key) := by
  induction list with
  | nil => simp [named?]
  | cons first rest ih =>
    rw [named?, Option.or_eq_none_iff, ih, List.map_cons, List.mem_cons, not_or, and_comm]
    by_cases hkey : first.key = key
    · simp [hkey]
    · simp [hkey, Ne.symm hkey]

/-- With distinct keys every aggregation is the one of its key. -/
theorem named?_key {list : List Aggregation} (hnodup : (list.map (·.key)).Nodup)
    {aggregation : Aggregation} (hmem : aggregation ∈ list) :
    named? list aggregation.key = some aggregation := by
  induction list with
  | nil => cases hmem
  | cons first rest ih =>
    rw [List.map_cons, List.nodup_cons] at hnodup
    rw [named?]
    rcases List.mem_cons.mp hmem with rfl | hmem
    · rw [named?_eq_none_iff.mpr hnodup.1, Option.none_or, if_pos rfl]
    · rw [ih hnodup.2 hmem, Option.some_or]

end Aggregation

namespace Dsl

variable {target : Target} {collection : String}

/-! ### One aggregation -/

theorem eq_word_of_aggregator {kind : Aggregator} {compiled : Object}
    (h : aggregator target collection kind = .ok compiled) :
    ∃ body, compiled = [(kind.word, body)] := by
  cases kind with
  | filter query =>
    simp only [aggregator, bind_eq_ok, pure_eq_ok] at h
    obtain ⟨contexts, -, rfl⟩ := h
    exact ⟨_, rfl⟩
  | _ =>
    simp only [aggregator, Except.ok.injEq] at h
    exact ⟨_, h.symm⟩

theorem aggregations_lt_word (kind : Aggregator) : "aggregations" < kind.word := by
  cases kind with
  | metric operation _ _ =>
    cases operation <;> simp only [Aggregator.word, Metric.word] <;> decide
  | _ =>
    simp only [Aggregator.word]
    decide

/-- The entry of an aggregation: what its aggregator computes, and its children if it has any. -/
inductive IsEntry (target : Target) (collection : String) (aggregation : Aggregation) :
    Json → Prop where
  | leaf {body : Json} (childless : aggregation.children = [])
      (computed : aggregator target collection aggregation.aggregator =
        .ok [(aggregation.aggregator.word, body)]) :
      IsEntry target collection aggregation (.obj [(aggregation.aggregator.word, body)])
  | parent {body : Json} {inner : Object} (parent : aggregation.children ≠ [])
      (computed : aggregator target collection aggregation.aggregator =
        .ok [(aggregation.aggregator.word, body)])
      (inside : aggregations target collection aggregation.children = .ok inner) :
      IsEntry target collection aggregation
        (.obj [("aggregations", .obj inner), (aggregation.aggregator.word, body)])

theorem isEntry_of_aggregationEntry {aggregation : Aggregation} {key : String} {compiled : Json}
    (h : aggregationEntry target collection aggregation = .ok (key, compiled)) :
    key = aggregation.key ∧ IsEntry target collection aggregation compiled := by
  obtain ⟨name, kind, children⟩ := aggregation
  simp only [aggregationEntry, bind_eq_ok] at h
  obtain ⟨computed, hcomputed, h⟩ := h
  obtain ⟨body, rfl⟩ := eq_word_of_aggregator hcomputed
  split at h
  · next hempty =>
    cases h
    exact ⟨rfl, .leaf (List.isEmpty_iff.mp hempty) hcomputed⟩
  · next hempty =>
    simp only [bind_eq_ok, pure_eq_ok, Prod.mk.injEq] at h
    obtain ⟨inner, hinner, rfl, rfl⟩ := h
    have hlt := aggregations_lt_word kind
    have hne : "aggregations" ≠ kind.word := by
      intro heq
      rw [heq] at hlt
      exact String.lt_irrefl _ hlt
    rw [Object.insert, if_neg hne, if_pos hlt]
    exact ⟨rfl, .parent (by simpa using hempty) hcomputed hinner⟩

/-- Only what its aggregator computes and what its children compile to matters of an aggregation. -/
theorem aggregationEntry_congr {old new : Aggregation} (hkey : old.key = new.key)
    (haggregator : aggregator target collection old.aggregator =
      aggregator target collection new.aggregator)
    (hempty : old.children.isEmpty = new.children.isEmpty)
    (hchildren : aggregations target collection old.children =
      aggregations target collection new.children) :
    aggregationEntry target collection old = aggregationEntry target collection new := by
  cases old
  cases new
  rw [aggregations, aggregations] at hchildren
  simp only at hkey haggregator hempty hchildren
  simp only [aggregationEntry, hkey, haggregator, hempty, hchildren]

/-! ### Lists of aggregations -/

theorem sorted_aggregationsOnto {list : List Aggregation} {done object : Object}
    (hdone : done.Sorted) (h : aggregationsOnto target collection done list = .ok object) :
    object.Sorted := by
  induction list generalizing done with
  | nil =>
    cases h
    exact hdone
  | cons aggregation rest ih =>
    simp only [aggregationsOnto, bind_eq_ok] at h
    obtain ⟨⟨key, compiled⟩, -, h⟩ := h
    exact ih (hdone.insert key compiled) h

/-- A list of aggregations puts under a key the entry of its last aggregation with that key. -/
theorem get?_aggregationsOnto {list : List Aggregation} {done object : Object}
    (h : aggregationsOnto target collection done list = .ok object) (key : String) :
    (Aggregation.named? list key = none ∧ Object.get? object key = Object.get? done key) ∨
      ∃ aggregation entry, Aggregation.named? list key = some aggregation ∧
        aggregationEntry target collection aggregation = .ok (key, entry) ∧
          Object.get? object key = some entry := by
  induction list generalizing done with
  | nil =>
    cases h
    exact .inl ⟨rfl, rfl⟩
  | cons first rest ih =>
    simp only [aggregationsOnto, bind_eq_ok] at h
    obtain ⟨⟨name, entry⟩, hentry, h⟩ := h
    have hname := (isEntry_of_aggregationEntry hentry).1
    -- The entry of the first aggregation stays unless a later one has its key.
    rcases ih h with ⟨hnone, hget⟩ | ⟨aggregation, other, hnamed, hother, hget⟩
    · rw [Aggregation.named?, hnone, Option.none_or, hget, Object.get?_insert, hname]
      by_cases hkey : first.key = key
      · rw [if_pos hkey, if_pos hkey]
        exact .inr ⟨first, entry, rfl, by rw [hentry, hname, hkey], rfl⟩
      · rw [if_neg hkey, if_neg hkey]
        exact .inl ⟨rfl, rfl⟩
    · exact .inr ⟨aggregation, other, by rw [Aggregation.named?, hnamed, Option.some_or], hother,
        hget⟩

theorem sorted_aggregations {list : List Aggregation} {object : Object}
    (h : aggregations target collection list = .ok object) : object.Sorted :=
  sorted_aggregationsOnto List.Pairwise.nil h

theorem get?_aggregations {list : List Aggregation} {object : Object}
    (h : aggregations target collection list = .ok object) {key : String}
    {aggregation : Aggregation} (hnamed : Aggregation.named? list key = some aggregation) :
    ∃ entry, aggregationEntry target collection aggregation = .ok (key, entry) ∧
      Object.get? object key = some entry := by
  rcases get?_aggregationsOnto h key with ⟨hnone, -⟩ | ⟨other, entry, hother, hentry, hget⟩
  · rw [hnone] at hnamed
    cases hnamed
  · rw [hother, Option.some.injEq] at hnamed
    subst hnamed
    exact ⟨entry, hentry, hget⟩

theorem get?_aggregations_eq_none {list : List Aggregation} {object : Object}
    (h : aggregations target collection list = .ok object) {key : String} :
    Object.get? object key = none ↔ Aggregation.named? list key = none := by
  rcases get?_aggregationsOnto h key with ⟨hnone, hget⟩ | ⟨_, _, hnamed, -, hget⟩
  · simp [hnone, hget]
  · simp [hnamed, hget]

/-! ### The whole tree -/

/-- What an aggregator sends of the arguments that it is given: those that it knows, its own field
without the collection, and nothing else. -/
structure SendsArguments (target : Target) (collection : String) (kind : Aggregator)
    (known : List String) (given sent : Object) : Prop where
  kept : ∀ name ∈ known, Object.get? sent name =
    (Object.get? given name).map fun value => kind.sentArgument target name value
  field : ∀ field, kind.ownField? = some field →
    Object.get? sent "field" = some (.str (bareColumn collection field))
  nothing_else : ∀ name, name ∉ known → (name = "field" → kind.ownField? = none) →
    Object.get? sent name = none
  sorted : given.Sorted → sent.Sorted

/-- Whether the object of an aggregator holds its arguments, if it has an argument map. -/
def HoldsArguments (target : Target) (collection : String) (kind : Aggregator) (body : Json) :
    Prop :=
  ∀ known given, kind.argumentMap? = some (known, given) →
    ∃ sent, body = .obj sent ∧ SendsArguments target collection kind known given sent

mutual

/-- An entry mirrors an aggregation: it holds the object of the aggregator under its name and, only
if the aggregation has children, an object that mirrors them. -/
inductive MirrorsOne (target : Target) (collection : String) : Aggregation → Json → Prop where
  | leaf {aggregation : Aggregation} {body : Json} (childless : aggregation.children = [])
      (arguments : HoldsArguments target collection aggregation.aggregator body) :
      MirrorsOne target collection aggregation (.obj [(aggregation.aggregator.word, body)])
  | parent {aggregation : Aggregation} {body : Json} {inner : Object}
      (parent : aggregation.children ≠ [])
      (arguments : HoldsArguments target collection aggregation.aggregator body)
      (inside : Mirrors target collection aggregation.children inner) :
      MirrorsOne target collection aggregation
        (.obj [("aggregations", .obj inner), (aggregation.aggregator.word, body)])

/-- An object mirrors a list of aggregations: its names are their keys, one for each, and the entry
under each key mirrors the aggregation with that key. -/
inductive Mirrors (target : Target) (collection : String) : List Aggregation → Object → Prop where
  | intro {list : List Aggregation} {object : Object}
      (keys : (object.map (·.1)).Perm (list.map (·.key)))
      (entries : ∀ aggregation ∈ list, ∀ entry, Object.get? object aggregation.key = some entry →
        MirrorsOne target collection aggregation entry) :
      Mirrors target collection list object

end

/-- An aggregator without a field of its own sends the arguments that it knows. -/
theorem sendsArguments_allowed {kind : Aggregator} (known : List String) (given : Object)
    (hfield : kind.ownField? = none)
    (hsent : ∀ name value, kind.sentArgument target name value = value) :
    SendsArguments target collection kind known given (allowed known given) where
  kept name hname := by simp only [get?_allowed, if_pos hname, hsent, Option.map_id']
  field field h := by
    rw [hfield] at h
    cases h
  nothing_else name hname _ := by rw [get?_allowed, if_neg hname]
  sorted h := sorted_allowed h known

/-- An aggregator with a field of its own sends it in place of any argument of that name. -/
theorem sendsArguments_withField {kind : Aggregator} {known : List String} {given sent : Object}
    {field : String} (hown : kind.ownField? = some field) (hknown : "field" ∉ known)
    (hget : ∀ name, Object.get? sent name =
      if name = "field" then some (.str (bareColumn collection field))
      else if name ∈ known then
        (Object.get? given name).map fun value => kind.sentArgument target name value
      else none)
    (hsorted : given.Sorted → sent.Sorted) :
    SendsArguments target collection kind known given sent where
  kept name hname := by
    have hne : name ≠ "field" := fun heq => hknown (heq ▸ hname)
    rw [hget, if_neg hne, if_pos hname]
  field _ h := by
    rw [hown, Option.some.injEq] at h
    rw [hget, if_pos rfl, h]
  nothing_else name hname hfield := by
    have hne : name ≠ "field" := by
      intro heq
      rw [hfield heq] at hown
      cases hown
    rw [hget, if_neg hne, if_neg hname]
  sorted := hsorted

theorem sendsArguments_terms (field : String) (options : Object) :
    SendsArguments target collection (.terms field options) termsArguments options
      (Object.insert (allowed termsArguments options) "field"
        (.str (bareColumn collection field))) := by
  refine sendsArguments_withField rfl (by decide) (fun name => ?_)
    fun h => (sorted_allowed h _).insert _ _
  rw [Object.get?_insert, get?_allowed]
  simp only [eq_comm, Aggregator.sentArgument, Option.map_id']

theorem sendsArguments_histogram (field : String) (options : Object) :
    SendsArguments target collection (.dateHistogram field options) dateHistogramArguments options
      (histogram target collection field options) :=
  sendsArguments_withField rfl (by decide) (get?_histogram field options)
    fun h => sorted_histogram h field

theorem holdsArguments_of_aggregator {kind : Aggregator} {body : Json}
    (h : aggregator target collection kind = .ok [(kind.word, body)]) :
    HoldsArguments target collection kind body := by
  intro known given hmap
  cases kind with
  | terms field options =>
    cases h
    cases hmap
    exact ⟨_, rfl, sendsArguments_terms field _⟩
  | dateHistogram field options =>
    cases h
    cases hmap
    exact ⟨_, rfl, sendsArguments_histogram field _⟩
  | cardinality args | composite args | dateRange args =>
    cases h
    cases hmap
    exact ⟨_, rfl, sendsArguments_allowed _ _ rfl fun _ _ => rfl⟩
  | _ => cases hmap

theorem perm_keys_aggregations {list : List Aggregation} {object : Object}
    (hnodup : (list.map (·.key)).Nodup)
    (h : aggregations target collection list = .ok object) :
    (object.map (·.1)).Perm (list.map (·.key)) := by
  apply (List.perm_ext_iff_of_nodup (sorted_aggregations h).distinct hnodup).mpr
  intro key
  rw [← Decidable.not_iff_not, ← Object.get?_eq_none_iff, get?_aggregations_eq_none h,
    Aggregation.named?_eq_none_iff]

/-- With distinct keys a compiled request mirrors the tree of its aggregations. -/
theorem aggregations_mirror_tree {list : List Aggregation} {object : Object}
    (hkeys : Aggregation.DistinctKeys list)
    (h : aggregations target collection list = .ok object) :
    Mirrors target collection list object := by
  induction hkeys generalizing object with
  | @intro list siblings inner ih =>
    -- The children of each aggregation are mirrored by the induction on the tree of distinct keys.
    refine .intro (perm_keys_aggregations siblings h) ?_
    intro aggregation hmem entry hentry
    obtain ⟨other, hother, hget⟩ := get?_aggregations h (Aggregation.named?_key siblings hmem)
    rw [hentry, Option.some.injEq] at hget
    subst hget
    cases (isEntry_of_aggregationEntry hother).2 with
    | leaf childless computed => exact .leaf childless (holdsArguments_of_aggregator computed)
    | parent parent computed inside =>
      exact .parent parent (holdsArguments_of_aggregator computed) (ih aggregation hmem inside)

/-- The posts of each month, with how often they were seen and by how many authors they are; beside
them the authors, by an aggregation with the same key as one inside. -/
def postsByMonth : List Aggregation :=
  [{ key := "months"
     aggregator := .dateHistogram "posts.created" [("calendar_interval", .str "month"),
       ("extended_bounds", .arr [.single instantTag (.str "2024-01-31T10:00:00Z"), .str "open"]),
       ("size", .int 3)]
     children := [{ key := "views", aggregator := .metric .avg "posts.views" none },
       { key := "authors", aggregator := .cardinality [("field", .str "author")] }] },
    { key := "authors", aggregator := .terms "author" [] }]

theorem aggregations_mirror_tree_postsByMonth :
    Aggregation.DistinctKeys postsByMonth ∧
      ∃ object, aggregations { datePattern := "%F" } "posts" postsByMonth = .ok object ∧
        Mirrors { datePattern := "%F" } "posts" postsByMonth object := by
  have hleaf : Aggregation.DistinctKeys [] := .intro List.nodup_nil nofun
  have hkeys : Aggregation.DistinctKeys postsByMonth := by
    refine .intro (by decide) ?_
    simp only [postsByMonth, List.forall_mem_cons, List.not_mem_nil, false_implies, implies_true,
      and_true]
    refine ⟨.intro (by decide) ?_, hleaf⟩
    simp only [List.forall_mem_cons, List.not_mem_nil, false_implies, implies_true, and_true]
    exact ⟨hleaf, hleaf⟩
  obtain ⟨object, hobject⟩ :
      ∃ object, aggregations { datePattern := "%F" } "posts" postsByMonth = .ok object := ⟨_, rfl⟩
  exact ⟨hkeys, object, hobject, aggregations_mirror_tree hkeys hobject⟩

end Dsl

end SearchQuery
