import SearchQuery.Proofs.Dsl.Mirror
import SearchQuery.Proofs.Dsl.Qualified
import SearchQuery.Query.Build
/-!
# References of aggregations

An aggregator names a field or a path. Most send it without the collection, like the columns of
clauses; a cardinality, a date range and a nested aggregator send it as it is written. Qualified
references therefore change a request exactly where it holds one of these three.
-/

namespace SearchQuery

/-- The reference that an aggregator sends as it is written, if it sends one so. -/
def Aggregator.writtenReference? (aggregator : Aggregator) : Option String :=
  match aggregator with
  | .cardinality _ | .dateRange _ | .nested _ => aggregator.reference?
  | _ => none

/-- The aggregation that a request holds under a key, or under a path of keys behind it. -/
def Aggregation.at? (list : List Aggregation) (key : String) : List String → Option Aggregation
  | [] => named? list key
  | next :: path => (named? list key).bind fun aggregation => at? aggregation.children next path

/-- The reference that a request holds as it is written, under a path of keys. -/
def Aggregation.writtenReference? (list : List Aggregation) (key : String) (path : List String) :
    Option String :=
  (at? list key path).bind (·.aggregator.writtenReference?)

theorem Aggregator.reference?_withReference {aggregator : Aggregator} {old : String}
    (has : aggregator.reference? = some old) (new : String) :
    (aggregator.withReference new).reference? = some new := by
  cases aggregator with
  | cardinality args | dateRange args =>
    rw [withReference, reference?, Object.get?_insert, if_pos rfl]
    rfl
  | composite | reverseNested | children | filter => cases has
  | _ => rfl

namespace Dsl

variable {target : Target} {collection : String}

/-! ### One aggregator -/

/-- Arguments that hold a text under `field` and hold it qualified are sent differently. -/
theorem allowed_insert_field_ne {known : List String} (hknown : "field" ∈ known) {args : Object}
    {reference : String} (has : (Object.get? args "field").bind Json.str? = some reference) :
    allowed known args ≠
      allowed known (args.insert "field" (.str (qualified collection reference))) := by
  intro heq
  have hget := congrArg (Object.get? · "field") heq
  simp only [get?_allowed, if_pos hknown, Object.get?_insert, if_true] at hget
  rw [hget] at has
  exact qualified_ne collection reference (Option.some.inj has)

theorem aggregator_qualifies_iff {old new : Aggregator} (hcollection : collection ≠ "")
    (h : old.Qualifies collection new) :
    aggregator target collection old = aggregator target collection new ↔
      old.writtenReference? = new.writtenReference? := by
  cases h with
  | same => exact iff_of_true rfl rfl
  | filter query =>
    rw [aggregator, aggregator, contexts_qualifies target hcollection query]
    exact iff_of_true rfl rfl
  | @reference _ reference has bare =>
    have hbare := bareColumn_qualifies hcollection (.qualified bare)
    have hnew := Aggregator.reference?_withReference has (qualified collection reference)
    have hdiffer : old.reference? ≠
        (old.withReference (qualified collection reference)).reference? := by
      rw [has, hnew, Ne, Option.some.injEq]
      exact (qualified_ne collection reference).symm
    cases old with
    | composite | reverseNested | children | filter => cases has
    | cardinality args | dateRange args =>
      refine iff_of_false ?_ hdiffer
      simp only [Aggregator.withReference, aggregator, Except.ok.injEq, List.cons.injEq,
        Prod.mk.injEq, Json.obj.injEq, true_and, and_true]
      exact allowed_insert_field_ne (by decide) has
    | nested path =>
      cases has
      refine iff_of_false ?_ hdiffer
      simpa [Aggregator.withReference, aggregator, Json.single, Object.single] using
        (qualified_ne collection reference).symm
    | _ =>
      cases has
      refine iff_of_true ?_ rfl
      simp only [Aggregator.withReference, aggregator, hbare]

/-! ### Entries of a request -/

/-- Aggregations with one entry agree in what they compute, by themselves and inside. -/
theorem IsEntry.agree {old new : Aggregation} {first second : Json}
    (hfirst : IsEntry target collection old first) (hsecond : IsEntry target collection new second)
    (heq : first = second) :
    aggregator target collection old.aggregator = aggregator target collection new.aggregator ∧
      ∃ inner, aggregations target collection old.children = .ok inner ∧
        aggregations target collection new.children = .ok inner := by
  cases hfirst with
  | leaf childless computed =>
    cases hsecond with
    | leaf childless' computed' =>
      simp only [Json.obj.injEq, List.cons.injEq, Prod.mk.injEq, and_true] at heq
      rw [computed, computed', heq.1, heq.2, childless, childless']
      exact ⟨rfl, [], rfl, rfl⟩
    | parent => simp at heq
  | parent _ computed inside =>
    cases hsecond with
    | leaf => simp at heq
    | parent _ computed' inside' =>
      simp only [Json.obj.injEq, List.cons.injEq, Prod.mk.injEq, and_true, true_and] at heq
      obtain ⟨rfl, hword, rfl⟩ := heq
      rw [computed, computed', hword]
      exact ⟨rfl, _, inside, inside'⟩

/-! ### Lists of aggregations -/

/-- Lists that differ in qualified references have the same keys, and under each key aggregations
that differ in the same way. -/
theorem named?_qualify {olds news : List Aggregation} (h : AggregationsQualify collection olds news)
    (key : String) :
    (Aggregation.named? olds key = none ∧ Aggregation.named? news key = none) ∨
      ∃ old new, Aggregation.named? olds key = some old ∧ Aggregation.named? news key = some new ∧
        old.aggregator.Qualifies collection new.aggregator ∧
        AggregationsQualify collection old.children new.children := by
  induction olds generalizing news with
  | nil =>
    cases h
    exact .inl ⟨rfl, rfl⟩
  | cons first olds ih =>
    cases h with
    | cons kind children rest =>
      rcases ih rest with ⟨holds, hnews⟩ | ⟨old, new, hold, hnew, hrelated⟩
      · simp only [Aggregation.named?, holds, hnews, Option.none_or]
        split
        · exact .inr ⟨_, _, rfl, rfl, kind, children⟩
        · exact .inl ⟨rfl, rfl⟩
      · exact .inr ⟨old, new, by rw [Aggregation.named?, hold, Option.some_or],
          by rw [Aggregation.named?, hnew, Option.some_or], hrelated⟩

/-- What two lists that compile to one object have under one key agrees. -/
theorem agree_of_named? {olds news : List Aggregation} {object : Object} {key : String}
    {old new : Aggregation} (holds : aggregations target collection olds = .ok object)
    (hnews : aggregations target collection news = .ok object)
    (hold : Aggregation.named? olds key = some old)
    (hnew : Aggregation.named? news key = some new) :
    aggregator target collection old.aggregator = aggregator target collection new.aggregator ∧
      ∃ inner, aggregations target collection old.children = .ok inner ∧
        aggregations target collection new.children = .ok inner := by
  obtain ⟨first, hfirst, hget⟩ := get?_aggregations holds hold
  obtain ⟨second, hsecond, hget'⟩ := get?_aggregations hnews hnew
  rw [hget, Option.some.injEq] at hget'
  exact IsEntry.agree (isEntry_of_aggregationEntry hfirst).2
    (isEntry_of_aggregationEntry hsecond).2 hget'

/-- Lists that compile to one object have the same written references in it. -/
theorem writtenReference?_eq (hcollection : collection ≠ "") {olds news : List Aggregation}
    {object : Object} (h : AggregationsQualify collection olds news)
    (holds : aggregations target collection olds = .ok object)
    (hnews : aggregations target collection news = .ok object) (key : String)
    (path : List String) :
    Aggregation.writtenReference? olds key path = Aggregation.writtenReference? news key path := by
  induction path generalizing olds news object key with
  | nil =>
    rcases named?_qualify h key with ⟨hold, hnew⟩ | ⟨old, new, hold, hnew, hkind, -⟩
    · simp only [Aggregation.writtenReference?, Aggregation.at?, hold, hnew]
    · obtain ⟨agree, -⟩ := agree_of_named? holds hnews hold hnew
      simp only [Aggregation.writtenReference?, Aggregation.at?, hold, hnew, Option.bind_some]
      exact (aggregator_qualifies_iff hcollection hkind).mp agree
  | cons next path ih =>
    rcases named?_qualify h key with ⟨hold, hnew⟩ | ⟨old, new, hold, hnew, -, hchildren⟩
    · simp only [Aggregation.writtenReference?, Aggregation.at?, hold, hnew, Option.bind_none]
    · obtain ⟨-, inner, hinner, hinner'⟩ := agree_of_named? holds hnews hold hnew
      have hinside := ih hchildren hinner hinner' next
      simp only [Aggregation.writtenReference?] at hinside
      simp only [Aggregation.writtenReference?, Aggregation.at?, hold, hnew, Option.bind_some,
        hinside]

theorem sizeOf_children_lt {list : List Aggregation} {aggregation : Aggregation}
    (h : aggregation ∈ list) : sizeOf aggregation.children < sizeOf list := by
  have hmem := List.sizeOf_lt_of_mem h
  cases aggregation
  simp only [Aggregation.mk.sizeOf_spec] at hmem ⊢
  omega

theorem isEmpty_qualify {olds news : List Aggregation}
    (h : AggregationsQualify collection olds news) : olds.isEmpty = news.isEmpty := by
  cases h <;> rfl

/-- Lists with the same written references compile to the same. -/
theorem aggregations_eq_of_writtenReference? (hcollection : collection ≠ "")
    {olds news : List Aggregation} (h : AggregationsQualify collection olds news)
    (hwritten : ∀ key path, Aggregation.writtenReference? olds key path =
      Aggregation.writtenReference? news key path) :
    aggregations target collection olds = aggregations target collection news := by
  -- Both lists fail alike, so that their requests are left, which are compared key by key.
  have hfailure := failure?_aggregations_qualify target hcollection h
  cases holds : aggregations target collection olds with
  | error failure =>
    rw [holds] at hfailure
    exact (failure?_eq_some.mp hfailure.symm).symm
  | ok first =>
    cases hnews : aggregations target collection news with
    | error failure =>
      rw [holds, hnews] at hfailure
      cases hfailure
    | ok second =>
      congr 1
      apply Object.Sorted.ext (sorted_aggregations holds) (sorted_aggregations hnews)
      intro key
      rcases named?_qualify h key with ⟨hold, hnew⟩ | ⟨old, new, hold, hnew, hkind, hchildren⟩
      · rw [(get?_aggregations_eq_none holds).mpr hold, (get?_aggregations_eq_none hnews).mpr hnew]
      · obtain ⟨entry, hentry, hget⟩ := get?_aggregations holds hold
        obtain ⟨other, hother, hget'⟩ := get?_aggregations hnews hnew
        have hsmaller := sizeOf_children_lt (Aggregation.mem_of_named? hold).1
        -- A path below this key is a path of the children.
        have hinside := aggregations_eq_of_writtenReference? hcollection hchildren
          fun next path => by
            have hpath := hwritten key (next :: path)
            simpa only [Aggregation.writtenReference?, Aggregation.at?, hold, hnew,
              Option.bind_some] using hpath
        have hown : old.aggregator.writtenReference? = new.aggregator.writtenReference? := by
          have hpath := hwritten key []
          simpa only [Aggregation.writtenReference?, Aggregation.at?, hold, hnew,
            Option.bind_some] using hpath
        have hsame := aggregationEntry_congr
          ((Aggregation.mem_of_named? hold).2.trans (Aggregation.mem_of_named? hnew).2.symm)
          ((aggregator_qualifies_iff hcollection hkind).mpr hown) (isEmpty_qualify hchildren)
          hinside
        rw [hentry, hother] at hsame
        cases hsame
        rw [hget, hget']
termination_by sizeOf olds

/-- Qualified references leave compiled aggregations as they are exactly if the aggregations do not
compile, or no reference that a request holds as it is written is among them. -/
theorem aggregations_of_qualified_iff (target : Target) (hcollection : collection ≠ "")
    {olds news : List Aggregation} (h : AggregationsQualify collection olds news) :
    aggregations target collection olds = aggregations target collection news ↔
      (∃ failure, aggregations target collection olds = .error failure) ∨
        ∀ key path, Aggregation.writtenReference? olds key path =
          Aggregation.writtenReference? news key path := by
  constructor
  · intro heq
    cases holds : aggregations target collection olds with
    | error failure => exact .inl ⟨failure, rfl⟩
    | ok object => exact .inr (writtenReference?_eq hcollection h holds (heq ▸ holds))
  · rintro (⟨failure, holds⟩ | hwritten)
    · have hfailure := failure?_aggregations_qualify target hcollection h
      rw [holds] at hfailure
      rw [holds, failure?_eq_some.mp hfailure.symm]
    · exact aggregations_eq_of_writtenReference? hcollection h hwritten

/-- The posts of each month and how many authors they have, by the references to their fields. -/
def monthlyAuthors (created author : String) : List Aggregation :=
  [{ key := "months"
     aggregator := .ofCalendar created "month"
     children := [{ key := "authors", aggregator := .ofCardinality author }] }]

theorem aggregations_of_qualified_iff_monthlyAuthors :
    "posts" ≠ "" ∧
      AggregationsQualify "posts" (monthlyAuthors "created" "author")
        (monthlyAuthors "posts.created" "author") ∧
      aggregations {} "posts" (monthlyAuthors "created" "author") =
        aggregations {} "posts" (monthlyAuthors "posts.created" "author") := by
  have hcollection : "posts" ≠ "" := by decide
  have hcreated : (Aggregator.ofCalendar "created" "month").Qualifies "posts"
      ((Aggregator.ofCalendar "created" "month").withReference (qualified "posts" "created")) :=
    .reference rfl (by decide)
  have hqualify : AggregationsQualify "posts" (monthlyAuthors "created" "author")
      (monthlyAuthors "posts.created" "author") :=
    .cons hcreated (.cons (.same _) .nil .nil) .nil
  refine ⟨hcollection, hqualify,
    (aggregations_of_qualified_iff {} hcollection hqualify).mpr (.inr ?_)⟩
  intro key path
  by_cases hkey : "months" = key
  · subst hkey
    -- Behind the months both lists hold the same children.
    cases path <;> rfl
  · cases path <;>
      simp [Aggregation.writtenReference?, Aggregation.at?, Aggregation.named?, monthlyAuthors,
        hkey]

/-- The field of a cardinality, qualified, is sent qualified. -/
theorem qualified_cardinality_is_sent_qualified :
    AggregationsQualify "posts" (monthlyAuthors "created" "author")
        (monthlyAuthors "created" "posts.author") ∧
      aggregations {} "posts" (monthlyAuthors "created" "author") ≠
        aggregations {} "posts" (monthlyAuthors "created" "posts.author") := by
  have hauthor : (Aggregator.ofCardinality "author").Qualifies "posts"
      ((Aggregator.ofCardinality "author").withReference (qualified "posts" "author")) :=
    .reference rfl (by decide)
  have hqualify : AggregationsQualify "posts" (monthlyAuthors "created" "author")
      (monthlyAuthors "created" "posts.author") :=
    .cons (.same _) (.cons hauthor .nil .nil) .nil
  refine ⟨hqualify, fun heq => ?_⟩
  obtain ⟨object, hobject⟩ :
      ∃ object, aggregations {} "posts" (monthlyAuthors "created" "author") = .ok object :=
    ⟨_, rfl⟩
  have hsame := writtenReference?_eq (by decide) hqualify hobject (heq ▸ hobject) "months"
    ["authors"]
  exact absurd hsame (by decide)

end Dsl

end SearchQuery
