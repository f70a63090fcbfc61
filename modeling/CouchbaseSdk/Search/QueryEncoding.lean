import Mathlib.Data.Option.Basic
import CouchbaseSdk.Search.QueryReading

/-!
# Search queries are written without loss

Each query is read back from what is sent for it, so that no two queries are sent alike.
-/

namespace CouchbaseSdk
namespace Search

open Foundation
open Foundation.JsonFields
open Foundation.JsonRecord (readBool readString readUnsigned)
open Foundation.JsonValue (get)
open Searchx (Floats)

variable {f32 f64 : Type}

/-!
# Whole queries
-/

theorem rangeKind_serialize {v : JsonValue} {k : Kind} {lower upper : Option JsonValue}
    (hlower : get "min" v = lower) (hupper : get "max" v = upper)
    (hsome : lower.isSome ∨ upper.isSome)
    (hkind : forall w, lower = some w ∨ upper = some w ->
      (exists n, w = .number n) ∧ k = .numericRange ∨ (exists s, w = .string s) ∧ k = .termRange) :
    rangeKind v = some k := by
  have hvalue : exists w, (get "min" v).or (get "max" v) = some w ∧
      (lower = some w ∨ upper = some w) := by
    rw [hlower, hupper]
    cases lower with
    | some w => exact ⟨w, rfl, Or.inl rfl⟩
    | none =>
        rcases hsome with h | h
        · cases h
        · rcases Option.isSome_iff_exists.mp h with ⟨w, rfl⟩
          exact ⟨w, rfl, Or.inr rfl⟩
  rcases hvalue with ⟨w, hw, hbound⟩
  unfold rangeKind
  rw [hw]
  rcases hkind w hbound with ⟨⟨n, rfl⟩, rfl⟩ | ⟨⟨s, rfl⟩, rfl⟩
  · rfl
  · rfl

theorem Kind.range_no_mark {k : Kind} (h : k = .numericRange ∨ k = .termRange) :
    forall mark, mark ∈ Kind.marks -> mark.2 ≠ k := by
  rcases h with rfl | rfl
  · decide
  · decide

theorem isSome_map {alpha : Type} {f : alpha -> JsonValue} {o : Option alpha}
    (h : o.isSome = true) : (o.map f).isSome = true := by
  rw [Option.isSome_map]
  exact h

theorem kindOf_serialize (t : Floats f32 f64) {q : Query f32 f64} (h : q.WellFormed) :
    kindOf (q.into.serialize t) = some q.kind := by
  have hnames := map_fst_fields t q
  cases q with
  | matching q => exact kindOf_of_mark ("match", .matching) (by decide) hnames rfl
  | matchPhrase q => exact kindOf_of_mark ("match_phrase", .matchPhrase) (by decide) hnames rfl
  | regexp q => exact kindOf_of_mark ("regexp", .regexp) (by decide) hnames rfl
  | queryString q => exact kindOf_of_mark ("query", .queryString) (by decide) hnames rfl
  | numericRange q =>
      have hget := get_serialize t (.numericRange q)
      refine (kindOf_of_no_mark hnames (Kind.range_no_mark (Or.inl rfl))).trans
        (rangeKind_serialize (hget "min") (hget "max") (h.imp isSome_map isSome_map) ?_)
      intro w hw
      refine Or.inl ⟨?_, rfl⟩
      rcases hw with hw | hw
      · rcases Option.map_eq_some_iff.mp hw with ⟨x, _, rfl⟩
        exact ⟨t.single.write x, rfl⟩
      · rcases Option.map_eq_some_iff.mp hw with ⟨x, _, rfl⟩
        exact ⟨t.single.write x, rfl⟩
  | dateRange q =>
      rcases h with h | h
      · exact kindOf_of_mark ("start", .dateRange) (by decide) hnames (isSome_map h)
      · exact kindOf_of_mark ("end", .dateRange) (by decide) hnames (isSome_map h)
  | termRange q =>
      have hget := get_serialize t (.termRange q)
      refine (kindOf_of_no_mark hnames (Kind.range_no_mark (Or.inr rfl))).trans
        (rangeKind_serialize (hget "min") (hget "max") (h.imp isSome_map isSome_map) ?_)
      intro w hw
      refine Or.inr ⟨?_, rfl⟩
      rcases hw with hw | hw
      · rcases Option.map_eq_some_iff.mp hw with ⟨s, _, rfl⟩
        exact ⟨s, rfl⟩
      · rcases Option.map_eq_some_iff.mp hw with ⟨s, _, rfl⟩
        exact ⟨s, rfl⟩
  | conjunction q =>
      rcases q with ⟨boost, conjuncts⟩
      exact kindOf_of_mark ("conjuncts", .conjunction) (by decide) hnames rfl
  | disjunction q =>
      rcases q with ⟨boost, disjuncts, min⟩
      exact kindOf_of_mark ("disjuncts", .disjunction) (by decide) hnames rfl
  | boolean q =>
      rcases q with ⟨boost, must, mustNot, should⟩
      rcases h.1 with h | h | h
      · rcases Option.isSome_iff_exists.mp h with ⟨c, rfl⟩
        exact kindOf_of_mark ("must", .boolean) (by decide) hnames rfl
      · rcases Option.isSome_iff_exists.mp h with ⟨d, rfl⟩
        exact kindOf_of_mark ("must_not", .boolean) (by decide) hnames rfl
      · rcases Option.isSome_iff_exists.mp h with ⟨d, rfl⟩
        exact kindOf_of_mark ("should", .boolean) (by decide) hnames rfl
  | wildcard q => exact kindOf_of_mark ("wildcard", .wildcard) (by decide) hnames rfl
  | docID q => exact kindOf_of_mark ("ids", .docID) (by decide) hnames rfl
  | booleanField q => exact kindOf_of_mark ("bool", .booleanField) (by decide) hnames rfl
  | term q => exact kindOf_of_mark ("term", .term) (by decide) hnames rfl
  | phrase q => exact kindOf_of_mark ("terms", .phrase) (by decide) hnames rfl
  | prefixed q => exact kindOf_of_mark ("prefix", .prefixed) (by decide) hnames rfl
  | matchAll => exact kindOf_of_mark ("match_all", .matchAll) (by decide) hnames rfl
  | matchNone => exact kindOf_of_mark ("match_none", .matchNone) (by decide) hnames rfl
  | geoDistance q => exact kindOf_of_mark ("distance", .geoDistance) (by decide) hnames rfl
  | geoBoundingBox q => exact kindOf_of_mark ("top_left", .geoBoundingBox) (by decide) hnames rfl
  | geoPolygon q => exact kindOf_of_mark ("polygon_points", .geoPolygon) (by decide) hnames rfl

theorem readQuery_succ (t : Floats f32 f64) {q : Query f32 f64} (h : q.WellFormed) {depth : Nat}
    (hfields : readFields t (readQuery t depth) (q.into.serialize t) q.kind = some q) :
    readQuery t (depth + 1) (q.into.serialize t) = some q := by
  rw [readQuery, kindOf_serialize t h]
  show (guard (known q.kind (q.into.serialize t) = true) >>= fun _ =>
    readFields t (readQuery t depth) (q.into.serialize t) q.kind) = some q
  rw [hfields, Searchx.Query.serialize, known_record (map_fst_fields t q)]
  rfl

/-- A query is read from some depth on. -/
def ReadFrom (t : Floats f32 f64) (q : Query f32 f64) : Prop :=
  exists n, forall m, n ≤ m -> readQuery t m (q.into.serialize t) = some q

theorem readFrom_of_leaf (t : Floats f32 f64) {q : Query f32 f64} (h : q.WellFormed)
    (hfields : forall sub, readFields t sub (q.into.serialize t) q.kind = some q) :
    ReadFrom t q := by
  refine ⟨1, ?_⟩
  intro m hm
  rcases Nat.exists_eq_add_of_le' hm with ⟨depth, rfl⟩
  exact readQuery_succ t h (hfields (readQuery t depth))

section Clauses

variable {t : Floats f32 f64} {sub : JsonValue -> Option (Query f32 f64)}

theorem readConjunction_record {boost : Option f32} {conjuncts : List (Query f32 f64)}
    (h : (Searchx.serializeAll t (intoAll conjuncts)).mapM sub = some conjuncts) :
    readConjunction t sub (record (Searchx.conjunctionFields t (intoConjunction
      ⟨boost, conjuncts⟩))) = some ⟨boost, conjuncts⟩ := by
  have hget : forall name, get name (record (Searchx.conjunctionFields t (intoConjunction
      ⟨boost, conjuncts⟩))) = _ := get_serialize t (.conjunction ⟨boost, conjuncts⟩)
  have hknown : known .conjunction (record (Searchx.conjunctionFields t (intoConjunction
      ⟨boost, conjuncts⟩))) = true :=
    known_record (map_fst_fields t (.conjunction ⟨boost, conjuncts⟩))
  unfold readConjunction
  rw [hknown, optional_float (o := boost) (hget "boost"),
    requiredField_of_get (a := conjuncts) (hget "conjuncts") h]
  rfl

theorem readDisjunction_record {boost : Option f32} {disjuncts : List (Query f32 f64)}
    {min : Option UInt32}
    (h : (Searchx.serializeAll t (intoAll disjuncts)).mapM sub = some disjuncts) :
    readDisjunction t sub (record (Searchx.disjunctionFields t (intoDisjunction
      ⟨boost, disjuncts, min⟩))) = some ⟨boost, disjuncts, min⟩ := by
  have hget : forall name, get name (record (Searchx.disjunctionFields t (intoDisjunction
      ⟨boost, disjuncts, min⟩))) = _ := get_serialize t (.disjunction ⟨boost, disjuncts, min⟩)
  have hknown : known .disjunction (record (Searchx.disjunctionFields t (intoDisjunction
      ⟨boost, disjuncts, min⟩))) = true :=
    known_record (map_fst_fields t (.disjunction ⟨boost, disjuncts, min⟩))
  unfold readDisjunction
  rw [hknown, optional_float (o := boost) (hget "boost"),
    requiredField_of_get (a := disjuncts) (hget "disjuncts") h,
    optional_u32 (o := min) (hget "min")]
  rfl

end Clauses

mutual

theorem readFrom (t : Floats f32 f64) : (q : Query f32 f64) -> q.WellFormed -> ReadFrom t q
  | .matching q, h => readFrom_of_leaf t h fun sub => readFields_matching t sub q
  | .matchPhrase q, h => readFrom_of_leaf t h fun sub => readFields_matchPhrase t sub q
  | .regexp q, h => readFrom_of_leaf t h fun sub => readFields_regexp t sub q
  | .queryString q, h => readFrom_of_leaf t h fun sub => readFields_queryString t sub q
  | .numericRange q, h => readFrom_of_leaf t h fun sub => readFields_numericRange t sub q
  | .dateRange q, h => readFrom_of_leaf t h fun sub => readFields_dateRange t sub q
  | .termRange q, h => readFrom_of_leaf t h fun sub => readFields_termRange t sub q
  | .conjunction q, h => by
      rcases readFrom_conjunction t q h with ⟨n, hn⟩
      refine ⟨n + 1, ?_⟩
      intro m hm
      rcases Nat.exists_eq_add_of_le' (Nat.le_of_add_left_le hm) with ⟨depth, rfl⟩
      apply readQuery_succ t h
      show (readConjunction t (readQuery t depth) _).map Query.conjunction = _
      exact congrArg (Option.map Query.conjunction) (hn depth (Nat.le_of_succ_le_succ hm))
  | .disjunction q, h => by
      rcases readFrom_disjunction t q h with ⟨n, hn⟩
      refine ⟨n + 1, ?_⟩
      intro m hm
      rcases Nat.exists_eq_add_of_le' (Nat.le_of_add_left_le hm) with ⟨depth, rfl⟩
      apply readQuery_succ t h
      show (readDisjunction t (readQuery t depth) _).map Query.disjunction = _
      exact congrArg (Option.map Query.disjunction) (hn depth (Nat.le_of_succ_le_succ hm))
  | .boolean q, h => readFrom_boolean t q h
  | .wildcard q, h => readFrom_of_leaf t h fun sub => readFields_wildcard t sub q
  | .docID q, h => readFrom_of_leaf t h fun sub => readFields_docID t sub q
  | .booleanField q, h => readFrom_of_leaf t h fun sub => readFields_booleanField t sub q
  | .term q, h => readFrom_of_leaf t h fun sub => readFields_term t sub q
  | .phrase q, h => readFrom_of_leaf t h fun sub => readFields_phrase t sub q
  | .prefixed q, h => readFrom_of_leaf t h fun sub => readFields_prefixed t sub q
  | .matchAll, h => readFrom_of_leaf t h fun _ => rfl
  | .matchNone, h => readFrom_of_leaf t h fun _ => rfl
  | .geoDistance q, h => readFrom_of_leaf t h fun sub => readFields_geoDistance t sub q
  | .geoBoundingBox q, h => readFrom_of_leaf t h fun sub => readFields_geoBoundingBox t sub q
  | .geoPolygon q, h => readFrom_of_leaf t h fun sub => readFields_geoPolygon t sub q

theorem readFrom_conjunction (t : Floats f32 f64) :
    (q : ConjunctionQuery f32 (Query f32 f64)) -> WellFormedConjunction q ->
      exists n, forall m, n ≤ m -> readConjunction t (readQuery t m)
        (record (Searchx.conjunctionFields t (intoConjunction q))) = some q
  | ⟨_, conjuncts⟩, h => by
      rcases readFrom_all t conjuncts h with ⟨n, hn⟩
      exact ⟨n, fun m hm => readConjunction_record (hn m hm)⟩

theorem readFrom_disjunction (t : Floats f32 f64) :
    (q : DisjunctionQuery f32 (Query f32 f64)) -> WellFormedDisjunction q ->
      exists n, forall m, n ≤ m -> readDisjunction t (readQuery t m)
        (record (Searchx.disjunctionFields t (intoDisjunction q))) = some q
  | ⟨_, disjuncts, _⟩, h => by
      rcases readFrom_all t disjuncts h with ⟨n, hn⟩
      exact ⟨n, fun m hm => readDisjunction_record (hn m hm)⟩

theorem readFrom_boolean (t : Floats f32 f64) :
    (q : BooleanQuery f32 (Query f32 f64)) -> WellFormedBoolean q -> ReadFrom t (.boolean q)
  | ⟨boost, must, mustNot, should⟩, h => by
      rcases readFrom_must t must h.2.1 with ⟨n, hn⟩
      rcases readFrom_should t mustNot h.2.2.1 with ⟨n', hn'⟩
      rcases readFrom_should t should h.2.2.2 with ⟨n'', hn''⟩
      refine ⟨max n (max n' n'') + 1, ?_⟩
      intro m hm
      rcases Nat.exists_eq_add_of_le' (Nat.le_of_add_left_le hm) with ⟨depth, rfl⟩
      have hdepth := Nat.max_le.mp (Nat.le_of_succ_le_succ hm)
      have hdepth' := Nat.max_le.mp hdepth.2
      have hget := get_serialize t (.boolean ⟨boost, must, mustNot, should⟩)
      apply readQuery_succ t (q := .boolean ⟨boost, must, mustNot, should⟩) h
      simp only [Query.kind, readFields]
      rw [optional_float (o := boost) (hget "boost"), hn depth hdepth.1 _ _ (hget "must"),
        hn' depth hdepth'.1 _ _ (hget "must_not"), hn'' depth hdepth'.2 _ _ (hget "should")]
      rfl

theorem readFrom_must (t : Floats f32 f64) :
    (o : Option (ConjunctionQuery f32 (Query f32 f64))) -> WellFormedMust o ->
      exists n, forall m, n ≤ m -> forall name v,
        get name v = Searchx.mustValue t (intoMust o) ->
          optionalField (readConjunction t (readQuery t m)) name v = some o
  | none, _ => ⟨0, fun m _ name v hget => by
      rw [optionalField, hget]
      rfl⟩
  | some q, h => by
      rcases readFrom_conjunction t q h with ⟨n, hn⟩
      refine ⟨n, ?_⟩
      intro m hm name v hget
      have hvalue : get name v =
          some (record (Searchx.conjunctionFields t (intoConjunction q))) := hget
      rw [optionalField, hvalue]
      exact congrArg (Option.map some) (hn m hm)

theorem readFrom_should (t : Floats f32 f64) :
    (o : Option (DisjunctionQuery f32 (Query f32 f64))) -> WellFormedShould o ->
      exists n, forall m, n ≤ m -> forall name v,
        get name v = Searchx.shouldValue t (intoShould o) ->
          optionalField (readDisjunction t (readQuery t m)) name v = some o
  | none, _ => ⟨0, fun m _ name v hget => by
      rw [optionalField, hget]
      rfl⟩
  | some q, h => by
      rcases readFrom_disjunction t q h with ⟨n, hn⟩
      refine ⟨n, ?_⟩
      intro m hm name v hget
      have hvalue : get name v =
          some (record (Searchx.disjunctionFields t (intoDisjunction q))) := hget
      rw [optionalField, hvalue]
      exact congrArg (Option.map some) (hn m hm)

theorem readFrom_all (t : Floats f32 f64) : (qs : List (Query f32 f64)) -> AllWellFormed qs ->
    exists n, forall m, n ≤ m ->
      (Searchx.serializeAll t (intoAll qs)).mapM (readQuery t m) = some qs
  | [], _ => ⟨0, fun _ _ => rfl⟩
  | q :: rest, h => by
      rcases readFrom t q h.1 with ⟨n, hn⟩
      rcases readFrom_all t rest h.2 with ⟨n', hn'⟩
      refine ⟨max n n', ?_⟩
      intro m hm
      show (Searchx.Query.serialize t q.into ::
        Searchx.serializeAll t (intoAll rest)).mapM (readQuery t m) = some (q :: rest)
      rw [List.mapM_cons, hn m (le_trans (Nat.le_max_left n n') hm),
        hn' m (le_trans (Nat.le_max_right n n') hm)]
      rfl

end

/-!
# The members that are there
-/

/-- The names of the fields of a query, with those that are set. -/
def Query.given : Query f32 f64 -> List (String × Bool)
  | .matching q =>
      [("analyzer", q.analyzer.isSome), ("boost", q.boost.isSome), ("field", q.field.isSome),
        ("fuzziness", q.fuzziness.isSome), ("match", true), ("operator", q.operator.isSome),
        ("prefix_length", q.prefixLength.isSome)]
  | .matchPhrase q =>
      [("analyzer", q.analyzer.isSome), ("boost", q.boost.isSome), ("field", q.field.isSome),
        ("match_phrase", true)]
  | .regexp q => [("boost", q.boost.isSome), ("field", q.field.isSome), ("regexp", true)]
  | .queryString q => [("boost", q.boost.isSome), ("query", true)]
  | .numericRange q =>
      [("boost", q.boost.isSome), ("field", q.field.isSome),
        ("inclusive_min", q.inclusiveMin.isSome), ("inclusive_max", q.inclusiveMax.isSome),
        ("min", q.min.isSome), ("max", q.max.isSome)]
  | .dateRange q =>
      [("boost", q.boost.isSome), ("field", q.field.isSome),
        ("datetime_parser", q.datetimeParser.isSome), ("end", q.end_.isSome),
        ("inclusive_start", q.inclusiveStart.isSome), ("inclusive_end", q.inclusiveEnd.isSome),
        ("start", q.start.isSome)]
  | .termRange q =>
      [("boost", q.boost.isSome), ("field", q.field.isSome),
        ("inclusive_min", q.inclusiveMin.isSome), ("inclusive_max", q.inclusiveMax.isSome),
        ("max", q.max.isSome), ("min", q.min.isSome)]
  | .conjunction q => [("boost", q.boost.isSome), ("conjuncts", true)]
  | .disjunction q => [("boost", q.boost.isSome), ("min", q.min.isSome), ("disjuncts", true)]
  | .boolean q =>
      [("boost", q.boost.isSome), ("must", q.must.isSome), ("must_not", q.mustNot.isSome),
        ("should", q.should.isSome)]
  | .wildcard q => [("boost", q.boost.isSome), ("field", q.field.isSome), ("wildcard", true)]
  | .docID q => [("boost", q.boost.isSome), ("ids", true)]
  | .booleanField q => [("bool", true), ("boost", q.boost.isSome), ("field", q.field.isSome)]
  | .term q =>
      [("boost", q.boost.isSome), ("field", q.field.isSome), ("fuzziness", q.fuzziness.isSome),
        ("prefix_length", q.prefixLength.isSome), ("term", true)]
  | .phrase q => [("boost", q.boost.isSome), ("field", q.field.isSome), ("terms", true)]
  | .prefixed q => [("boost", q.boost.isSome), ("field", q.field.isSome), ("prefix", true)]
  | .matchAll => [("match_all", true)]
  | .matchNone => [("match_none", true)]
  | .geoDistance q =>
      [("boost", q.boost.isSome), ("field", q.field.isSome), ("location", true),
        ("distance", true)]
  | .geoBoundingBox q =>
      [("boost", q.boost.isSome), ("field", q.field.isSome), ("top_left", true),
        ("bottom_right", true)]
  | .geoPolygon q =>
      [("boost", q.boost.isSome), ("field", q.field.isSome), ("polygon_points", true)]

theorem isSome_mustValue (t : Floats f32 f64) (o : Option (ConjunctionQuery f32 (Query f32 f64))) :
    (Searchx.mustValue t (intoMust o)).isSome = o.isSome := by
  cases o with
  | none => rfl
  | some q => rfl

theorem isSome_shouldValue (t : Floats f32 f64)
    (o : Option (DisjunctionQuery f32 (Query f32 f64))) :
    (Searchx.shouldValue t (intoShould o)).isSome = o.isSome := by
  cases o with
  | none => rfl
  | some q => rfl

theorem given_fields (t : Floats f32 f64) (q : Query f32 f64) :
    (q.into.fields t).map (fun field => (field.1, field.2.isSome)) = q.given := by
  cases q with
  | conjunction q =>
      rcases q with ⟨boost, conjuncts⟩
      show [("boost", (boost.map t.single.value).isSome), ("conjuncts", true)] = _
      rw [Option.isSome_map]
      rfl
  | disjunction q =>
      rcases q with ⟨boost, disjuncts, min⟩
      show [("boost", (boost.map t.single.value).isSome),
        ("min", (min.map fun n => JsonValue.ofNat n.toNat).isSome), ("disjuncts", true)] = _
      rw [Option.isSome_map, Option.isSome_map]
      rfl
  | boolean q =>
      rcases q with ⟨boost, must, mustNot, should⟩
      show [("boost", (boost.map t.single.value).isSome),
        ("must", (Searchx.mustValue t (intoMust must)).isSome),
        ("must_not", (Searchx.shouldValue t (intoShould mustNot)).isSome),
        ("should", (Searchx.shouldValue t (intoShould should)).isSome)] = _
      rw [Option.isSome_map, isSome_mustValue, isSome_shouldValue, isSome_shouldValue]
      rfl
  | matching q =>
      simp [Query.into, Searchx.Query.fields, MatchQuery.into, Searchx.MatchQuery.fields,
        Searchx.MatchQuery.new, Query.given]
  | matchPhrase q =>
      simp [Query.into, Searchx.Query.fields, MatchPhraseQuery.into, Searchx.MatchPhraseQuery.fields,
        Searchx.MatchPhraseQuery.new, Query.given]
  | regexp q =>
      simp [Query.into, Searchx.Query.fields, RegexpQuery.into, Searchx.RegexpQuery.fields,
        Searchx.RegexpQuery.new, Query.given]
  | queryString q =>
      simp [Query.into, Searchx.Query.fields, QueryStringQuery.into, Searchx.QueryStringQuery.fields,
        Searchx.QueryStringQuery.new, Query.given]
  | numericRange q =>
      simp [Query.into, Searchx.Query.fields, NumericRangeQuery.into, Searchx.NumericRangeQuery.fields,
        Query.given]
  | dateRange q =>
      simp [Query.into, Searchx.Query.fields, DateRangeQuery.into, Searchx.DateRangeQuery.fields,
        Query.given]
  | termRange q =>
      simp [Query.into, Searchx.Query.fields, TermRangeQuery.into, Searchx.TermRangeQuery.fields,
        Query.given]
  | wildcard q =>
      simp [Query.into, Searchx.Query.fields, WildcardQuery.into, Searchx.WildcardQuery.fields,
        Searchx.WildcardQuery.new, Query.given]
  | docID q =>
      simp [Query.into, Searchx.Query.fields, DocIDQuery.into, Searchx.DocIDQuery.fields,
        Searchx.DocIDQuery.new, Query.given]
  | booleanField q =>
      simp [Query.into, Searchx.Query.fields, BooleanFieldQuery.into, Searchx.BooleanFieldQuery.fields,
        Searchx.BooleanFieldQuery.new, Query.given]
  | term q =>
      simp [Query.into, Searchx.Query.fields, TermQuery.into, Searchx.TermQuery.fields,
        Searchx.TermQuery.new, Query.given]
  | phrase q =>
      simp [Query.into, Searchx.Query.fields, PhraseQuery.into, Searchx.PhraseQuery.fields,
        Searchx.PhraseQuery.new, Query.given]
  | prefixed q =>
      simp [Query.into, Searchx.Query.fields, PrefixQuery.into, Searchx.PrefixQuery.fields,
        Searchx.PrefixQuery.new, Query.given]
  | geoDistance q =>
      simp [Query.into, Searchx.Query.fields, GeoDistanceQuery.into, Searchx.GeoDistanceQuery.fields,
        Searchx.GeoDistanceQuery.new, Query.given]
  | geoBoundingBox q =>
      simp [Query.into, Searchx.Query.fields, GeoBoundingBoxQuery.into, Searchx.GeoBoundingBoxQuery.fields,
        Searchx.GeoBoundingBoxQuery.new, Query.given]
  | geoPolygon q =>
      simp [Query.into, Searchx.Query.fields, GeoPolygonQuery.into, Searchx.GeoPolygonQuery.fields,
        Searchx.GeoPolygonQuery.new, Query.given]
  | matchAll | matchNone => rfl

theorem mem_names_serialize (t : Floats f32 f64) (q : Query f32 f64) (name : String) :
    name ∈ names (q.into.serialize t) <-> (name, true) ∈ q.given := by
  rw [← given_fields t q]
  exact mem_names_record

/-!
# Vector queries
-/

def vectorNames : List String :=
  ["boost", "field", "k", "vector", "vector_base64", "filter"]

def readVectorQuery (t : Floats f32 f64) (sub : JsonValue -> Option (Query f32 f64))
    (v : JsonValue) : Option (VectorQuery f32 f64) := do
  guard ((names v).all fun name => vectorNames.contains name)
  let boost <- optionalField t.single.readValue "boost" v
  let fieldName <- requiredField readString "field" v
  let numCandidates <- requiredField (readUnsigned (2 ^ 32) UInt32.ofNat) "k" v
  let query <- optionalField (readArray t.single.readValue) "vector" v
  let base64Query <- optionalField readString "vector_base64" v
  let prefilter <- optionalField sub "filter" v
  return { fieldName := fieldName, numCandidates := numCandidates, query := query
           base64Query := base64Query, boost := boost, prefilter := prefilter }

/-- What a vector query becomes if it is accepted. -/
def VectorQuery.knn (value : VectorQuery f32 f64) : Searchx.KnnQuery f32 f64 :=
  { boost := value.boost, field := value.fieldName, k := value.numCandidates.toNat
    vector := value.query, vectorBase64 := value.base64Query
    filter := value.prefilter.map Query.into }

theorem tryInto_eq_ok {value : VectorQuery f32 f64} {knn : Searchx.KnnQuery f32 f64}
    (h : value.tryInto = .ok knn) : knn = value.knn := by
  unfold VectorQuery.tryInto at h
  split_ifs at h
  cases h
  rfl

theorem readFrom_vector (t : Floats f32 f64) (value : VectorQuery f32 f64)
    (h : forall q, value.prefilter = some q -> q.WellFormed) :
    exists n, forall m, n ≤ m ->
      readVectorQuery t (readQuery t m) (value.knn.serialize t) = some value := by
  have hfilter : exists n, forall m, n ≤ m -> forall q, value.prefilter = some q ->
      readQuery t m (q.into.serialize t) = some q := by
    cases hq : value.prefilter with
    | none => exact ⟨0, fun _ _ q hq => by cases hq⟩
    | some q =>
        rcases readFrom t q (h q hq) with ⟨n, hn⟩
        refine ⟨n, ?_⟩
        intro m hm q' hq'
        cases hq'
        exact hn m hm
  have hnodup : ((value.knn.fields t).map Prod.fst).Nodup := by
    show vectorNames.Nodup
    decide
  have hget : forall name, get name (value.knn.serialize t) =
      ((value.knn.fields t).lookup name).join := fun name => get_record hnodup name
  have hnames : (names (value.knn.serialize t)).all (fun name => vectorNames.contains name) =
      true := by
    rw [List.all_eq_true]
    intro name hname
    exact List.contains_iff_mem.mpr (names_record_subset (value.knn.fields t) hname)
  rcases hfilter with ⟨n, hn⟩
  refine ⟨n, ?_⟩
  intro m hm
  have hvector : optionalField (readArray t.single.readValue) "vector" (value.knn.serialize t) =
      some value.query := by
    apply optionalField_of_get (hget "vector")
    intro v _
    exact mapM_map fun x _ => t.single.readValue_value x
  have hprefilter : optionalField (readQuery t m) "filter" (value.knn.serialize t) =
      some value.prefilter := by
    have hvalue : get "filter" (value.knn.serialize t) =
        value.prefilter.map fun q => q.into.serialize t :=
      (hget "filter").trans (Option.map_map _ _ _)
    exact optionalField_of_get hvalue (hn m hm)
  have hk : requiredField (readUnsigned (2 ^ 32) UInt32.ofNat) "k" (value.knn.serialize t) =
      some value.numCandidates :=
    requiredField_of_get (hget "k") (readUnsigned_u32 value.numCandidates)
  unfold readVectorQuery
  rw [hnames, optional_float (o := value.boost) (hget "boost"),
    required_string (s := value.fieldName) (hget "field"), hk, hvector,
    optional_string (o := value.base64Query) (hget "vector_base64"), hprefilter]
  rfl

/-!
# Nothing is lost
-/

theorem serialize_injective (t : Floats f32 f64) {q q' : Query f32 f64} (h : q.WellFormed)
    (h' : q'.WellFormed) (heq : q.into.serialize t = q'.into.serialize t) : q = q' := by
  rcases readFrom t q h with ⟨n, hn⟩
  rcases readFrom t q' h' with ⟨n', hn'⟩
  have hread := hn (max n n') (Nat.le_max_left n n')
  rw [heq, hn' (max n n') (Nat.le_max_right n n')] at hread
  exact (Option.some.inj hread).symm

/-- Each query is read back from what is sent, no two are sent alike, and the members that are
there are those of the fields that are set.  So it is for vector queries with a pre-filter. -/
theorem queries_lossless (t : Floats f32 f64) :
    (forall q : Query f32 f64, q.WellFormed ->
      (exists n, forall m, n ≤ m -> readQuery t m (q.into.serialize t) = some q) ∧
        (forall q' : Query f32 f64, q'.WellFormed ->
          q.into.serialize t = q'.into.serialize t -> q = q') ∧
        forall name, name ∈ names (q.into.serialize t) <-> (name, true) ∈ q.given) ∧
      forall (value : VectorQuery f32 f64) (knn : Searchx.KnnQuery f32 f64),
        (forall q, value.prefilter = some q -> q.WellFormed) -> value.tryInto = .ok knn ->
          exists n, forall m, n ≤ m ->
            readVectorQuery t (readQuery t m) (knn.serialize t) = some value := by
  constructor
  · intro q h
    exact ⟨readFrom t q h, fun q' h' heq => serialize_injective t h h' heq,
      mem_names_serialize t q⟩
  · intro value knn h hknn
    rw [tryInto_eq_ok hknn]
    exact readFrom_vector t value h

end Search
end CouchbaseSdk
