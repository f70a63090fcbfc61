import CouchbaseSdk.Search.Queries

/-!
# Reading search queries

A reader knows a query by the members it has, and takes every field by its name.  The fields of each
query are read back from what is sent for it.
-/

namespace CouchbaseSdk
namespace Search

open Foundation
open Foundation.JsonFields
open Foundation.JsonRecord (readBool readString readUnsigned)
open Foundation.JsonValue (get)
open Searchx (Floats)

variable {f32 f64 : Type}

/-!
# Kinds of queries
-/

inductive Kind where
  | matching | matchPhrase | regexp | queryString | numericRange | dateRange | termRange
  | conjunction | disjunction | boolean | wildcard | docID | booleanField | term | phrase
  | prefixed | matchAll | matchNone | geoDistance | geoBoundingBox | geoPolygon
deriving DecidableEq

namespace Kind

def all : List Kind :=
  [matching, matchPhrase, regexp, queryString, numericRange, dateRange, termRange, conjunction,
    disjunction, boolean, wildcard, docID, booleanField, term, phrase, prefixed, matchAll,
    matchNone, geoDistance, geoBoundingBox, geoPolygon]

theorem mem_all (k : Kind) : k ∈ all := by
  cases k <;> decide

/-- The names that a query of the kind may have. -/
def names : Kind -> List String
  | matching =>
      ["analyzer", "boost", "field", "fuzziness", "match", "operator", "prefix_length"]
  | matchPhrase => ["analyzer", "boost", "field", "match_phrase"]
  | regexp => ["boost", "field", "regexp"]
  | queryString => ["boost", "query"]
  | numericRange => ["boost", "field", "inclusive_min", "inclusive_max", "min", "max"]
  | dateRange =>
      ["boost", "field", "datetime_parser", "end", "inclusive_start", "inclusive_end", "start"]
  | termRange => ["boost", "field", "inclusive_min", "inclusive_max", "max", "min"]
  | conjunction => ["boost", "conjuncts"]
  | disjunction => ["boost", "min", "disjuncts"]
  | boolean => ["boost", "must", "must_not", "should"]
  | wildcard => ["boost", "field", "wildcard"]
  | docID => ["boost", "ids"]
  | booleanField => ["bool", "boost", "field"]
  | term => ["boost", "field", "fuzziness", "prefix_length", "term"]
  | phrase => ["boost", "field", "terms"]
  | prefixed => ["boost", "field", "prefix"]
  | matchAll => ["match_all"]
  | matchNone => ["match_none"]
  | geoDistance => ["boost", "field", "location", "distance"]
  | geoBoundingBox => ["boost", "field", "top_left", "bottom_right"]
  | geoPolygon => ["boost", "field", "polygon_points"]

/-- Names that only queries of one kind have. -/
def marks : List (String × Kind) :=
  [("match", matching), ("match_phrase", matchPhrase), ("regexp", regexp), ("query", queryString),
    ("start", dateRange), ("end", dateRange), ("conjuncts", conjunction),
    ("disjuncts", disjunction), ("must", boolean), ("must_not", boolean), ("should", boolean),
    ("wildcard", wildcard), ("ids", docID), ("bool", booleanField), ("term", term),
    ("terms", phrase), ("prefix", prefixed), ("match_all", matchAll), ("match_none", matchNone),
    ("distance", geoDistance), ("top_left", geoBoundingBox), ("polygon_points", geoPolygon)]

end Kind

/-- A range without any of these names is one of numbers or of terms, as its bounds are. -/
def rangeKind (v : JsonValue) : Option Kind :=
  match (get "min" v).or (get "max" v) with
  | some (.number _) => some .numericRange
  | some (.string _) => some .termRange
  | _ => none

def kindOf (v : JsonValue) : Option Kind :=
  match Kind.marks.find? fun mark => (get mark.1 v).isSome with
  | some mark => some mark.2
  | none => rangeKind v

/-!
# Reading
-/

def readOperator : JsonValue -> Option MatchOperator
  | .string "or" => some .or
  | .string "and" => some .and
  | _ => none

def readLocation (t : FloatText f64) : JsonValue -> Option (Location f64)
  | .array [lon, lat] => do
      let lon <- t.readValue lon
      let lat <- t.readValue lat
      return { lat := lat, lon := lon }
  | _ => none

/-- There are no other members than those of the kind. -/
def known (k : Kind) (v : JsonValue) : Bool :=
  (names v).all fun name => k.names.contains name

section Reading

variable (t : Floats f32 f64) (sub : JsonValue -> Option (Query f32 f64))

def readConjunction (v : JsonValue) : Option (ConjunctionQuery f32 (Query f32 f64)) := do
  guard (known .conjunction v)
  let boost <- optionalField t.single.readValue "boost" v
  let conjuncts <- requiredField (readArray sub) "conjuncts" v
  return { boost := boost, conjuncts := conjuncts }

def readDisjunction (v : JsonValue) : Option (DisjunctionQuery f32 (Query f32 f64)) := do
  guard (known .disjunction v)
  let boost <- optionalField t.single.readValue "boost" v
  let disjuncts <- requiredField (readArray sub) "disjuncts" v
  let min <- optionalField (readUnsigned (2 ^ 32) UInt32.ofNat) "min" v
  return { boost := boost, disjuncts := disjuncts, min := min }

/-- The fields of a query of the kind, with a reader for the queries in it. -/
def readFields (v : JsonValue) : Kind -> Option (Query f32 f64)
  | .matching => do
      let analyzer <- optionalField readString "analyzer" v
      let boost <- optionalField t.single.readValue "boost" v
      let field <- optionalField readString "field" v
      let fuzziness <- optionalField (readUnsigned (2 ^ 64) UInt64.ofNat) "fuzziness" v
      let matchInput <- requiredField readString "match" v
      let operator <- optionalField readOperator "operator" v
      let prefixLength <- optionalField (readUnsigned (2 ^ 64) UInt64.ofNat) "prefix_length" v
      return .matching
        { analyzer := analyzer, boost := boost, field := field, fuzziness := fuzziness
          matchInput := matchInput, operator := operator, prefixLength := prefixLength }
  | .matchPhrase => do
      let analyzer <- optionalField readString "analyzer" v
      let boost <- optionalField t.single.readValue "boost" v
      let field <- optionalField readString "field" v
      let matchPhrase <- requiredField readString "match_phrase" v
      return .matchPhrase
        { analyzer := analyzer, boost := boost, field := field, matchPhrase := matchPhrase }
  | .regexp => do
      let boost <- optionalField t.single.readValue "boost" v
      let field <- optionalField readString "field" v
      let regexp <- requiredField readString "regexp" v
      return .regexp { boost := boost, field := field, regexp := regexp }
  | .queryString => do
      let boost <- optionalField t.single.readValue "boost" v
      let query <- requiredField readString "query" v
      return .queryString { boost := boost, query := query }
  | .numericRange => do
      let boost <- optionalField t.single.readValue "boost" v
      let field <- optionalField readString "field" v
      let inclusiveMin <- optionalField readBool "inclusive_min" v
      let inclusiveMax <- optionalField readBool "inclusive_max" v
      let min <- optionalField t.single.readValue "min" v
      let max <- optionalField t.single.readValue "max" v
      return .numericRange
        { boost := boost, field := field, inclusiveMin := inclusiveMin
          inclusiveMax := inclusiveMax, min := min, max := max }
  | .dateRange => do
      let boost <- optionalField t.single.readValue "boost" v
      let field <- optionalField readString "field" v
      let datetimeParser <- optionalField readString "datetime_parser" v
      let end_ <- optionalField readString "end" v
      let inclusiveStart <- optionalField readBool "inclusive_start" v
      let inclusiveEnd <- optionalField readBool "inclusive_end" v
      let start <- optionalField readString "start" v
      return .dateRange
        { boost := boost, field := field, datetimeParser := datetimeParser, end_ := end_
          inclusiveStart := inclusiveStart, inclusiveEnd := inclusiveEnd, start := start }
  | .termRange => do
      let boost <- optionalField t.single.readValue "boost" v
      let field <- optionalField readString "field" v
      let inclusiveMin <- optionalField readBool "inclusive_min" v
      let inclusiveMax <- optionalField readBool "inclusive_max" v
      let max <- optionalField readString "max" v
      let min <- optionalField readString "min" v
      return .termRange
        { boost := boost, field := field, inclusiveMin := inclusiveMin
          inclusiveMax := inclusiveMax, max := max, min := min }
  | .conjunction => (readConjunction t sub v).map .conjunction
  | .disjunction => (readDisjunction t sub v).map .disjunction
  | .boolean => do
      let boost <- optionalField t.single.readValue "boost" v
      let must <- optionalField (readConjunction t sub) "must" v
      let mustNot <- optionalField (readDisjunction t sub) "must_not" v
      let should <- optionalField (readDisjunction t sub) "should" v
      return .boolean { boost := boost, must := must, mustNot := mustNot, should := should }
  | .wildcard => do
      let boost <- optionalField t.single.readValue "boost" v
      let field <- optionalField readString "field" v
      let wildcard <- requiredField readString "wildcard" v
      return .wildcard { boost := boost, field := field, wildcard := wildcard }
  | .docID => do
      let boost <- optionalField t.single.readValue "boost" v
      let ids <- requiredField (readArray readString) "ids" v
      return .docID { boost := boost, ids := ids }
  | .booleanField => do
      let boolValue <- requiredField readBool "bool" v
      let boost <- optionalField t.single.readValue "boost" v
      let field <- optionalField readString "field" v
      return .booleanField { boolValue := boolValue, boost := boost, field := field }
  | .term => do
      let boost <- optionalField t.single.readValue "boost" v
      let field <- optionalField readString "field" v
      let fuzziness <- optionalField (readUnsigned (2 ^ 32) UInt32.ofNat) "fuzziness" v
      let prefixLength <- optionalField (readUnsigned (2 ^ 32) UInt32.ofNat) "prefix_length" v
      let term <- requiredField readString "term" v
      return .term
        { boost := boost, field := field, fuzziness := fuzziness, prefixLength := prefixLength
          term := term }
  | .phrase => do
      let boost <- optionalField t.single.readValue "boost" v
      let field <- optionalField readString "field" v
      let terms <- requiredField (readArray readString) "terms" v
      return .phrase { boost := boost, field := field, terms := terms }
  | .prefixed => do
      let boost <- optionalField t.single.readValue "boost" v
      let field <- optionalField readString "field" v
      let text <- requiredField readString "prefix" v
      return .prefixed { boost := boost, field := field, text := text }
  | .matchAll => some .matchAll
  | .matchNone => some .matchNone
  | .geoDistance => do
      let boost <- optionalField t.single.readValue "boost" v
      let field <- optionalField readString "field" v
      let location <- requiredField (readLocation t.double) "location" v
      let distance <- requiredField readString "distance" v
      return .geoDistance
        { distance := distance, boost := boost, field := field, location := location }
  | .geoBoundingBox => do
      let boost <- optionalField t.single.readValue "boost" v
      let field <- optionalField readString "field" v
      let topLeft <- requiredField (readLocation t.double) "top_left" v
      let bottomRight <- requiredField (readLocation t.double) "bottom_right" v
      return .geoBoundingBox
        { bottomRight := bottomRight, boost := boost, field := field, topLeft := topLeft }
  | .geoPolygon => do
      let boost <- optionalField t.single.readValue "boost" v
      let field <- optionalField readString "field" v
      let polygonPoints <- requiredField (readArray (readLocation t.double)) "polygon_points" v
      return .geoPolygon { boost := boost, field := field, polygonPoints := polygonPoints }

end Reading

/-- A query of at most that depth. -/
def readQuery (t : Floats f32 f64) : Nat -> JsonValue -> Option (Query f32 f64)
  | 0, _ => none
  | depth + 1, v => do
      let kind <- kindOf v
      guard (known kind v)
      readFields t (readQuery t depth) v kind

/-!
# Well-formed queries
-/

mutual

/-- Every range has a bound, and every boolean query has a clause. -/
def Query.WellFormed : Query f32 f64 -> Prop
  | .numericRange q => q.min.isSome ∨ q.max.isSome
  | .dateRange q => q.start.isSome ∨ q.end_.isSome
  | .termRange q => q.min.isSome ∨ q.max.isSome
  | .conjunction q => WellFormedConjunction q
  | .disjunction q => WellFormedDisjunction q
  | .boolean q => WellFormedBoolean q
  | _ => True

def WellFormedConjunction : ConjunctionQuery f32 (Query f32 f64) -> Prop
  | ⟨_, conjuncts⟩ => AllWellFormed conjuncts

def WellFormedDisjunction : DisjunctionQuery f32 (Query f32 f64) -> Prop
  | ⟨_, disjuncts, _⟩ => AllWellFormed disjuncts

def WellFormedBoolean : BooleanQuery f32 (Query f32 f64) -> Prop
  | ⟨_, must, mustNot, should⟩ =>
      (must.isSome ∨ mustNot.isSome ∨ should.isSome) ∧
        WellFormedMust must ∧ WellFormedShould mustNot ∧ WellFormedShould should

def WellFormedMust : Option (ConjunctionQuery f32 (Query f32 f64)) -> Prop
  | none => True
  | some q => WellFormedConjunction q

def WellFormedShould : Option (DisjunctionQuery f32 (Query f32 f64)) -> Prop
  | none => True
  | some q => WellFormedDisjunction q

def AllWellFormed : List (Query f32 f64) -> Prop
  | [] => True
  | q :: rest => Query.WellFormed q ∧ AllWellFormed rest

end

def Query.kind : Query f32 f64 -> Kind
  | .matching _ => .matching
  | .matchPhrase _ => .matchPhrase
  | .regexp _ => .regexp
  | .queryString _ => .queryString
  | .numericRange _ => .numericRange
  | .dateRange _ => .dateRange
  | .termRange _ => .termRange
  | .conjunction _ => .conjunction
  | .disjunction _ => .disjunction
  | .boolean _ => .boolean
  | .wildcard _ => .wildcard
  | .docID _ => .docID
  | .booleanField _ => .booleanField
  | .term _ => .term
  | .phrase _ => .phrase
  | .prefixed _ => .prefixed
  | .matchAll => .matchAll
  | .matchNone => .matchNone
  | .geoDistance _ => .geoDistance
  | .geoBoundingBox _ => .geoBoundingBox
  | .geoPolygon _ => .geoPolygon

/-!
# The kind is read
-/

theorem Kind.nodup_names (k : Kind) : k.names.Nodup := by
  have hall : Kind.all.all (fun k => decide k.names.Nodup) = true := by
    decide +kernel
  exact of_decide_eq_true (List.all_eq_true.mp hall k k.mem_all)

/-- A name that marks one kind is a name of no other one. -/
theorem Kind.eq_of_mark {mark : String × Kind} (h : mark ∈ marks) {k : Kind}
    (hname : mark.1 ∈ k.names) : mark.2 = k := by
  have hall : Kind.marks.all (fun mark =>
      Kind.all.all fun k => !k.names.contains mark.1 || decide (mark.2 = k)) = true := by
    decide +kernel
  have hmark := List.all_eq_true.mp (List.all_eq_true.mp hall mark h) k k.mem_all
  rw [Bool.or_eq_true, decide_eq_true_eq, List.contains_iff_mem.mpr hname] at hmark
  rcases hmark with hfalse | heq
  · cases hfalse
  · exact heq

theorem mem_names_of_get {fields : Fields} {name : String}
    (h : (get name (record fields)).isSome = true) : name ∈ fields.map Prod.fst := by
  rcases Option.isSome_iff_exists.mp h with ⟨v, hv⟩
  rcases List.lookup_eq_some_iff.mp hv with ⟨front, back, heq, _⟩
  have hmem : (name, v) ∈ present fields := by
    rw [heq]
    exact List.mem_append_right front List.mem_cons_self
  exact List.mem_map.mpr ⟨_, mem_of_mem_present hmem, rfl⟩

theorem known_record {fields : Fields} {k : Kind} (h : fields.map Prod.fst = k.names) :
    known k (record fields) = true := by
  rw [known, List.all_eq_true]
  intro name hname
  rw [List.contains_iff_mem, ← h]
  exact names_record_subset fields hname

theorem kindOf_of_mark {fields : Fields} (mark : String × Kind) (hmark : mark ∈ Kind.marks)
    (h : fields.map Prod.fst = mark.2.names)
    (hvalue : (fields.lookup mark.1).join.isSome = true) :
    kindOf (record fields) = some mark.2 := by
  have hget : (get mark.1 (record fields)).isSome = true := by
    rw [get_record (h ▸ mark.2.nodup_names)]
    exact hvalue
  unfold kindOf
  split
  · next found hfind =>
      have hsome : (get found.1 (record fields)).isSome = true := by
        simpa using List.find?_some hfind
      have hname := mem_names_of_get hsome
      rw [h] at hname
      rw [Kind.eq_of_mark (List.mem_of_find?_eq_some hfind) hname]
  · next hfind => exact absurd hget (List.find?_eq_none.mp hfind mark hmark)

theorem kindOf_of_no_mark {fields : Fields} {k : Kind} (h : fields.map Prod.fst = k.names)
    (hmarks : forall mark, mark ∈ Kind.marks -> mark.2 ≠ k) :
    kindOf (record fields) = rangeKind (record fields) := by
  unfold kindOf
  split
  · next mark hfind =>
      have hsome : (get mark.1 (record fields)).isSome = true := by
        simpa using List.find?_some hfind
      have hname := mem_names_of_get hsome
      have hmem := List.mem_of_find?_eq_some hfind
      rw [h] at hname
      exact absurd (Kind.eq_of_mark hmem hname) (hmarks mark hmem)
  · rfl

theorem map_fst_fields (t : Floats f32 f64) (q : Query f32 f64) :
    (q.into.fields t).map Prod.fst = q.kind.names := by
  cases q with
  | matching | matchPhrase | regexp | queryString | numericRange | dateRange | termRange => rfl
  | conjunction q =>
      rcases q with ⟨boost, conjuncts⟩
      rfl
  | disjunction q =>
      rcases q with ⟨boost, disjuncts, min⟩
      rfl
  | boolean q =>
      rcases q with ⟨boost, must, mustNot, should⟩
      rfl
  | wildcard | docID | booleanField | term | phrase | prefixed | matchAll | matchNone => rfl
  | geoDistance | geoBoundingBox | geoPolygon => rfl

theorem get_serialize (t : Floats f32 f64) (q : Query f32 f64) (name : String) :
    get name (q.into.serialize t) = ((q.into.fields t).lookup name).join := by
  apply get_record
  rw [map_fst_fields]
  exact q.kind.nodup_names

/-!
# The fields are read
-/

section Fields

variable {v : JsonValue} {name : String}

theorem optional_string {o : Option String} (h : get name v = o.map .string) :
    optionalField readString name v = some o :=
  optionalField_of_get h fun _ _ => rfl

theorem optional_bool {o : Option Bool} (h : get name v = o.map .bool) :
    optionalField readBool name v = some o :=
  optionalField_of_get h fun _ _ => rfl

theorem optional_float {float : Type} {t : FloatText float} {o : Option float}
    (h : get name v = o.map t.value) : optionalField t.readValue name v = some o :=
  optionalField_of_get h fun x _ => t.readValue_value x

theorem optional_u32 {o : Option UInt32} (h : get name v = o.map fun n => .ofNat n.toNat) :
    optionalField (readUnsigned (2 ^ 32) UInt32.ofNat) name v = some o :=
  optionalField_of_get h fun n _ => readUnsigned_u32 n

theorem optional_u64 {o : Option UInt64} (h : get name v = o.map fun n => .ofNat n.toNat) :
    optionalField (readUnsigned (2 ^ 64) UInt64.ofNat) name v = some o :=
  optionalField_of_get h fun n _ => readUnsigned_u64 n

theorem required_string {s : String} (h : get name v = some (.string s)) :
    requiredField readString name v = some s :=
  requiredField_of_get h rfl

theorem required_bool {b : Bool} (h : get name v = some (.bool b)) :
    requiredField readBool name v = some b :=
  requiredField_of_get h rfl

theorem required_strings {l : List String} (h : get name v = some (Searchx.strings l)) :
    requiredField (readArray readString) name v = some l :=
  requiredField_of_get h (mapM_map fun _ _ => rfl)

theorem readLocation_serialize (t : FloatText f64) (l : Location f64) :
    readLocation t (l.into.serialize t) = some l := by
  show ((t.readValue (t.value l.lon)).bind fun lon =>
    (t.readValue (t.value l.lat)).bind fun lat =>
      some ({ lat := lat, lon := lon } : Location f64)) = some l
  rw [t.readValue_value, t.readValue_value]
  rfl

theorem required_location {t : FloatText f64} {l : Location f64}
    (h : get name v = some (l.into.serialize t)) :
    requiredField (readLocation t) name v = some l :=
  requiredField_of_get h (readLocation_serialize t l)

end Fields

section Queries

variable (t : Floats f32 f64) (sub : JsonValue -> Option (Query f32 f64))

theorem readFields_matching (q : MatchQuery f32) :
    readFields t sub ((Query.matching q).into.serialize t) .matching = some (.matching q) := by
  have hget := get_serialize t (.matching q)
  have hoperator : optionalField readOperator "operator" ((Query.matching q).into.serialize t) =
      some q.operator := by
    have hvalue : get "operator" ((Query.matching q).into.serialize t) =
        q.operator.map fun o => o.into.serialize :=
      (hget "operator").trans (Option.map_map _ _ _)
    apply optionalField_of_get hvalue
    intro o _
    cases o with
    | or => rfl
    | and => rfl
  simp only [readFields]
  rw [optional_string (o := q.analyzer) (hget "analyzer"),
    optional_float (o := q.boost) (hget "boost"), optional_string (o := q.field) (hget "field"),
    optional_u64 (o := q.fuzziness) (hget "fuzziness"),
    required_string (s := q.matchInput) (hget "match"), hoperator,
    optional_u64 (o := q.prefixLength) (hget "prefix_length")]
  rfl

theorem readFields_matchPhrase (q : MatchPhraseQuery f32) :
    readFields t sub ((Query.matchPhrase q).into.serialize t) .matchPhrase = some (.matchPhrase q) := by
  have hget := get_serialize t (.matchPhrase q)
  simp only [readFields]
  rw [optional_string (o := q.analyzer) (hget "analyzer"),
    optional_float (o := q.boost) (hget "boost"), optional_string (o := q.field) (hget "field"),
    required_string (s := q.matchPhrase) (hget "match_phrase")]
  rfl

theorem readFields_regexp (q : RegexpQuery f32) :
    readFields t sub ((Query.regexp q).into.serialize t) .regexp = some (.regexp q) := by
  have hget := get_serialize t (.regexp q)
  simp only [readFields]
  rw [optional_float (o := q.boost) (hget "boost"), optional_string (o := q.field) (hget "field"),
    required_string (s := q.regexp) (hget "regexp")]
  rfl

theorem readFields_queryString (q : QueryStringQuery f32) :
    readFields t sub ((Query.queryString q).into.serialize t) .queryString = some (.queryString q) := by
  have hget := get_serialize t (.queryString q)
  simp only [readFields]
  rw [optional_float (o := q.boost) (hget "boost"), required_string (s := q.query) (hget "query")]
  rfl

theorem readFields_numericRange (q : NumericRangeQuery f32) :
    readFields t sub ((Query.numericRange q).into.serialize t) .numericRange = some (.numericRange q) := by
  have hget := get_serialize t (.numericRange q)
  simp only [readFields]
  rw [optional_float (o := q.boost) (hget "boost"), optional_string (o := q.field) (hget "field"),
    optional_bool (o := q.inclusiveMin) (hget "inclusive_min"),
    optional_bool (o := q.inclusiveMax) (hget "inclusive_max"),
    optional_float (o := q.min) (hget "min"), optional_float (o := q.max) (hget "max")]
  rfl

theorem readFields_dateRange (q : DateRangeQuery f32) :
    readFields t sub ((Query.dateRange q).into.serialize t) .dateRange = some (.dateRange q) := by
  have hget := get_serialize t (.dateRange q)
  simp only [readFields]
  rw [optional_float (o := q.boost) (hget "boost"), optional_string (o := q.field) (hget "field"),
    optional_string (o := q.datetimeParser) (hget "datetime_parser"),
    optional_string (o := q.end_) (hget "end"),
    optional_bool (o := q.inclusiveStart) (hget "inclusive_start"),
    optional_bool (o := q.inclusiveEnd) (hget "inclusive_end"),
    optional_string (o := q.start) (hget "start")]
  rfl

theorem readFields_termRange (q : TermRangeQuery f32) :
    readFields t sub ((Query.termRange q).into.serialize t) .termRange = some (.termRange q) := by
  have hget := get_serialize t (.termRange q)
  simp only [readFields]
  rw [optional_float (o := q.boost) (hget "boost"), optional_string (o := q.field) (hget "field"),
    optional_bool (o := q.inclusiveMin) (hget "inclusive_min"),
    optional_bool (o := q.inclusiveMax) (hget "inclusive_max"),
    optional_string (o := q.max) (hget "max"), optional_string (o := q.min) (hget "min")]
  rfl

theorem readFields_wildcard (q : WildcardQuery f32) :
    readFields t sub ((Query.wildcard q).into.serialize t) .wildcard = some (.wildcard q) := by
  have hget := get_serialize t (.wildcard q)
  simp only [readFields]
  rw [optional_float (o := q.boost) (hget "boost"), optional_string (o := q.field) (hget "field"),
    required_string (s := q.wildcard) (hget "wildcard")]
  rfl

theorem readFields_docID (q : DocIDQuery f32) :
    readFields t sub ((Query.docID q).into.serialize t) .docID = some (.docID q) := by
  have hget := get_serialize t (.docID q)
  simp only [readFields]
  rw [optional_float (o := q.boost) (hget "boost"), required_strings (l := q.ids) (hget "ids")]
  rfl

theorem readFields_booleanField (q : BooleanFieldQuery f32) :
    readFields t sub ((Query.booleanField q).into.serialize t) .booleanField = some (.booleanField q) := by
  have hget := get_serialize t (.booleanField q)
  simp only [readFields]
  rw [required_bool (b := q.boolValue) (hget "bool"), optional_float (o := q.boost) (hget "boost"),
    optional_string (o := q.field) (hget "field")]
  rfl

theorem readFields_term (q : TermQuery f32) :
    readFields t sub ((Query.term q).into.serialize t) .term = some (.term q) := by
  have hget := get_serialize t (.term q)
  simp only [readFields]
  rw [optional_float (o := q.boost) (hget "boost"), optional_string (o := q.field) (hget "field"),
    optional_u32 (o := q.fuzziness) (hget "fuzziness"),
    optional_u32 (o := q.prefixLength) (hget "prefix_length"),
    required_string (s := q.term) (hget "term")]
  rfl

theorem readFields_phrase (q : PhraseQuery f32) :
    readFields t sub ((Query.phrase q).into.serialize t) .phrase = some (.phrase q) := by
  have hget := get_serialize t (.phrase q)
  simp only [readFields]
  rw [optional_float (o := q.boost) (hget "boost"), optional_string (o := q.field) (hget "field"),
    required_strings (l := q.terms) (hget "terms")]
  rfl

theorem readFields_prefixed (q : PrefixQuery f32) :
    readFields t sub ((Query.prefixed q).into.serialize t) .prefixed = some (.prefixed q) := by
  have hget := get_serialize t (.prefixed q)
  simp only [readFields]
  rw [optional_float (o := q.boost) (hget "boost"), optional_string (o := q.field) (hget "field"),
    required_string (s := q.text) (hget "prefix")]
  rfl

theorem readFields_geoDistance (q : GeoDistanceQuery f32 f64) :
    readFields t sub ((Query.geoDistance q).into.serialize t) .geoDistance = some (.geoDistance q) := by
  have hget := get_serialize t (.geoDistance q)
  simp only [readFields]
  rw [optional_float (o := q.boost) (hget "boost"), optional_string (o := q.field) (hget "field"),
    required_location (l := q.location) (hget "location"),
    required_string (s := q.distance) (hget "distance")]
  rfl

theorem readFields_geoBoundingBox (q : GeoBoundingBoxQuery f32 f64) :
    readFields t sub ((Query.geoBoundingBox q).into.serialize t) .geoBoundingBox = some (.geoBoundingBox q) := by
  have hget := get_serialize t (.geoBoundingBox q)
  simp only [readFields]
  rw [optional_float (o := q.boost) (hget "boost"), optional_string (o := q.field) (hget "field"),
    required_location (l := q.topLeft) (hget "top_left"),
    required_location (l := q.bottomRight) (hget "bottom_right")]
  rfl

theorem readFields_geoPolygon (q : GeoPolygonQuery f32 f64) :
    readFields t sub ((Query.geoPolygon q).into.serialize t) .geoPolygon = some (.geoPolygon q) := by
  have hget := get_serialize t (.geoPolygon q)
  have hpoints : requiredField (readArray (readLocation t.double)) "polygon_points"
      ((Query.geoPolygon q).into.serialize t) = some q.polygonPoints := by
    apply requiredField_of_get (hget "polygon_points")
    show ((q.polygonPoints.map Location.into).map (Searchx.Location.serialize t.double)).mapM
      (readLocation t.double) = some q.polygonPoints
    rw [List.map_map]
    exact mapM_map fun l _ => readLocation_serialize t.double l
  simp only [readFields]
  rw [optional_float (o := q.boost) (hget "boost"), optional_string (o := q.field) (hget "field"),
    hpoints]
  rfl

end Queries

end Search
end CouchbaseSdk
