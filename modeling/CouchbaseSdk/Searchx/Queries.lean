import CouchbaseSdk.Foundation.JsonFields

/-!
# Search queries of the core

The queries as they are sent.  They have no tag: a query is written as the object of its fields.
-/

namespace CouchbaseSdk
namespace Searchx

open Foundation
open Foundation.JsonFields

/-- How the two types of floats are written. -/
structure Floats (f32 f64 : Type) where
  single : FloatText f32
  double : FloatText f64

variable {f32 f64 query : Type}

/-!
# Values
-/

structure Location (f64 : Type) where
  lat : f64
  lon : f64

def Location.new (lat lon : f64) : Location f64 :=
  { lat := lat, lon := lon }

/-- The longitude comes first. -/
def Location.serialize (t : FloatText f64) (l : Location f64) : JsonValue :=
  .array [t.value l.lon, t.value l.lat]

inductive MatchOperator where
  | or
  | and
deriving DecidableEq

def MatchOperator.serialize : MatchOperator -> JsonValue
  | or => .string "or"
  | and => .string "and"

def strings (items : List String) : JsonValue :=
  .array (items.map JsonValue.string)

/-!
# Queries without sub-queries
-/

structure MatchQuery (f32 : Type) where
  analyzer : Option String
  boost : Option f32
  field : Option String
  fuzziness : Option UInt64
  matchInput : String
  operator : Option MatchOperator
  prefixLength : Option UInt64

def MatchQuery.new (matchInput : String) : MatchQuery f32 :=
  { analyzer := none, boost := none, field := none, fuzziness := none, matchInput := matchInput
    operator := none, prefixLength := none }

def MatchQuery.fields (t : FloatText f32) (q : MatchQuery f32) : Fields :=
  [("analyzer", q.analyzer.map .string), ("boost", q.boost.map t.value),
    ("field", q.field.map .string), ("fuzziness", q.fuzziness.map fun n => .ofNat n.toNat),
    ("match", some (.string q.matchInput)), ("operator", q.operator.map MatchOperator.serialize),
    ("prefix_length", q.prefixLength.map fun n => .ofNat n.toNat)]

structure MatchPhraseQuery (f32 : Type) where
  analyzer : Option String
  boost : Option f32
  field : Option String
  matchPhrase : String

def MatchPhraseQuery.new (matchPhrase : String) : MatchPhraseQuery f32 :=
  { analyzer := none, boost := none, field := none, matchPhrase := matchPhrase }

def MatchPhraseQuery.fields (t : FloatText f32) (q : MatchPhraseQuery f32) : Fields :=
  [("analyzer", q.analyzer.map .string), ("boost", q.boost.map t.value),
    ("field", q.field.map .string), ("match_phrase", some (.string q.matchPhrase))]

structure RegexpQuery (f32 : Type) where
  boost : Option f32
  field : Option String
  regexp : String

def RegexpQuery.new (regexp : String) : RegexpQuery f32 :=
  { boost := none, field := none, regexp := regexp }

def RegexpQuery.fields (t : FloatText f32) (q : RegexpQuery f32) : Fields :=
  [("boost", q.boost.map t.value), ("field", q.field.map .string),
    ("regexp", some (.string q.regexp))]

structure QueryStringQuery (f32 : Type) where
  boost : Option f32
  query : String

def QueryStringQuery.new (query : String) : QueryStringQuery f32 :=
  { boost := none, query := query }

def QueryStringQuery.fields (t : FloatText f32) (q : QueryStringQuery f32) : Fields :=
  [("boost", q.boost.map t.value), ("query", some (.string q.query))]

structure NumericRangeQuery (f32 : Type) where
  boost : Option f32
  field : Option String
  inclusiveMin : Option Bool
  inclusiveMax : Option Bool
  min : Option f32
  max : Option f32

def NumericRangeQuery.new : NumericRangeQuery f32 :=
  { boost := none, field := none, inclusiveMin := none, inclusiveMax := none, min := none
    max := none }

def NumericRangeQuery.fields (t : FloatText f32) (q : NumericRangeQuery f32) : Fields :=
  [("boost", q.boost.map t.value), ("field", q.field.map .string),
    ("inclusive_min", q.inclusiveMin.map .bool), ("inclusive_max", q.inclusiveMax.map .bool),
    ("min", q.min.map t.value), ("max", q.max.map t.value)]

structure DateRangeQuery (f32 : Type) where
  boost : Option f32
  field : Option String
  datetimeParser : Option String
  end_ : Option String
  inclusiveStart : Option Bool
  inclusiveEnd : Option Bool
  start : Option String

def DateRangeQuery.new : DateRangeQuery f32 :=
  { boost := none, field := none, datetimeParser := none, end_ := none, inclusiveStart := none
    inclusiveEnd := none, start := none }

def DateRangeQuery.fields (t : FloatText f32) (q : DateRangeQuery f32) : Fields :=
  [("boost", q.boost.map t.value), ("field", q.field.map .string),
    ("datetime_parser", q.datetimeParser.map .string), ("end", q.end_.map .string),
    ("inclusive_start", q.inclusiveStart.map .bool), ("inclusive_end", q.inclusiveEnd.map .bool),
    ("start", q.start.map .string)]

structure TermRangeQuery (f32 : Type) where
  boost : Option f32
  field : Option String
  inclusiveMin : Option Bool
  inclusiveMax : Option Bool
  max : Option String
  min : Option String

def TermRangeQuery.new : TermRangeQuery f32 :=
  { boost := none, field := none, inclusiveMin := none, inclusiveMax := none, max := none
    min := none }

def TermRangeQuery.fields (t : FloatText f32) (q : TermRangeQuery f32) : Fields :=
  [("boost", q.boost.map t.value), ("field", q.field.map .string),
    ("inclusive_min", q.inclusiveMin.map .bool), ("inclusive_max", q.inclusiveMax.map .bool),
    ("max", q.max.map .string), ("min", q.min.map .string)]

structure WildcardQuery (f32 : Type) where
  boost : Option f32
  field : Option String
  wildcard : String

def WildcardQuery.new (wildcard : String) : WildcardQuery f32 :=
  { boost := none, field := none, wildcard := wildcard }

def WildcardQuery.fields (t : FloatText f32) (q : WildcardQuery f32) : Fields :=
  [("boost", q.boost.map t.value), ("field", q.field.map .string),
    ("wildcard", some (.string q.wildcard))]

structure DocIDQuery (f32 : Type) where
  boost : Option f32
  ids : List String

def DocIDQuery.new (ids : List String) : DocIDQuery f32 :=
  { boost := none, ids := ids }

def DocIDQuery.fields (t : FloatText f32) (q : DocIDQuery f32) : Fields :=
  [("boost", q.boost.map t.value), ("ids", some (strings q.ids))]

structure BooleanFieldQuery (f32 : Type) where
  boolValue : Bool
  boost : Option f32
  field : Option String

def BooleanFieldQuery.new (boolValue : Bool) : BooleanFieldQuery f32 :=
  { boolValue := boolValue, boost := none, field := none }

def BooleanFieldQuery.fields (t : FloatText f32) (q : BooleanFieldQuery f32) : Fields :=
  [("bool", some (.bool q.boolValue)), ("boost", q.boost.map t.value),
    ("field", q.field.map .string)]

structure TermQuery (f32 : Type) where
  boost : Option f32
  field : Option String
  fuzziness : Option UInt32
  prefixLength : Option UInt32
  term : String

def TermQuery.new (term : String) : TermQuery f32 :=
  { boost := none, field := none, fuzziness := none, prefixLength := none, term := term }

def TermQuery.fields (t : FloatText f32) (q : TermQuery f32) : Fields :=
  [("boost", q.boost.map t.value), ("field", q.field.map .string),
    ("fuzziness", q.fuzziness.map fun n => .ofNat n.toNat),
    ("prefix_length", q.prefixLength.map fun n => .ofNat n.toNat),
    ("term", some (.string q.term))]

structure PhraseQuery (f32 : Type) where
  boost : Option f32
  field : Option String
  terms : List String

def PhraseQuery.new (terms : List String) : PhraseQuery f32 :=
  { boost := none, field := none, terms := terms }

def PhraseQuery.fields (t : FloatText f32) (q : PhraseQuery f32) : Fields :=
  [("boost", q.boost.map t.value), ("field", q.field.map .string),
    ("terms", some (strings q.terms))]

structure PrefixQuery (f32 : Type) where
  boost : Option f32
  field : Option String
  text : String

def PrefixQuery.new (text : String) : PrefixQuery f32 :=
  { boost := none, field := none, text := text }

def PrefixQuery.fields (t : FloatText f32) (q : PrefixQuery f32) : Fields :=
  [("boost", q.boost.map t.value), ("field", q.field.map .string),
    ("prefix", some (.string q.text))]

def matchAllFields : Fields :=
  [("match_all", some .null)]

def matchNoneFields : Fields :=
  [("match_none", some .null)]

structure GeoDistanceQuery (f32 f64 : Type) where
  boost : Option f32
  field : Option String
  location : Location f64
  distance : String

def GeoDistanceQuery.new (distance : String) (location : Location f64) :
    GeoDistanceQuery f32 f64 :=
  { distance := distance, boost := none, field := none, location := location }

def GeoDistanceQuery.fields (t : Floats f32 f64) (q : GeoDistanceQuery f32 f64) : Fields :=
  [("boost", q.boost.map t.single.value), ("field", q.field.map .string),
    ("location", some (q.location.serialize t.double)), ("distance", some (.string q.distance))]

structure GeoBoundingBoxQuery (f32 f64 : Type) where
  boost : Option f32
  field : Option String
  topLeft : Location f64
  bottomRight : Location f64

def GeoBoundingBoxQuery.new (topLeft bottomRight : Location f64) :
    GeoBoundingBoxQuery f32 f64 :=
  { bottomRight := bottomRight, boost := none, field := none, topLeft := topLeft }

def GeoBoundingBoxQuery.fields (t : Floats f32 f64) (q : GeoBoundingBoxQuery f32 f64) : Fields :=
  [("boost", q.boost.map t.single.value), ("field", q.field.map .string),
    ("top_left", some (q.topLeft.serialize t.double)),
    ("bottom_right", some (q.bottomRight.serialize t.double))]

structure GeoPolygonQuery (f32 f64 : Type) where
  boost : Option f32
  field : Option String
  polygonPoints : List (Location f64)

def GeoPolygonQuery.new (polygonPoints : List (Location f64)) : GeoPolygonQuery f32 f64 :=
  { boost := none, field := none, polygonPoints := polygonPoints }

def GeoPolygonQuery.fields (t : Floats f32 f64) (q : GeoPolygonQuery f32 f64) : Fields :=
  [("boost", q.boost.map t.single.value), ("field", q.field.map .string),
    ("polygon_points", some (.array (q.polygonPoints.map (Location.serialize t.double))))]

/-!
# Queries with sub-queries
-/

structure ConjunctionQuery (f32 query : Type) where
  boost : Option f32
  conjuncts : List query

def ConjunctionQuery.new (conjuncts : List query) : ConjunctionQuery f32 query :=
  { boost := none, conjuncts := conjuncts }

structure DisjunctionQuery (f32 query : Type) where
  boost : Option f32
  min : Option UInt32
  disjuncts : List query

def DisjunctionQuery.new (disjuncts : List query) : DisjunctionQuery f32 query :=
  { boost := none, disjuncts := disjuncts, min := none }

structure BooleanQuery (f32 query : Type) where
  boost : Option f32
  must : Option (ConjunctionQuery f32 query)
  mustNot : Option (DisjunctionQuery f32 query)
  should : Option (DisjunctionQuery f32 query)

def BooleanQuery.new : BooleanQuery f32 query :=
  { boost := none, must := none, mustNot := none, should := none }

inductive Query (f32 f64 : Type) where
  | matching (q : MatchQuery f32)
  | matchPhrase (q : MatchPhraseQuery f32)
  | regexp (q : RegexpQuery f32)
  | queryString (q : QueryStringQuery f32)
  | numericRange (q : NumericRangeQuery f32)
  | dateRange (q : DateRangeQuery f32)
  | termRange (q : TermRangeQuery f32)
  | conjunction (q : ConjunctionQuery f32 (Query f32 f64))
  | disjunction (q : DisjunctionQuery f32 (Query f32 f64))
  | boolean (q : BooleanQuery f32 (Query f32 f64))
  | wildcard (q : WildcardQuery f32)
  | docID (q : DocIDQuery f32)
  | booleanField (q : BooleanFieldQuery f32)
  | term (q : TermQuery f32)
  | phrase (q : PhraseQuery f32)
  | prefixed (q : PrefixQuery f32)
  | matchAll
  | matchNone
  | geoDistance (q : GeoDistanceQuery f32 f64)
  | geoBoundingBox (q : GeoBoundingBoxQuery f32 f64)
  | geoPolygon (q : GeoPolygonQuery f32 f64)

mutual

def Query.fields (t : Floats f32 f64) : Query f32 f64 -> Fields
  | .matching q => q.fields t.single
  | .matchPhrase q => q.fields t.single
  | .regexp q => q.fields t.single
  | .queryString q => q.fields t.single
  | .numericRange q => q.fields t.single
  | .dateRange q => q.fields t.single
  | .termRange q => q.fields t.single
  | .conjunction q => conjunctionFields t q
  | .disjunction q => disjunctionFields t q
  | .boolean q => booleanFields t q
  | .wildcard q => q.fields t.single
  | .docID q => q.fields t.single
  | .booleanField q => q.fields t.single
  | .term q => q.fields t.single
  | .phrase q => q.fields t.single
  | .prefixed q => q.fields t.single
  | .matchAll => matchAllFields
  | .matchNone => matchNoneFields
  | .geoDistance q => q.fields t
  | .geoBoundingBox q => q.fields t
  | .geoPolygon q => q.fields t

def conjunctionFields (t : Floats f32 f64) : ConjunctionQuery f32 (Query f32 f64) -> Fields
  | ⟨boost, conjuncts⟩ =>
      [("boost", boost.map t.single.value), ("conjuncts", some (.array (serializeAll t conjuncts)))]

def disjunctionFields (t : Floats f32 f64) : DisjunctionQuery f32 (Query f32 f64) -> Fields
  | ⟨boost, min, disjuncts⟩ =>
      [("boost", boost.map t.single.value), ("min", min.map fun n => .ofNat n.toNat),
        ("disjuncts", some (.array (serializeAll t disjuncts)))]

def booleanFields (t : Floats f32 f64) : BooleanQuery f32 (Query f32 f64) -> Fields
  | ⟨boost, must, mustNot, should⟩ =>
      [("boost", boost.map t.single.value), ("must", mustValue t must),
        ("must_not", shouldValue t mustNot), ("should", shouldValue t should)]

def mustValue (t : Floats f32 f64) :
    Option (ConjunctionQuery f32 (Query f32 f64)) -> Option JsonValue
  | none => none
  | some q => some (record (conjunctionFields t q))

def shouldValue (t : Floats f32 f64) :
    Option (DisjunctionQuery f32 (Query f32 f64)) -> Option JsonValue
  | none => none
  | some q => some (record (disjunctionFields t q))

def serializeAll (t : Floats f32 f64) : List (Query f32 f64) -> List JsonValue
  | [] => []
  | q :: rest => record (Query.fields t q) :: serializeAll t rest

end

def Query.serialize (t : Floats f32 f64) (q : Query f32 f64) : JsonValue :=
  record (q.fields t)

/-!
# Vector queries
-/

/-- `k` is a signed number that is made from an unsigned one. -/
structure KnnQuery (f32 f64 : Type) where
  boost : Option f32
  field : String
  k : Nat
  vector : Option (List f32)
  vectorBase64 : Option String
  filter : Option (Query f32 f64)

def KnnQuery.new (field : String) (k : Nat) : KnnQuery f32 f64 :=
  { boost := none, field := field, k := k, vector := none, vectorBase64 := none, filter := none }

def KnnQuery.fields (t : Floats f32 f64) (q : KnnQuery f32 f64) : Fields :=
  [("boost", q.boost.map t.single.value), ("field", some (.string q.field)),
    ("k", some (.ofNat q.k)),
    ("vector", q.vector.map fun v => .array (v.map t.single.value)),
    ("vector_base64", q.vectorBase64.map .string), ("filter", q.filter.map (Query.serialize t))]

def KnnQuery.serialize (t : Floats f32 f64) (q : KnnQuery f32 f64) : JsonValue :=
  record (q.fields t)

end Searchx
end CouchbaseSdk
