import CouchbaseSdk.Searchx.Queries

/-!
# Search queries

The queries of the library, and how they become those of the core.
-/

namespace CouchbaseSdk
namespace Search

variable {f32 f64 query : Type}

/-!
# Queries
-/

structure Location (f64 : Type) where
  lat : f64
  lon : f64

inductive MatchOperator where
  | or
  | and
deriving DecidableEq

structure MatchQuery (f32 : Type) where
  analyzer : Option String
  boost : Option f32
  field : Option String
  fuzziness : Option UInt64
  matchInput : String
  operator : Option MatchOperator
  prefixLength : Option UInt64

structure MatchPhraseQuery (f32 : Type) where
  analyzer : Option String
  boost : Option f32
  field : Option String
  matchPhrase : String

structure RegexpQuery (f32 : Type) where
  boost : Option f32
  field : Option String
  regexp : String

structure QueryStringQuery (f32 : Type) where
  boost : Option f32
  query : String

structure NumericRangeQuery (f32 : Type) where
  boost : Option f32
  field : Option String
  inclusiveMin : Option Bool
  inclusiveMax : Option Bool
  min : Option f32
  max : Option f32

structure DateRangeQuery (f32 : Type) where
  boost : Option f32
  field : Option String
  datetimeParser : Option String
  end_ : Option String
  inclusiveStart : Option Bool
  inclusiveEnd : Option Bool
  start : Option String

structure TermRangeQuery (f32 : Type) where
  boost : Option f32
  field : Option String
  inclusiveMin : Option Bool
  inclusiveMax : Option Bool
  max : Option String
  min : Option String

structure WildcardQuery (f32 : Type) where
  boost : Option f32
  field : Option String
  wildcard : String

structure DocIDQuery (f32 : Type) where
  boost : Option f32
  ids : List String

structure BooleanFieldQuery (f32 : Type) where
  boolValue : Bool
  boost : Option f32
  field : Option String

structure TermQuery (f32 : Type) where
  boost : Option f32
  field : Option String
  fuzziness : Option UInt32
  prefixLength : Option UInt32
  term : String

structure PhraseQuery (f32 : Type) where
  boost : Option f32
  field : Option String
  terms : List String

structure PrefixQuery (f32 : Type) where
  boost : Option f32
  field : Option String
  text : String

structure GeoDistanceQuery (f32 f64 : Type) where
  distance : String
  boost : Option f32
  field : Option String
  location : Location f64

structure GeoBoundingBoxQuery (f32 f64 : Type) where
  bottomRight : Location f64
  boost : Option f32
  field : Option String
  topLeft : Location f64

structure GeoPolygonQuery (f32 f64 : Type) where
  boost : Option f32
  field : Option String
  polygonPoints : List (Location f64)

structure ConjunctionQuery (f32 query : Type) where
  boost : Option f32
  conjuncts : List query

structure DisjunctionQuery (f32 query : Type) where
  boost : Option f32
  disjuncts : List query
  min : Option UInt32

structure BooleanQuery (f32 query : Type) where
  boost : Option f32
  must : Option (ConjunctionQuery f32 query)
  mustNot : Option (DisjunctionQuery f32 query)
  should : Option (DisjunctionQuery f32 query)

inductive Query (f32 f64 : Type) where
  | matching (q : MatchQuery f32)
  | matchPhrase (q : MatchPhraseQuery f32)
  | regexp (q : RegexpQuery f32)
  | queryString (q : QueryStringQuery f32)
  | numericRange (q : NumericRangeQuery f32)
  | dateRange (q : DateRangeQuery f32)
  | termRange (q : TermRangeQuery f32)
  | conjunction (q : ConjunctionQuery f32 (Query f32 f64))
  | disjunction (q : DisjunctionQuery f32 (Query f32 f64))
  | boolean (q : BooleanQuery f32 (Query f32 f64))
  | wildcard (q : WildcardQuery f32)
  | docID (q : DocIDQuery f32)
  | booleanField (q : BooleanFieldQuery f32)
  | term (q : TermQuery f32)
  | phrase (q : PhraseQuery f32)
  | prefixed (q : PrefixQuery f32)
  | matchAll
  | matchNone
  | geoDistance (q : GeoDistanceQuery f32 f64)
  | geoBoundingBox (q : GeoBoundingBoxQuery f32 f64)
  | geoPolygon (q : GeoPolygonQuery f32 f64)

/-!
# Conversions
-/

def Location.into (l : Location f64) : Searchx.Location f64 :=
  .new l.lat l.lon

def MatchOperator.into : MatchOperator -> Searchx.MatchOperator
  | or => .or
  | and => .and

def MatchQuery.into (query : MatchQuery f32) : Searchx.MatchQuery f32 :=
  { (.new query.matchInput : Searchx.MatchQuery f32) with
    analyzer := query.analyzer
    boost := query.boost
    field := query.field
    fuzziness := query.fuzziness
    operator := query.operator.map MatchOperator.into
    prefixLength := query.prefixLength }

def MatchPhraseQuery.into (query : MatchPhraseQuery f32) : Searchx.MatchPhraseQuery f32 :=
  { (.new query.matchPhrase : Searchx.MatchPhraseQuery f32) with
    analyzer := query.analyzer
    boost := query.boost
    field := query.field }

def RegexpQuery.into (query : RegexpQuery f32) : Searchx.RegexpQuery f32 :=
  { (.new query.regexp : Searchx.RegexpQuery f32) with
    boost := query.boost
    field := query.field }

def QueryStringQuery.into (query : QueryStringQuery f32) : Searchx.QueryStringQuery f32 :=
  { (.new query.query : Searchx.QueryStringQuery f32) with
    boost := query.boost }

def NumericRangeQuery.into (query : NumericRangeQuery f32) : Searchx.NumericRangeQuery f32 :=
  { (.new : Searchx.NumericRangeQuery f32) with
    boost := query.boost
    field := query.field
    inclusiveMin := query.inclusiveMin
    inclusiveMax := query.inclusiveMax
    min := query.min
    max := query.max }

def DateRangeQuery.into (query : DateRangeQuery f32) : Searchx.DateRangeQuery f32 :=
  { (.new : Searchx.DateRangeQuery f32) with
    boost := query.boost
    field := query.field
    datetimeParser := query.datetimeParser
    end_ := query.end_
    inclusiveStart := query.inclusiveStart
    inclusiveEnd := query.inclusiveEnd
    start := query.start }

def TermRangeQuery.into (query : TermRangeQuery f32) : Searchx.TermRangeQuery f32 :=
  { (.new : Searchx.TermRangeQuery f32) with
    boost := query.boost
    field := query.field
    inclusiveMin := query.inclusiveMin
    inclusiveMax := query.inclusiveMax
    max := query.max
    min := query.min }

def WildcardQuery.into (query : WildcardQuery f32) : Searchx.WildcardQuery f32 :=
  { (.new query.wildcard : Searchx.WildcardQuery f32) with
    boost := query.boost
    field := query.field }

def DocIDQuery.into (query : DocIDQuery f32) : Searchx.DocIDQuery f32 :=
  { (.new query.ids : Searchx.DocIDQuery f32) with
    boost := query.boost }

def BooleanFieldQuery.into (query : BooleanFieldQuery f32) : Searchx.BooleanFieldQuery f32 :=
  { (.new query.boolValue : Searchx.BooleanFieldQuery f32) with
    boost := query.boost
    field := query.field }

def TermQuery.into (query : TermQuery f32) : Searchx.TermQuery f32 :=
  { (.new query.term : Searchx.TermQuery f32) with
    boost := query.boost
    field := query.field
    fuzziness := query.fuzziness
    prefixLength := query.prefixLength }

def PhraseQuery.into (query : PhraseQuery f32) : Searchx.PhraseQuery f32 :=
  { (.new query.terms : Searchx.PhraseQuery f32) with
    boost := query.boost
    field := query.field }

def PrefixQuery.into (query : PrefixQuery f32) : Searchx.PrefixQuery f32 :=
  { (.new query.text : Searchx.PrefixQuery f32) with
    boost := query.boost
    field := query.field }

def GeoDistanceQuery.into (query : GeoDistanceQuery f32 f64) :
    Searchx.GeoDistanceQuery f32 f64 :=
  { (.new query.distance query.location.into : Searchx.GeoDistanceQuery f32 f64) with
    boost := query.boost
    field := query.field }

def GeoBoundingBoxQuery.into (query : GeoBoundingBoxQuery f32 f64) :
    Searchx.GeoBoundingBoxQuery f32 f64 :=
  { (.new query.topLeft.into query.bottomRight.into : Searchx.GeoBoundingBoxQuery f32 f64) with
    boost := query.boost
    field := query.field }

def GeoPolygonQuery.into (query : GeoPolygonQuery f32 f64) : Searchx.GeoPolygonQuery f32 f64 :=
  { (.new (query.polygonPoints.map Location.into) : Searchx.GeoPolygonQuery f32 f64) with
    boost := query.boost
    field := query.field }

mutual

def Query.into : Query f32 f64 -> Searchx.Query f32 f64
  | .matching q => .matching q.into
  | .matchPhrase q => .matchPhrase q.into
  | .regexp q => .regexp q.into
  | .queryString q => .queryString q.into
  | .numericRange q => .numericRange q.into
  | .dateRange q => .dateRange q.into
  | .termRange q => .termRange q.into
  | .conjunction q => .conjunction (intoConjunction q)
  | .disjunction q => .disjunction (intoDisjunction q)
  | .boolean q => .boolean (intoBoolean q)
  | .wildcard q => .wildcard q.into
  | .docID q => .docID q.into
  | .booleanField q => .booleanField q.into
  | .term q => .term q.into
  | .phrase q => .phrase q.into
  | .prefixed q => .prefixed q.into
  | .matchAll => .matchAll
  | .matchNone => .matchNone
  | .geoDistance q => .geoDistance q.into
  | .geoBoundingBox q => .geoBoundingBox q.into
  | .geoPolygon q => .geoPolygon q.into

def intoConjunction : ConjunctionQuery f32 (Query f32 f64) ->
    Searchx.ConjunctionQuery f32 (Searchx.Query f32 f64)
  | ⟨boost, conjuncts⟩ =>
      { (.new (intoAll conjuncts) : Searchx.ConjunctionQuery f32 (Searchx.Query f32 f64)) with
        boost := boost }

def intoDisjunction : DisjunctionQuery f32 (Query f32 f64) ->
    Searchx.DisjunctionQuery f32 (Searchx.Query f32 f64)
  | ⟨boost, disjuncts, min⟩ =>
      { (.new (intoAll disjuncts) : Searchx.DisjunctionQuery f32 (Searchx.Query f32 f64)) with
        boost := boost
        min := min }

def intoBoolean : BooleanQuery f32 (Query f32 f64) ->
    Searchx.BooleanQuery f32 (Searchx.Query f32 f64)
  | ⟨boost, must, mustNot, should⟩ =>
      { (.new : Searchx.BooleanQuery f32 (Searchx.Query f32 f64)) with
        boost := boost
        must := intoMust must
        mustNot := intoShould mustNot
        should := intoShould should }

def intoMust : Option (ConjunctionQuery f32 (Query f32 f64)) ->
    Option (Searchx.ConjunctionQuery f32 (Searchx.Query f32 f64))
  | none => none
  | some q => some (intoConjunction q)

def intoShould : Option (DisjunctionQuery f32 (Query f32 f64)) ->
    Option (Searchx.DisjunctionQuery f32 (Searchx.Query f32 f64))
  | none => none
  | some q => some (intoDisjunction q)

def intoAll : List (Query f32 f64) -> List (Searchx.Query f32 f64)
  | [] => []
  | q :: rest => Query.into q :: intoAll rest

end

/-!
# Vector queries
-/

structure VectorQuery (f32 f64 : Type) where
  fieldName : String
  numCandidates : UInt32
  query : Option (List f32)
  base64Query : Option String
  boost : Option f32
  prefilter : Option (Query f32 f64)

inductive Error where
  | invalidArgument (arg msg : String)
deriving DecidableEq

def VectorQuery.tryInto (value : VectorQuery f32 f64) :
    Except Error (Searchx.KnnQuery f32 f64) :=
  if value.query.isNone && value.base64Query.isNone then
    .error (.invalidArgument "query, base64_query"
      "one of vector search query or base64_query must be set")
  else if value.query.isSome && value.base64Query.isSome then
    .error (.invalidArgument "query, base64_query"
      "only one of vector search query or base64_query may be set")
  else if value.query.any List.isEmpty then
    .error (.invalidArgument "query" "vector search query must be non-empty")
  else if value.base64Query.any String.isEmpty then
    .error (.invalidArgument "base64_query" "base64_query must be a non-empty string")
  else if value.numCandidates = 0 then
    .error (.invalidArgument "num_candidates" "if set num_candidates must be greater than zero")
  else
    .ok { (.new value.fieldName value.numCandidates.toNat : Searchx.KnnQuery f32 f64) with
      boost := value.boost
      vector := value.query
      vectorBase64 := value.base64Query
      filter := value.prefilter.map Query.into }

end Search
end CouchbaseSdk
