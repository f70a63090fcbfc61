import CouchbaseSdk.Foundation.JsonFields
import CouchbaseSdk.Foundation.MapOrder

/-!
# Search results

Hits and facets as they are read in the core, and as the library gives them to its callers.
-/

namespace CouchbaseSdk
namespace Searchx

open Foundation
open Foundation.JsonRecord

variable {f64 date raw : Type}

/-!
# Facets in a response
-/

/-- An `i64`, which may be written with a minus. -/
def readI64 : JsonValue -> Option Int64
  | .number n =>
      match n.text with
      | '-' :: digits =>
          if digits.all Char.isDigit && decide (Nat.ofDigitChars 10 digits 0 ≤ 2 ^ 63) then
            some (Int64.ofInt (-(Nat.ofDigitChars 10 digits 0 : Int)))
          else none
      | digits =>
          if digits.all Char.isDigit && decide (Nat.ofDigitChars 10 digits 0 < 2 ^ 63) then
            some (Int64.ofNat (Nat.ofDigitChars 10 digits 0))
          else none
  | _ => none

def readList {alpha : Type} (read : JsonValue -> Option alpha) : JsonValue -> Option (List alpha)
  | .array items => items.mapM read
  | _ => none

structure TermFacet where
  term : String
  count : Int64

structure NumericFacet (f64 : Type) where
  name : String
  min : Option f64
  max : Option f64
  count : Int64

/-- Both bounds are required. -/
structure DateFacet where
  name : String
  start : String
  end_ : String
  count : Int64

structure Facet (f64 : Type) where
  field : String
  total : Int64
  missing : Int64
  other : Int64
  terms : Option (List TermFacet)
  numericRanges : Option (List (NumericFacet f64))
  dateRanges : Option (List DateFacet)

def TermFacet.shape : RecordShape := { fields := ["term", "count"], needed := 2 }

def TermFacet.deserialize (v : JsonValue) : Option TermFacet := do
  let ms <- members TermFacet.shape v
  let term <- required readString "term" ms
  let count <- required readI64 "count" ms
  some { term, count }

def NumericFacet.shape : RecordShape :=
  { fields := ["name", "min", "max", "count"], needed := 4 }

def NumericFacet.deserialize (readF64 : JsonValue -> Option f64) (v : JsonValue) :
    Option (NumericFacet f64) := do
  let ms <- members NumericFacet.shape v
  let name <- required readString "name" ms
  let min <- optional readF64 "min" ms
  let max <- optional readF64 "max" ms
  let count <- required readI64 "count" ms
  some { name, min, max, count }

def DateFacet.shape : RecordShape :=
  { fields := ["name", "start", "end", "count"], needed := 4 }

def DateFacet.deserialize (v : JsonValue) : Option DateFacet := do
  let ms <- members DateFacet.shape v
  let name <- required readString "name" ms
  let start <- required readString "start" ms
  let end_ <- required readString "end" ms
  let count <- required readI64 "count" ms
  some { name, start, end_, count }

def Facet.shape : RecordShape where
  fields := ["field", "total", "missing", "other", "terms", "numeric_ranges", "date_ranges"]
  needed := 7

def Facet.deserialize (readF64 : JsonValue -> Option f64) (v : JsonValue) :
    Option (Facet f64) := do
  let ms <- members Facet.shape v
  let field <- required readString "field" ms
  let total <- required readI64 "total" ms
  let missing <- required readI64 "missing" ms
  let other <- required readI64 "other" ms
  let terms <- optional (readList TermFacet.deserialize) "terms" ms
  let numericRanges <- optional (readList (NumericFacet.deserialize readF64)) "numeric_ranges" ms
  let dateRanges <- optional (readList DateFacet.deserialize) "date_ranges" ms
  some { field, total, missing, other, terms, numericRanges, dateRanges }

/-- The facets of the metadata, by their names. -/
def readFacets (readF64 : JsonValue -> Option f64) :
    JsonValue -> Option (FiniteMap String (Facet f64))
  | .object members =>
      (members.mapM fun e => (Facet.deserialize readF64 e.2).map fun facet => (e.1, facet)).map
        fun entries => FiniteMap.insertAll ∅ entries
  | _ => none

/-!
# Facet results
-/

structure TermFacetResult where
  term : String
  count : Int64

structure NumericRangeFacetResult (f64 : Type) where
  name : String
  min : f64
  max : f64
  count : Int64

structure DateRangeFacetResult (date : Type) where
  name : String
  start : date
  end_ : date
  count : Int64

structure FacetResult (f64 date : Type) where
  field : String
  total : Int64
  missing : Int64
  other : Int64
  terms : Option (List TermFacetResult)
  numericRanges : Option (List (NumericRangeFacetResult f64))
  dateRanges : Option (List (DateRangeFacetResult date))

/-- The error text of the parser of JSON is left out. -/
inductive Failure where
  | metadata
  | message (msg : String)
deriving DecidableEq

def TermFacet.into (value : TermFacet) : TermFacetResult :=
  { term := value.term, count := value.count }

/-- A bound that is missing becomes the default, which is zero. -/
def NumericFacet.into (zero : f64) (value : NumericFacet f64) : NumericRangeFacetResult f64 :=
  { name := value.name, min := value.min.getD zero, max := value.max.getD zero
    count := value.count }

def parseDate (parseFromRfc3339 : String -> Except String date) (text : String) :
    Except Failure date :=
  match parseFromRfc3339 text with
  | .ok d => .ok d
  | .error e => .error (.message ("failed to parse date: " ++ e))

def DateFacet.tryInto (parseFromRfc3339 : String -> Except String date) (value : DateFacet) :
    Except Failure (DateRangeFacetResult date) := do
  let start <- parseDate parseFromRfc3339 value.start
  let end_ <- parseDate parseFromRfc3339 value.end_
  return { name := value.name, start := start, end_ := end_, count := value.count }

def Facet.dates (parseFromRfc3339 : String -> Except String date) (value : Facet f64) :
    Except Failure (Option (List (DateRangeFacetResult date))) :=
  match value.dateRanges with
  | some dateRanges => (dateRanges.mapM (DateFacet.tryInto parseFromRfc3339)).map some
  | none => .ok none

def Facet.tryInto (zero : f64) (parseFromRfc3339 : String -> Except String date)
    (value : Facet f64) : Except Failure (FacetResult f64 date) := do
  let dateRanges <- value.dates parseFromRfc3339
  return {
    field := value.field
    total := value.total
    missing := value.missing
    other := value.other
    terms := value.terms.map fun terms => terms.map TermFacet.into
    numericRanges := value.numericRanges.map fun ranges => ranges.map (NumericFacet.into zero)
    dateRanges := dateRanges }

/-- What is fixed for reading facets: floats, the parser of dates and the order of maps. -/
structure FacetReader (f64 date : Type) where
  floats : JsonFields.FloatText f64
  zero : f64
  parseFromRfc3339 : String -> Except String date
  order : MapOrder

/-- The facets of the final metadata. -/
def FacetReader.finalFacets (reader : FacetReader f64 date) (facets : JsonValue) :
    Except Failure (FiniteMap String (FacetResult f64 date)) :=
  match readFacets reader.floats.readValue facets with
  | none => .error .metadata
  | some respFacets =>
      ((reader.order.pairs respFacets).mapM fun (e : String × Facet f64) =>
        (e.2.tryInto reader.zero reader.parseFromRfc3339).map fun facet => (e.1, facet)).map
        fun entries => FiniteMap.insertAll ∅ entries

/-!
# Hits
-/

structure RowLocation where
  position : UInt32
  start : UInt32
  end_ : UInt32
  arrayPositions : Option (List UInt32)
deriving DecidableEq

abbrev RowLocations := FiniteMap String (FiniteMap String (List RowLocation))

/-- A hit as it is in the response. -/
structure Row (f64 raw : Type) where
  index : Option String
  id : String
  score : f64
  explanation : Option raw
  locations : Option RowLocations
  fragments : Option (FiniteMap String (List String))
  fields : Option raw

structure HitLocation where
  start : UInt32
  end_ : UInt32
  position : UInt32
  arrayPositions : Option (List UInt32)
deriving DecidableEq

structure ResultHit (f64 raw : Type) where
  index : String
  id : String
  score : f64
  locations : Option (FiniteMap String (FiniteMap String (List HitLocation)))
  fragments : Option (FiniteMap String (List String))
  fields : Option raw
  explanation : Option raw

/-- The position is the index in the list. -/
def hitLocations (termData : List RowLocation) : List HitLocation :=
  termData.zipIdx.map fun e =>
    { position := UInt32.ofNat e.2, start := e.1.start, end_ := e.1.end_
      arrayPositions := e.1.arrayPositions }

def hitTerms (order : MapOrder) (fieldData : FiniteMap String (List RowLocation)) :
    FiniteMap String (List HitLocation) :=
  FiniteMap.insertAll ∅ ((order.pairs fieldData).map fun e => (e.1, hitLocations e.2))

def Row.into (order : MapOrder) (row : Row f64 raw) : ResultHit f64 raw where
  index := row.index.getD ""
  id := row.id
  score := row.score
  locations := row.locations.map fun rowLocations =>
    FiniteMap.insertAll ∅
      ((order.pairs rowLocations).map fun e => (e.1, hitTerms order e.2))
  fragments := row.fragments
  fields := row.fields
  explanation := row.explanation

end Searchx
end CouchbaseSdk

/-!
# Results of the library
-/

namespace CouchbaseSdk
namespace Search

open Foundation
open Searchx (FacetResult FacetReader Failure HitLocation ResultHit Row TermFacetResult)
open Searchx (NumericRangeFacetResult DateRangeFacetResult)

variable {f64 date raw : Type}

structure SearchRowLocation where
  field : String
  term : String
  start : UInt32
  end_ : UInt32
  position : UInt32
  arrayPositions : Option (List UInt32)
deriving DecidableEq

structure SearchRow (f64 raw : Type) where
  index : String
  id : String
  score : f64
  explanation : Option raw
  locations : Option (List SearchRowLocation)
  fragments : Option (FiniteMap String (List String))
  fields : Option raw

/-- The position is the index in the list again. -/
def rowLocations (fieldName termName : String) (termData : List HitLocation) :
    List SearchRowLocation :=
  termData.zipIdx.map fun e =>
    { field := fieldName, term := termName, start := e.1.start, end_ := e.1.end_
      position := UInt32.ofNat e.2, arrayPositions := e.1.arrayPositions }

def SearchRow.ofHit (order : MapOrder) (hit : ResultHit f64 raw) : SearchRow f64 raw where
  index := hit.index
  id := hit.id
  score := hit.score
  explanation := hit.explanation
  locations := hit.locations.map fun hitLocations =>
    (order.pairs hitLocations).flatMap fun fieldEntry =>
      (order.pairs fieldEntry.2).flatMap fun termEntry =>
        rowLocations fieldEntry.1 termEntry.1 termEntry.2
  fragments := hit.fragments
  fields := hit.fields

def getByFieldAndTerm (locations : List SearchRowLocation) (field term : String) :
    List SearchRowLocation :=
  locations.filter fun loc => loc.field = field && loc.term = term

/-- The row for a hit of the response. -/
def searchRow (order : MapOrder) (row : Row f64 raw) : SearchRow f64 raw :=
  SearchRow.ofHit order (row.into order)

inductive SearchFacetResultType (f64 date : Type) where
  | termFacets (facets : List TermFacetResult)
  | numericRangeFacets (facets : List (NumericRangeFacetResult f64))
  | dateRangeFacets (facets : List (DateRangeFacetResult date))

structure SearchFacetResult (f64 date : Type) where
  name : String
  field : String
  total : UInt64
  missing : UInt64
  other : UInt64
  facets : SearchFacetResultType f64 date

/-- The first kind of facets that is there; a result without any is left out. -/
def facetType (facet : FacetResult f64 date) : Option (SearchFacetResultType f64 date) :=
  match facet.terms with
  | some facetTerms => some (.termFacets facetTerms)
  | none =>
      match facet.dateRanges with
      | some facetDates => some (.dateRangeFacets facetDates)
      | none => facet.numericRanges.map .numericRangeFacets

def searchFacet (name : String) (facet : FacetResult f64 date) :
    Option (SearchFacetResult f64 date) :=
  (facetType facet).map fun facets =>
    { name := name, field := facet.field, total := facet.total.toUInt64
      missing := facet.missing.toUInt64, other := facet.other.toUInt64, facets := facets }

/-- The facets for those of the response. -/
def facets (reader : FacetReader f64 date) (response : JsonValue) :
    Except Failure (FiniteMap String (SearchFacetResult f64 date)) :=
  (reader.finalFacets response).map fun wrapped =>
    FiniteMap.insertAll ∅ ((reader.order.pairs wrapped).filterMap fun e =>
      (searchFacet e.1 e.2).map fun facet => (e.1, facet))

end Search
end CouchbaseSdk
