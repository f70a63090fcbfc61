import CouchbaseSdk.Search.Results
import Mathlib.Data.List.Perm.Basic

/-!
# Search results are faithful

What the service sends, and when the results have all of it.
-/

namespace CouchbaseSdk
namespace Search

open Foundation
open Foundation.JsonFields
open Foundation.JsonRecord (members optional readString required)
open Searchx (DateFacet Facet FacetReader Failure NumericFacet Row RowLocation TermFacet)
open Searchx (DateRangeFacetResult FacetResult NumericRangeFacetResult TermFacetResult)
open Searchx (hitLocations hitTerms parseDate readFacets readI64)

variable {f64 date raw : Type}

/-!
# What the service sends
-/

/-- A number of documents. -/
abbrev Count := Fin (2 ^ 63)

/-- A text that is a date. -/
structure ServedDate (parse : String -> Except String date) where
  text : String
  value : date
  parses : parse text = .ok value

structure ServedTerm where
  term : String
  count : Count

/-- A range is open where a bound is missing. -/
structure ServedNumericRange (f64 : Type) where
  name : String
  min : Option f64
  max : Option f64
  count : Count

structure ServedDateRange (parse : String -> Except String date) where
  name : String
  start : Option (ServedDate parse)
  end_ : Option (ServedDate parse)
  count : Count

structure ServedFacet (f64 : Type) (parse : String -> Except String date) where
  field : String
  total : Count
  missing : Count
  other : Count
  terms : Option (List ServedTerm)
  numericRanges : Option (List (ServedNumericRange f64))
  dateRanges : Option (List (ServedDateRange parse))

structure Response (f64 raw : Type) (parse : String -> Except String date) where
  rows : List (Row f64 raw)
  facets : FiniteMap String (ServedFacet f64 parse)

variable {parse : String -> Except String date}

/-- The fields are left out where there is no value. -/
def Count.toJson (n : Count) : JsonValue :=
  .ofNat n.val

def ServedTerm.fields (s : ServedTerm) : Fields :=
  [("term", some (.string s.term)), ("count", some s.count.toJson)]

def ServedNumericRange.fields (t : FloatText f64) (s : ServedNumericRange f64) : Fields :=
  [("name", some (.string s.name)), ("min", s.min.map t.value), ("max", s.max.map t.value),
    ("count", some s.count.toJson)]

def ServedDate.toJson (s : ServedDate parse) : JsonValue :=
  .string s.text

def ServedDateRange.fields (s : ServedDateRange parse) : Fields :=
  [("name", some (.string s.name)), ("start", s.start.map ServedDate.toJson),
    ("end", s.end_.map ServedDate.toJson), ("count", some s.count.toJson)]

def toArray {alpha : Type} (fields : alpha -> Fields) (items : List alpha) : JsonValue :=
  .array (items.map fun a => record (fields a))

def ServedFacet.fields (t : FloatText f64) (s : ServedFacet f64 parse) : Fields :=
  [("field", some (.string s.field)), ("total", some s.total.toJson),
    ("missing", some s.missing.toJson), ("other", some s.other.toJson),
    ("terms", s.terms.map (toArray ServedTerm.fields)),
    ("numeric_ranges", s.numericRanges.map (toArray (ServedNumericRange.fields t))),
    ("date_ranges", s.dateRanges.map (toArray ServedDateRange.fields))]

def facetsJson (t : FloatText f64) (served : FiniteMap String (ServedFacet f64 parse)) :
    JsonValue :=
  .object (served.pairs.map fun e => (e.1, record (e.2.fields t)))

/-!
# What the results keep
-/

structure TermKept (s : ServedTerm) (r : TermFacetResult) : Prop where
  term : r.term = s.term
  count : r.count.toInt = s.count.val

structure NumericRangeKept (s : ServedNumericRange f64) (r : NumericRangeFacetResult f64) :
    Prop where
  name : r.name = s.name
  min : s.min = some r.min
  max : s.max = some r.max
  count : r.count.toInt = s.count.val

structure DateRangeKept (s : ServedDateRange parse) (r : DateRangeFacetResult date) : Prop where
  name : r.name = s.name
  start : s.start.map ServedDate.value = some r.start
  end_ : s.end_.map ServedDate.value = some r.end_
  count : r.count.toInt = s.count.val

/-- There are the facets of one kind, and the service has sent no others. -/
def KindKept (s : ServedFacet f64 parse) : SearchFacetResultType f64 date -> Prop
  | .termFacets rs =>
      (exists ts, s.terms = some ts ∧ List.Forall₂ TermKept ts rs) ∧
        s.numericRanges = none ∧ s.dateRanges = none
  | .numericRangeFacets rs =>
      (exists ns, s.numericRanges = some ns ∧ List.Forall₂ NumericRangeKept ns rs) ∧
        s.terms = none ∧ s.dateRanges = none
  | .dateRangeFacets rs =>
      (exists ds, s.dateRanges = some ds ∧ List.Forall₂ DateRangeKept ds rs) ∧
        s.terms = none ∧ s.numericRanges = none

structure FacetKept (name : String) (s : ServedFacet f64 parse) (r : SearchFacetResult f64 date) :
    Prop where
  name : r.name = name
  field : r.field = s.field
  total : r.total.toNat = s.total.val
  missing : r.missing.toNat = s.missing.val
  other : r.other.toNat = s.other.val
  kind : KindKept s r.facets

/-- The facets are no error, and each of the service is in the results. -/
def FacetsKept (reader : FacetReader f64 date)
    (served : FiniteMap String (ServedFacet f64 reader.parseFromRfc3339)) : Prop :=
  exists results, facets reader (facetsJson reader.floats served) = .ok results ∧
    FiniteMap.Related FacetKept served results

/-- A location of the response with its field and its term. -/
def servedLocation (e : (String × String) × RowLocation) : SearchRowLocation :=
  { field := e.1.1, term := e.1.2, start := e.2.start, end_ := e.2.end_, position := e.2.position
    arrayPositions := e.2.arrayPositions }

def servedLocations (locations : Searchx.RowLocations) : List SearchRowLocation :=
  (FiniteMap.flatten id locations).map servedLocation

/-- The row has one location for each in the response, and there is no order between them. -/
def LocationsKept (row : Row f64 raw) (result : SearchRow f64 raw) : Prop :=
  match row.locations, result.locations with
  | some served, some locations => locations.Perm (servedLocations served)
  | none, none => True
  | _, _ => False

/-- What the results have to be for a response. -/
def Faithful (reader : FacetReader f64 date)
    (response : Response f64 raw reader.parseFromRfc3339) : Prop :=
  (forall row, row ∈ response.rows -> LocationsKept row (searchRow reader.order row)) ∧
    FacetsKept reader response.facets

/-!
# When they keep it
-/

/-- What a location has besides its position. -/
def extent (loc : RowLocation) : UInt32 × UInt32 × Option (List UInt32) :=
  (loc.start, loc.end_, loc.arrayPositions)

/-- The locations with one extent have their places in the list as positions. -/
def Counted (locs : List RowLocation) : Prop :=
  forall x, (FiniteMap.valuesAt x (locs.map fun loc => (extent loc, loc.position))).Perm
    (FiniteMap.valuesAt x (locs.zipIdx.map fun e => (extent e.1, UInt32.ofNat e.2)))

/-- One kind of facets, and every range with both bounds. -/
def Whole (s : ServedFacet f64 parse) : Prop :=
  match s.terms, s.numericRanges, s.dateRanges with
  | some _, none, none => True
  | none, some ranges, none => forall r, r ∈ ranges -> r.min.isSome ∧ r.max.isSome
  | none, none, some ranges => forall r, r ∈ ranges -> r.start.isSome ∧ r.end_.isSome
  | _, _, _ => False

structure Plain (response : Response f64 raw parse) : Prop where
  counted : forall row locations field term locs, row ∈ response.rows ->
    row.locations = some locations -> FiniteMap.lookupIn locations field term = some locs ->
    Counted locs
  whole : forall name s, response.facets.lookup name = some s -> Whole s

/-!
# Locations
-/

/-- The location at a place in the list, with the place as its position. -/
def atPlace (e : RowLocation × Nat) : RowLocation :=
  { e.1 with position := UInt32.ofNat e.2 }

theorem servedLocation_injective : Function.Injective servedLocation := by
  intro ⟨⟨field, term⟩, loc⟩ ⟨⟨field', term'⟩, loc'⟩ h
  rcases loc with ⟨position, start, end_, arrays⟩
  rcases loc' with ⟨position', start', end_', arrays'⟩
  unfold servedLocation at h
  simp only [SearchRowLocation.mk.injEq] at h
  rcases h with ⟨rfl, rfl, rfl, rfl, rfl, rfl⟩
  rfl

theorem rowLocations_hitLocations (field term : String) (locs : List RowLocation) :
    rowLocations field term (hitLocations locs) =
      (locs.zipIdx.map atPlace).map fun loc => servedLocation ((field, term), loc) := by
  apply List.ext_getElem
  · simp [rowLocations, hitLocations]
  · intro i h h'
    simp [rowLocations, hitLocations, atPlace, servedLocation]

/-- The two rebuilt maps change the order only, and each list of locations is counted anew. -/
theorem locations_searchRow (order : MapOrder) (row : Row f64 raw)
    {locations : Searchx.RowLocations} (h : row.locations = some locations) :
    exists found, (searchRow order row).locations = some found ∧
      found.Perm ((FiniteMap.flatten (fun locs => locs.zipIdx.map atPlace) locations).map
        servedLocation) := by
  have hinner : forall (field : String) (terms : FiniteMap String (List RowLocation)),
      ((order.pairs (hitTerms order terms)).flatMap fun e => rowLocations field e.1 e.2).Perm
        (terms.pairs.flatMap fun e =>
          (e.2.zipIdx.map atPlace).map fun loc => servedLocation ((field, e.1), loc)) := by
    intro field terms
    have hperm := order.flatMap_rebuilt terms hitLocations fun e => rowLocations field e.1 e.2
    simp only [rowLocations_hitLocations] at hperm
    exact hperm
  have houter := order.flatMap_rebuilt locations (hitTerms order) fun e =>
    (order.pairs e.2).flatMap fun e' => rowLocations e.1 e'.1 e'.2
  refine ⟨_, ?_, houter.trans ?_⟩
  · rw [searchRow, SearchRow.ofHit, Row.into, h]
    rfl
  · have hflat : (FiniteMap.flatten (fun locs => locs.zipIdx.map atPlace) locations).map
        servedLocation = locations.pairs.flatMap fun e => e.2.pairs.flatMap fun e' =>
          (e'.2.zipIdx.map atPlace).map fun loc => servedLocation ((e.1, e'.1), loc) := by
      simp only [FiniteMap.flatten, List.map_flatMap, List.map_map]
      rfl
    rw [hflat]
    exact List.Perm.flatMap_left _ fun e _ => hinner e.1 e.2

theorem counted_iff {locs : List RowLocation} :
    Counted locs <-> (locs.zipIdx.map atPlace).Perm locs := by
  have hinjective : Function.Injective fun loc : RowLocation => (extent loc, loc.position) := by
    intro ⟨position, start, end_, arrays⟩ ⟨position', start', end_', arrays'⟩ h
    simp only [extent, Prod.mk.injEq] at h
    rcases h with ⟨⟨rfl, rfl, rfl⟩, rfl⟩
    rfl
  rw [← List.map_perm_map_iff hinjective, List.map_map]
  exact FiniteMap.perm_iff_valuesAt.symm.trans (List.perm_comm)

theorem locationsKept_iff (order : MapOrder) (row : Row f64 raw) :
    LocationsKept row (searchRow order row) <->
      forall locations field term locs, row.locations = some locations ->
        FiniteMap.lookupIn locations field term = some locs -> Counted locs := by
  cases hrow : row.locations with
  | none =>
      have hnone : (searchRow order row).locations = none := by
        rw [searchRow, SearchRow.ofHit, Row.into, hrow]
        rfl
      unfold LocationsKept
      rw [hrow, hnone]
      constructor
      · intro _ locations field term locs h
        cases h
      · intro _
        trivial
  | some locations =>
      rcases locations_searchRow order row hrow with ⟨found, hfound, hperm⟩
      unfold LocationsKept
      rw [hrow, hfound]
      have hkept : found.Perm (servedLocations locations) <->
          forall field term locs, FiniteMap.lookupIn locations field term = some locs ->
            Counted locs := by
        have hflat : (FiniteMap.flatten (fun locs => locs.zipIdx.map atPlace) locations).Perm
            (FiniteMap.flatten id locations) <-> forall field term locs,
              FiniteMap.lookupIn locations field term = some locs ->
                (locs.zipIdx.map atPlace).Perm locs := FiniteMap.flatten_perm_iff
        simp only [counted_iff]
        rw [← hflat, ← List.map_perm_map_iff servedLocation_injective]
        exact ⟨hperm.symm.trans, hperm.trans⟩
      constructor
      · intro h locations' field term locs hlocations
        cases hlocations
        exact hkept.mp h field term locs
      · intro h
        exact hkept.mpr fun field term locs => h locations field term locs rfl

/-!
# Facets
-/

theorem readI64_toJson (n : Count) : readI64 n.toJson = some (Int64.ofNat n.val) := by
  have hdigits : (Nat.toDigits 10 n.val).all Char.isDigit = true :=
    List.all_eq_true.mpr fun c hc => JsonValue.isDigit_of_mem_toDigits hc
  have hvalue : Nat.ofDigitChars 10 (Nat.toDigits 10 n.val) 0 = n.val :=
    Nat.ofDigitChars_toDigits (by decide) (by decide)
  unfold readI64 Count.toJson JsonValue.ofNat JsonNumber.ofNat
  dsimp only
  split
  · next digits heq =>
      rw [heq] at hdigits
      exact absurd hdigits (by simp)
  · rw [hdigits, hvalue, Bool.true_and, decide_eq_true n.isLt, if_pos rfl]

theorem toInt_ofNat (n : Count) : (Int64.ofNat n.val).toInt = n.val :=
  Int64.toInt_ofNat_of_lt n.isLt

/-- A count is not negative, so that it is the same as an unsigned number. -/
theorem toNat_toUInt64_ofNat (n : Count) : (Int64.ofNat n.val).toUInt64.toNat = n.val := by
  rw [Int64.toUInt64_ofNat']
  exact UInt64.toNat_ofNat_of_lt (lt_trans n.isLt (by decide))

theorem term_kept (s : ServedTerm) :
    exists f, TermFacet.deserialize (record s.fields) = some f ∧ TermKept s f.into := by
  have hnodup : (s.fields.map Prod.fst).Nodup := by
    show ["term", "count"].Nodup
    decide
  have hmembers : members TermFacet.shape (record s.fields) = some (present s.fields) := rfl
  have hterm : required readString "term" (present s.fields) = some s.term :=
    required_present hnodup rfl rfl
  have hcount : required readI64 "count" (present s.fields) = some (Int64.ofNat s.count.val) :=
    required_present hnodup rfl (readI64_toJson s.count)
  refine ⟨{ term := s.term, count := Int64.ofNat s.count.val }, ?_, rfl, toInt_ofNat s.count⟩
  simp only [TermFacet.deserialize, hmembers, hterm, hcount, Option.bind_eq_bind,
    Option.bind_some]

/-- A range is kept where both bounds are there. -/
theorem numericRange_kept (t : FloatText f64) (zero : f64) {s : ServedNumericRange f64}
    (h : s.min.isSome ∧ s.max.isSome) :
    exists f, NumericFacet.deserialize t.readValue (record (s.fields t)) = some f ∧
      NumericRangeKept s (f.into zero) := by
  rcases s with ⟨name, min, max, count⟩
  rcases Option.isSome_iff_exists.mp h.1 with ⟨lower, rfl⟩
  rcases Option.isSome_iff_exists.mp h.2 with ⟨upper, rfl⟩
  let s : ServedNumericRange f64 := { name, min := some lower, max := some upper, count }
  have hnodup : ((s.fields t).map Prod.fst).Nodup := by
    show ["name", "min", "max", "count"].Nodup
    decide
  have hmembers : members NumericFacet.shape (record (s.fields t)) =
      some (present (s.fields t)) := rfl
  have hname : required readString "name" (present (s.fields t)) = some name :=
    required_present hnodup rfl rfl
  have hnull : forall x, some (t.value x) ≠ some JsonValue.null := by
    intro x heq
    cases heq
  have hmin : optional t.readValue "min" (present (s.fields t)) = some (some lower) :=
    optional_present hnodup rfl (hnull lower) (congrArg some (t.readValue_value lower))
  have hmax : optional t.readValue "max" (present (s.fields t)) = some (some upper) :=
    optional_present hnodup rfl (hnull upper) (congrArg some (t.readValue_value upper))
  have hcount : required readI64 "count" (present (s.fields t)) =
      some (Int64.ofNat count.val) :=
    required_present hnodup rfl (readI64_toJson count)
  refine ⟨{ name, min := some lower, max := some upper, count := Int64.ofNat count.val }, ?_,
    rfl, rfl, rfl, toInt_ofNat count⟩
  simp only [NumericFacet.deserialize, s, hmembers, hname, hmin, hmax, hcount,
    Option.bind_eq_bind, Option.bind_some]

theorem dateRange_kept {s : ServedDateRange parse} (h : s.start.isSome ∧ s.end_.isSome) :
    exists f r, DateFacet.deserialize (record s.fields) = some f ∧ f.tryInto parse = .ok r ∧
      DateRangeKept s r := by
  rcases s with ⟨name, start, end_, count⟩
  rcases Option.isSome_iff_exists.mp h.1 with ⟨first, rfl⟩
  rcases Option.isSome_iff_exists.mp h.2 with ⟨last, rfl⟩
  let s : ServedDateRange parse := { name, start := some first, end_ := some last, count }
  have hnodup : (s.fields.map Prod.fst).Nodup := by
    show ["name", "start", "end", "count"].Nodup
    decide
  have hmembers : members DateFacet.shape (record s.fields) = some (present s.fields) := rfl
  have hname : required readString "name" (present s.fields) = some name :=
    required_present hnodup rfl rfl
  have hstart : required readString "start" (present s.fields) = some first.text :=
    required_present hnodup rfl rfl
  have hend : required readString "end" (present s.fields) = some last.text :=
    required_present hnodup rfl rfl
  have hcount : required readI64 "count" (present s.fields) = some (Int64.ofNat count.val) :=
    required_present hnodup rfl (readI64_toJson count)
  refine ⟨{ name, start := first.text, end_ := last.text, count := Int64.ofNat count.val },
    { name, start := first.value, end_ := last.value, count := Int64.ofNat count.val }, ?_, ?_,
    rfl, rfl, rfl, toInt_ofNat count⟩
  · simp only [DateFacet.deserialize, s, hmembers, hname, hstart, hend, hcount,
      Option.bind_eq_bind, Option.bind_some]
  · simp only [DateFacet.tryInto, parseDate, first.parses, last.parses]
    rfl

theorem readList_toArray {alpha beta : Type} {read : JsonValue -> Option beta}
    {fields : alpha -> Fields} {R : alpha -> beta -> Prop} {items : List alpha}
    (h : forall a, a ∈ items -> exists b, read (record (fields a)) = some b ∧ R a b) :
    exists l, Searchx.readList read (toArray fields items) = some l ∧
      List.Forall₂ R items l := by
  rcases FiniteMap.mapM_forall₂ h with ⟨l, hl, hR⟩
  refine ⟨l, ?_, hR⟩
  rw [toArray, Searchx.readList, List.mapM_map]
  exact hl

/-- The fields of a facet are read, whatever its kinds are. -/
theorem facet_deserialize (t : FloatText f64) (s : ServedFacet f64 parse)
    (terms : Option (List TermFacet)) (numeric : Option (List (NumericFacet f64)))
    (dates : Option (List DateFacet))
    (hterms : (s.terms.map (toArray ServedTerm.fields)).map
      (Searchx.readList TermFacet.deserialize) = terms.map some)
    (hnumeric : (s.numericRanges.map (toArray (ServedNumericRange.fields t))).map
      (Searchx.readList (NumericFacet.deserialize t.readValue)) = numeric.map some)
    (hdates : (s.dateRanges.map (toArray ServedDateRange.fields)).map
      (Searchx.readList DateFacet.deserialize) = dates.map some) :
    Facet.deserialize t.readValue (record (s.fields t)) =
      some { field := s.field, total := Int64.ofNat s.total.val
             missing := Int64.ofNat s.missing.val, other := Int64.ofNat s.other.val
             terms := terms, numericRanges := numeric, dateRanges := dates } := by
  have hnodup : ((s.fields t).map Prod.fst).Nodup := by
    show ["field", "total", "missing", "other", "terms", "numeric_ranges", "date_ranges"].Nodup
    decide
  have hnull : forall {alpha : Type} (fields : alpha -> Fields) (o : Option (List alpha)),
      o.map (toArray fields) ≠ some .null := by
    intro alpha fields o heq
    cases o with
    | none => cases heq
    | some items => cases heq
  have hmembers : members Facet.shape (record (s.fields t)) = some (present (s.fields t)) := rfl
  have hfield : required readString "field" (present (s.fields t)) = some s.field :=
    required_present hnodup rfl rfl
  have htotal : required readI64 "total" (present (s.fields t)) =
      some (Int64.ofNat s.total.val) :=
    required_present hnodup rfl (readI64_toJson s.total)
  have hmissing : required readI64 "missing" (present (s.fields t)) =
      some (Int64.ofNat s.missing.val) :=
    required_present hnodup rfl (readI64_toJson s.missing)
  have hother : required readI64 "other" (present (s.fields t)) =
      some (Int64.ofNat s.other.val) :=
    required_present hnodup rfl (readI64_toJson s.other)
  have hterms' : optional (Searchx.readList TermFacet.deserialize) "terms"
      (present (s.fields t)) = some terms :=
    optional_present hnodup rfl (hnull _ s.terms) hterms
  have hnumeric' : optional (Searchx.readList (NumericFacet.deserialize t.readValue))
      "numeric_ranges" (present (s.fields t)) = some numeric :=
    optional_present hnodup rfl (hnull _ s.numericRanges) hnumeric
  have hdates' : optional (Searchx.readList DateFacet.deserialize) "date_ranges"
      (present (s.fields t)) = some dates :=
    optional_present hnodup rfl (hnull _ s.dateRanges) hdates
  simp only [Facet.deserialize, hmembers, hfield, htotal, hmissing, hother, hterms', hnumeric',
    hdates', Option.bind_eq_bind, Option.bind_some]

/-- A facet that was read becomes a result which keeps what the service has sent. -/
def BecomesKept (reader : FacetReader f64 date) (name : String)
    (s : ServedFacet f64 reader.parseFromRfc3339) (f : Facet f64) : Prop :=
  exists wrapped, f.tryInto reader.zero reader.parseFromRfc3339 = .ok wrapped ∧
    exists r, searchFacet name wrapped = some r ∧ FacetKept name s r

theorem forall₂_map_right {alpha beta gamma : Type} {R : alpha -> beta -> Prop}
    {f : gamma -> beta} {l : List alpha} {l' : List gamma}
    (h : List.Forall₂ (fun a c => R a (f c)) l l') : List.Forall₂ R l (l'.map f) :=
  List.forall₂_map_right_iff.mpr h

theorem terms_becomesKept (reader : FacetReader f64 date) (name : String)
    {s : ServedFacet f64 reader.parseFromRfc3339} {ts : List ServedTerm}
    (hterms : s.terms = some ts) (hnumeric : s.numericRanges = none) (hdates : s.dateRanges = none) :
    exists f, Facet.deserialize reader.floats.readValue (record (s.fields reader.floats)) = some f ∧
      BecomesKept reader name s f := by
  rcases readList_toArray fun a (_ : a ∈ ts) => term_kept a with ⟨fs, hfs, hkept⟩
  have hread := facet_deserialize reader.floats s (some fs) none none
    (by rw [hterms]; exact congrArg some hfs) (by rw [hnumeric]; rfl)
    (by rw [hdates]; rfl)
  refine ⟨_, hread, _, rfl, _, rfl, rfl, rfl, toNat_toUInt64_ofNat _, toNat_toUInt64_ofNat _,
    toNat_toUInt64_ofNat _, ?_⟩
  exact ⟨⟨ts, hterms, forall₂_map_right hkept⟩, hnumeric, hdates⟩

theorem numericRanges_becomesKept (reader : FacetReader f64 date) (name : String)
    {s : ServedFacet f64 reader.parseFromRfc3339} {ns : List (ServedNumericRange f64)}
    (hterms : s.terms = none) (hnumeric : s.numericRanges = some ns) (hdates : s.dateRanges = none)
    (hbounds : forall r, r ∈ ns -> r.min.isSome ∧ r.max.isSome) :
    exists f, Facet.deserialize reader.floats.readValue (record (s.fields reader.floats)) = some f ∧
      BecomesKept reader name s f := by
  rcases readList_toArray fun a (ha : a ∈ ns) =>
    numericRange_kept reader.floats reader.zero (hbounds a ha) with ⟨fs, hfs, hkept⟩
  have hread := facet_deserialize reader.floats s none (some fs) none
    (by rw [hterms]; rfl) (by rw [hnumeric]; exact congrArg some hfs)
    (by rw [hdates]; rfl)
  refine ⟨_, hread, _, rfl, _, rfl, rfl, rfl, toNat_toUInt64_ofNat _, toNat_toUInt64_ofNat _,
    toNat_toUInt64_ofNat _, ?_⟩
  exact ⟨⟨ns, hnumeric, forall₂_map_right hkept⟩, hterms, hdates⟩

theorem dateRanges_becomesKept (reader : FacetReader f64 date) (name : String)
    {s : ServedFacet f64 reader.parseFromRfc3339}
    {ds : List (ServedDateRange reader.parseFromRfc3339)}
    (hterms : s.terms = none) (hnumeric : s.numericRanges = none) (hdates : s.dateRanges = some ds)
    (hbounds : forall r, r ∈ ds -> r.start.isSome ∧ r.end_.isSome) :
    exists f, Facet.deserialize reader.floats.readValue (record (s.fields reader.floats)) = some f ∧
      BecomesKept reader name s f := by
  have hitem : forall a, a ∈ ds -> exists f, DateFacet.deserialize (record a.fields) = some f ∧
      exists r, f.tryInto reader.parseFromRfc3339 = .ok r ∧ DateRangeKept a r := by
    intro a ha
    rcases dateRange_kept (hbounds a ha) with ⟨f, r, hf, hr⟩
    exact ⟨f, hf, r, hr⟩
  rcases readList_toArray hitem with ⟨fs, hfs, hkept⟩
  rcases FiniteMap.mapM_of_forall₂ hkept with ⟨rs, hrs, hkept'⟩
  have hread := facet_deserialize reader.floats s none none (some fs)
    (by rw [hterms]; rfl) (by rw [hnumeric]; rfl) (by rw [hdates]; exact congrArg some hfs)
  have hrs' : fs.mapM (DateFacet.tryInto reader.parseFromRfc3339) = .ok rs := hrs
  refine ⟨_, hread, { field := s.field, total := Int64.ofNat s.total.val
                      missing := Int64.ofNat s.missing.val, other := Int64.ofNat s.other.val
                      terms := none, numericRanges := none, dateRanges := some rs }, ?_, ?_⟩
  · simp only [Facet.tryInto, Facet.dates, hrs']
    rfl
  · exact ⟨_, rfl, rfl, rfl, toNat_toUInt64_ofNat _, toNat_toUInt64_ofNat _,
      toNat_toUInt64_ofNat _, ⟨ds, hdates, hkept'⟩, hterms, hnumeric⟩

theorem becomesKept_of_whole (reader : FacetReader f64 date) (name : String)
    {s : ServedFacet f64 reader.parseFromRfc3339} (h : Whole s) :
    exists f, Facet.deserialize reader.floats.readValue (record (s.fields reader.floats)) = some f ∧
      BecomesKept reader name s f := by
  unfold Whole at h
  split at h
  · next hterms hnumeric hdates => exact terms_becomesKept reader name hterms hnumeric hdates
  · next hterms hnumeric hdates =>
      exact numericRanges_becomesKept reader name hterms hnumeric hdates h
  · next hterms hnumeric hdates =>
      exact dateRanges_becomesKept reader name hterms hnumeric hdates h
  · cases h

theorem forall₂_bounds {alpha beta : Type} {R : alpha -> beta -> Prop} {p : alpha -> Prop}
    {l : List alpha} {l' : List beta} (h : List.Forall₂ R l l') (hp : forall a b, R a b -> p a) :
    forall a, a ∈ l -> p a := by
  induction h with
  | nil =>
      intro a ha
      cases ha
  | cons hab _ ih =>
      intro a ha
      rcases List.mem_cons.mp ha with rfl | ha
      · exact hp _ _ hab
      · exact ih a ha

/-- A result has its bounds, so nothing is kept of a range without one. -/
theorem whole_of_kindKept {s : ServedFacet f64 parse} {r : SearchFacetResultType f64 date}
    (h : KindKept s r) : Whole s := by
  cases r with
  | termFacets rs =>
      rcases h with ⟨⟨ts, hterms, _⟩, hnumeric, hdates⟩
      unfold Whole
      rw [hterms, hnumeric, hdates]
      trivial
  | numericRangeFacets rs =>
      rcases h with ⟨⟨ns, hnumeric, hkept⟩, hterms, hdates⟩
      unfold Whole
      rw [hterms, hnumeric, hdates]
      apply forall₂_bounds (p := fun r => r.min.isSome ∧ r.max.isSome) hkept
      intro a b hab
      rw [hab.min, hab.max]
      exact ⟨rfl, rfl⟩
  | dateRangeFacets rs =>
      rcases h with ⟨⟨ds, hdates, hkept⟩, hterms, hnumeric⟩
      unfold Whole
      rw [hterms, hnumeric, hdates]
      apply forall₂_bounds (p := fun r => r.start.isSome ∧ r.end_.isSome) hkept
      intro a b hab
      have hstart := congrArg Option.isSome hab.start
      have hend := congrArg Option.isSome hab.end_
      rw [Option.isSome_map] at hstart hend
      exact ⟨hstart, hend⟩

theorem readFacets_facetsJson (reader : FacetReader f64 date)
    {served : FiniteMap String (ServedFacet f64 reader.parseFromRfc3339)}
    (h : forall name s, served.lookup name = some s -> Whole s) :
    exists respFacets, readFacets reader.floats.readValue (facetsJson reader.floats served) =
        some respFacets ∧
      FiniteMap.Related (BecomesKept reader) served respFacets := by
  have hentry : forall e, e ∈ served.pairs -> exists e',
      (Facet.deserialize reader.floats.readValue (record (e.2.fields reader.floats))).map
          (fun facet => (e.1, facet)) = some e' ∧
        e'.1 = e.1 ∧ BecomesKept reader e.1 e.2 e'.2 := by
    intro e he
    rcases becomesKept_of_whole reader e.1 (h e.1 e.2 (FiniteMap.mem_pairs.mp he)) with
      ⟨f, hf, hkept⟩
    exact ⟨(e.1, f), by rw [hf]; rfl, rfl, hkept⟩
  rcases FiniteMap.mapM_forall₂ hentry with ⟨entries, hentries, hkept⟩
  refine ⟨FiniteMap.insertAll ∅ entries, ?_, FiniteMap.Entrywise.related MapOrder.kept hkept⟩
  rw [facetsJson, readFacets, List.mapM_map]
  exact congrArg (Option.map _) hentries

theorem finalFacets_facetsJson (reader : FacetReader f64 date)
    {served : FiniteMap String (ServedFacet f64 reader.parseFromRfc3339)}
    (h : forall name s, served.lookup name = some s -> Whole s) :
    exists wrapped, reader.finalFacets (facetsJson reader.floats served) = .ok wrapped ∧
      FiniteMap.Related (fun name s w => exists r, searchFacet name w = some r ∧
        FacetKept name s r) served wrapped := by
  rcases readFacets_facetsJson reader h with ⟨respFacets, hread, hrelated⟩
  have hentry : forall e, e ∈ reader.order.pairs respFacets -> exists e',
      (e.2.tryInto reader.zero reader.parseFromRfc3339).map (fun facet => (e.1, facet)) = .ok e' ∧
        e'.1 = e.1 ∧ e.2.tryInto reader.zero reader.parseFromRfc3339 = .ok e'.2 := by
    intro e he
    rcases hrelated.exists_left ((reader.order.mem_pairs respFacets).mp he) with
      ⟨s, _, wrapped, hwrapped, _⟩
    exact ⟨(e.1, wrapped), by rw [hwrapped]; rfl, rfl, hwrapped⟩
  rcases FiniteMap.mapM_forall₂ hentry with ⟨entries, hentries, hinto⟩
  refine ⟨FiniteMap.insertAll ∅ entries, ?_, ?_⟩
  · rw [FacetReader.finalFacets, hread]
    exact congrArg (Except.map _) hentries
  · have hentries' : FiniteMap.Related (fun _ (f : Facet f64) w =>
        f.tryInto reader.zero reader.parseFromRfc3339 = .ok w) respFacets
          (FiniteMap.insertAll ∅ entries) := FiniteMap.Entrywise.related reader.order hinto
    apply (hrelated.trans hentries').mono
    intro name s w _ hboth
    rcases hboth with ⟨f, ⟨w', hw', hkept⟩, hw⟩
    rw [hw'] at hw
    cases hw
    exact hkept

/-- Every facet that is whole is kept, whatever the others are. -/
theorem facetsKept_iff (reader : FacetReader f64 date)
    (served : FiniteMap String (ServedFacet f64 reader.parseFromRfc3339)) :
    FacetsKept reader served <-> forall name s, served.lookup name = some s -> Whole s := by
  constructor
  · intro ⟨results, _, hrelated⟩ name s hs
    have hname := hrelated name
    rw [hs] at hname
    cases hr : results.lookup name with
    | none =>
        rw [hr] at hname
        cases hname
    | some r =>
        rw [hr] at hname
        cases hname with
        | some hkept => exact whole_of_kindKept hkept.kind
  · intro h
    rcases finalFacets_facetsJson reader h with ⟨wrapped, hwrapped, hrelated⟩
    have hentry : forall e, e ∈ reader.order.pairs wrapped -> exists e',
        (searchFacet e.1 e.2).map (fun facet => (e.1, facet)) = some e' ∧
          e'.1 = e.1 ∧ searchFacet e.1 e.2 = some e'.2 := by
      intro e he
      rcases hrelated.exists_left ((reader.order.mem_pairs wrapped).mp he) with ⟨s, _, r, hr, _⟩
      exact ⟨(e.1, r), by rw [hr]; rfl, rfl, hr⟩
    have hentries := FiniteMap.Entrywise.related reader.order
      (R := fun name w r => searchFacet name w = some r) (FiniteMap.filterMap_forall₂ hentry)
    have hfacets := congrArg (Except.map fun wrapped =>
      FiniteMap.insertAll ∅ ((reader.order.pairs wrapped).filterMap fun e =>
        (searchFacet e.1 e.2).map fun facet => (e.1, facet))) hwrapped
    refine ⟨_, hfacets, ?_⟩
    apply (hrelated.trans hentries).mono
    intro name s r _ hboth
    rcases hboth with ⟨w, ⟨r', hr', hkept⟩, hr⟩
    rw [hr'] at hr
    cases hr
    exact hkept

/-!
# Responses
-/

/-- Results are faithful exactly if every location has its place as its position, and every facet
is of one kind with all its bounds. -/
theorem faithful_iff (reader : FacetReader f64 date)
    (response : Response f64 raw reader.parseFromRfc3339) :
    Faithful reader response <-> Plain response := by
  constructor
  · intro ⟨hrows, hfacets⟩
    constructor
    · intro row locations field term locs hrow hlocations hlocs
      exact (locationsKept_iff reader.order row).mp (hrows row hrow) locations field term locs
        hlocations hlocs
    · exact (facetsKept_iff reader response.facets).mp hfacets
  · intro h
    constructor
    · intro row hrow
      apply (locationsKept_iff reader.order row).mpr
      intro locations field term locs hlocations hlocs
      exact h.counted row locations field term locs hrow hlocations hlocs
    · exact (facetsKept_iff reader response.facets).mpr h.whole

def plainReader : FacetReader JsonNumber String where
  floats := .exact
  zero := .ofNat 0
  parseFromRfc3339 := .ok
  order := .kept

/-- A hit for one term, which stands in a text at the position. -/
def hitAt (position : UInt32) : Row JsonNumber Unit where
  index := none
  id := "hotel_1"
  score := .ofNat 1
  explanation := none
  locations := some (FiniteMap.insertAll ∅ [("description", FiniteMap.insertAll ∅
    [("pool", [{ position := position, start := 10, end_ := 14, arrayPositions := none }])])])
  fragments := none
  fields := none

/-- A facet with a numeric range below ten. -/
def belowTen : ServedFacet JsonNumber plainReader.parseFromRfc3339 where
  field := "rating"
  total := 3
  missing := 0
  other := 0
  terms := none
  numericRanges := some [{ name := "low", min := none, max := some (.ofNat 10), count := 3 }]
  dateRanges := none

/-- A facet with a range of dates that has no end. -/
def sinceStart : ServedFacet JsonNumber plainReader.parseFromRfc3339 where
  field := "updated"
  total := 3
  missing := 0
  other := 0
  terms := none
  numericRanges := none
  dateRanges := some [{ name := "recent", end_ := none, count := 3
                        start := some ⟨"2024-01-01T00:00:00Z", "2024-01-01T00:00:00Z", rfl⟩ }]

theorem not_faithful :
    ¬ Faithful plainReader { rows := [hitAt 1], facets := ∅ } ∧
      ¬ Faithful plainReader { rows := ([] : List (Row JsonNumber Unit))
                               facets := FiniteMap.insertAll ∅ [("ratings", belowTen)] } ∧
      ¬ Faithful plainReader { rows := ([] : List (Row JsonNumber Unit))
                               facets := FiniteMap.insertAll ∅ [("dates", sinceStart)] } := by
  refine ⟨?_, ?_, ?_⟩
  · intro h
    have hcounted := (locationsKept_iff _ _).mp (h.1 _ List.mem_cons_self) _ "description" "pool" _
      rfl rfl (10, 14, none)
    exact absurd hcounted (by decide)
  · intro h
    have hwhole : Whole belowTen := (facetsKept_iff _ _).mp h.2 "ratings" belowTen rfl
    have hmin := (hwhole _ List.mem_cons_self).1
    cases hmin
  · intro h
    have hwhole : Whole sinceStart := (facetsKept_iff _ _).mp h.2 "dates" sinceStart rfl
    have hend := (hwhole _ List.mem_cons_self).2
    cases hend

end Search
end CouchbaseSdk
