import CouchbaseSdk.Foundation.JsonRoundTrip
import CouchbaseSdk.Kv.Projection

/-!
# Getting a document

A document is fetched as it is, or by a lookup: with its time of expiry, or with parts of it only.
At most sixteen operations go into one lookup, and the whole document is looked up in place of more
parts.
-/

namespace CouchbaseSdk
namespace Kv

open Foundation

structure GetOptions where
  expiry : Option Bool := none
  projections : Option (List String) := none

/-- A document with its time of expiry. -/
structure ExpiringResult (time : Type) extends GetResult where
  expiryTime : Option time

def readU64 (v : JsonValue) : Option UInt64 :=
  v.toNat.bind fun n => if n < 2 ^ 64 then some (UInt64.ofNat n) else none

def readU32 (v : JsonValue) : Option UInt32 :=
  v.toNat.bind fun n => if n < 2 ^ 32 then some (UInt32.ofNat n) else none

/-!
# The lookup
-/

namespace GetOptions

def withExpiry (options : GetOptions) : Bool :=
  options.expiry = some true

def numProjections (options : GetOptions) : Nat :=
  (options.projections.map List.length).getD 0

/-- Flags are not part of a lookup, so they are looked up for a whole document. -/
def withFlags (options : GetOptions) : Bool :=
  options.withExpiry && options.numProjections == 0

def numLookups (options : GetOptions) : Nat :=
  if options.withExpiry then options.numProjections + 1 else options.numProjections

def fullLookup (options : GetOptions) : Bool :=
  decide (16 < options.numLookups) || options.projections.isNone

def contentSpecs (options : GetOptions) : List LookupInSpec :=
  if options.fullLookup then [LookupInSpec.get "" none]
  else (options.projections.getD []).map fun projection => LookupInSpec.get projection none

def specs (options : GetOptions) : List LookupInSpec :=
  (if options.withExpiry then [LookupInSpec.get "$document.exptime" (some true)] else []) ++
    ((if options.withFlags then [LookupInSpec.get "$document.flags" (some true)] else []) ++
      options.contentSpecs)

/-- The document is not fetched as it is. -/
def looksUp (options : GetOptions) : Bool :=
  options.expiry.isSome || options.projections.isSome

end GetOptions

/-!
# The result
-/

/-- The first of a list that has one is removed. -/
def removeFirst {error alpha : Type} : List alpha -> Exec error (List alpha)
  | [] => .panic
  | _ :: rest => .ok rest

section Get

variable {time : Type} (fromTimestamp : Int64 -> Option time)
  (fromSlice : Buffer -> Option JsonValue) (agentGet : Exec ErrorKind GetResult)
  (lookupIn : List LookupInSpec -> Exec ErrorKind LookupInResult)

def getDirect : Exec ErrorKind (ExpiringResult time) :=
  agentGet.map fun res => { toGetResult := res, expiryTime := none }

/-- The time of expiry, and the entries behind it. -/
def takeExpiry (withExpiry : Bool) (res : LookupInResult) :
    Exec ErrorKind (Option time × LookupInResult) :=
  if withExpiry then do
    let expiry <- Exec.ofExcept (res.contentAs readU64 0)
    match fromTimestamp expiry.toInt64 with
    | none => .err (.otherFailure "invalid expiry time returned from server")
    | some expiresAt => do
        let entries <- removeFirst res.entries
        return (some expiresAt, { res with entries := entries })
  else return (none, res)

/-- The flags, and the entries behind them. -/
def takeFlags (withFlags : Bool) (res : LookupInResult) :
    Exec ErrorKind (UInt32 × LookupInResult) :=
  if withFlags then do
    let flags <- Exec.ofExcept (res.contentAs readU32 0)
    let entries <- removeFirst res.entries
    return (flags, { res with entries := entries })
  else return (0, res)

def getWithProjections (options : GetOptions) : Exec ErrorKind (ExpiringResult time) := do
  let res <- lookupIn options.specs
  let (expiresAt, res) <- takeExpiry fromTimestamp options.withExpiry res
  let (flags, res) <- takeFlags options.withFlags res
  -- The specs in front of those of the content have gone with their entries.
  let content <-
    if options.fullLookup then buildFromFullDoc fromSlice res options.projections
    else buildFromSubdocEntries fromSlice options.contentSpecs res.entries
  return { content := content, flags := flags, cas := res.cas, expiryTime := expiresAt }

def get (options : GetOptions) : Exec ErrorKind (ExpiringResult time) :=
  if options.looksUp then getWithProjections fromTimestamp fromSlice lookupIn options
  else getDirect agentGet

end Get

/-!
# What the options change

A server with one document, and when every way to get it sends a lookup that may be sent, comes to
an end, and without projections has what the plain way has.
-/

/-- A document, and what a lookup of a path in its content gives. -/
structure StoredDocument where
  content : Buffer
  flags : UInt32
  cas : UInt64
  exptime : UInt32
  part : String -> Except ErrorKind Buffer

namespace StoredDocument

/-- The whole document has the empty path, and its extended attributes have paths of their own. -/
def look (doc : StoredDocument) (spec : LookupInSpec) : Except ErrorKind Buffer :=
  if spec.isXattr then
    if spec.path = "$document.exptime" then .ok (JsonValue.ofNat doc.exptime.toNat).toVec
    else if spec.path = "$document.flags" then .ok (JsonValue.ofNat doc.flags.toNat).toVec
    else .error .pathNotFound
  else if spec.path = "" then .ok doc.content
  else doc.part spec.path

def entry (doc : StoredDocument) (spec : LookupInSpec) : LookupInResultEntry :=
  match doc.look spec with
  | .ok bytes => { value := some bytes, error := none, op := spec.op }
  | .error e => { value := none, error := some e, op := spec.op }

def plain (doc : StoredDocument) : GetResult :=
  { content := doc.content, flags := doc.flags, cas := doc.cas }

end StoredDocument

/-- The document is got, and a lookup of one to sixteen operations has an entry for each. -/
structure Serves (doc : StoredDocument) (agentGet : Exec ErrorKind GetResult)
    (lookupIn : List LookupInSpec -> Exec ErrorKind LookupInResult) : Prop where
  plain : agentGet = .ok doc.plain
  lookup : forall specs, 1 ≤ specs.length -> specs.length ≤ 16 ->
    lookupIn specs = .ok { cas := doc.cas, entries := specs.map doc.entry }

/-- The times that a document can expire at are times. -/
def KnowsTimes {time : Type} (fromTimestamp : Int64 -> Option time) : Prop :=
  forall exptime : UInt32, (fromTimestamp exptime.toUInt64.toInt64).isSome

section Meaning

variable {time : Type} (fromTimestamp : Int64 -> Option time)
  (fromSlice : Buffer -> Option JsonValue) (agentGet : Exec ErrorKind GetResult)
  (lookupIn : List LookupInSpec -> Exec ErrorKind LookupInResult) (options : GetOptions)

structure GetKeepsMeaning : Prop where
  sent : options.looksUp = true -> 1 ≤ options.specs.length ∧ options.specs.length ≤ 16
  returns : (get fromTimestamp fromSlice agentGet lookupIn options).Returns
  same : options.numProjections = 0 ->
    exists (plain res : ExpiringResult time), getDirect agentGet = .ok plain ∧
      get fromTimestamp fromSlice agentGet lookupIn options = .ok res ∧
      res.toGetResult = plain.toGetResult

end Meaning

/-- There is nothing in a path but dots. -/
def NoName (projection : String) : Prop :=
  forall c, c ∈ projection.toList -> c = '.'

section Condition

variable (fromSlice : Buffer -> Option JsonValue) (doc : StoredDocument)

/-- What comes back for a projection is no reason to stop. -/
def GoesOn (projection : String) : Prop :=
  exists value,
    lookupValue fromSlice (doc.entry (LookupInSpec.get projection none)) = .ok value

/-- There is a value for a projection, in JSON. -/
def HasValue (projection : String) : Prop :=
  exists value,
    lookupValue fromSlice (doc.entry (LookupInSpec.get projection none)) = .ok (some value)

/-- A path without a name comes to be written. -/
def WritesNoName (projections : List String) : Prop :=
  exists before projection after, projections = before ++ projection :: after ∧
    (forall other, other ∈ before -> GoesOn fromSlice doc other) ∧
    HasValue fromSlice doc projection ∧ NoName projection

/-- Without projections a fetch that is said to go without the expiry has no flags, and an empty
list of projections makes an empty object.  With some, none without a name is written. -/
def MeaningKept (options : GetOptions) : Prop :=
  match options.projections with
  | none => options.expiry = some false -> doc.flags = 0
  | some [] => options.expiry = some true ∧ doc.content = (JsonValue.object []).toVec
  | some projections =>
      if options.fullLookup then
        (fromSlice doc.content).isSome -> forall projection, projection ∈ projections ->
          ¬ NoName projection
      else ¬ WritesNoName fromSlice doc projections

end Condition

/-!
# What the server answers
-/

namespace StoredDocument

theorem entry_of_look {doc : StoredDocument} {spec : LookupInSpec} {bytes : Buffer}
    (h : doc.look spec = .ok bytes) :
    doc.entry spec = { value := some bytes, error := none, op := spec.op } := by
  unfold entry
  rw [h]

theorem entry_exptime (doc : StoredDocument) :
    doc.entry (LookupInSpec.get "$document.exptime" (some true)) =
      { value := some (JsonValue.ofNat doc.exptime.toNat).toVec, error := none, op := .get } :=
  entry_of_look rfl

theorem entry_flags (doc : StoredDocument) :
    doc.entry (LookupInSpec.get "$document.flags" (some true)) =
      { value := some (JsonValue.ofNat doc.flags.toNat).toVec, error := none, op := .get } :=
  entry_of_look rfl

theorem entry_content (doc : StoredDocument) :
    doc.entry (LookupInSpec.get "" none) =
      { value := some doc.content, error := none, op := .get } :=
  entry_of_look rfl

end StoredDocument

theorem readU64_ofNat (exptime : UInt32) :
    readU64 (JsonValue.ofNat exptime.toNat) = some exptime.toUInt64 := by
  have hlt : exptime.toNat < 2 ^ 64 := Nat.lt_trans exptime.toNat_lt (by decide)
  unfold readU64
  rw [JsonValue.toNat_ofNat, Option.bind_some, if_pos hlt, UInt64.ofNat_uInt32ToNat]

theorem readU32_ofNat (flags : UInt32) : readU32 (JsonValue.ofNat flags.toNat) = some flags := by
  unfold readU32
  rw [JsonValue.toNat_ofNat, Option.bind_some, if_pos flags.toNat_lt, UInt32.ofNat_toNat]

theorem contentAs_number {alpha : Type} {readAs : Deserialize alpha} {n : Nat} {a : alpha}
    (h : readAs (JsonValue.ofNat n) = some a) (cas : UInt64) (rest : List LookupInResultEntry) :
    LookupInResult.contentAs readAs
        { cas := cas
          entries :=
            { value := some (JsonValue.ofNat n).toVec, error := none, op := .get } :: rest } 0 =
      .ok a := by
  have hraw : LookupInResult.contentAsRaw
      { cas := cas
        entries :=
          { value := some (JsonValue.ofNat n).toVec, error := none, op := .get } :: rest } 0 =
      .ok (JsonValue.ofNat n).toVec := rfl
  unfold LookupInResult.contentAs
  simp only [hraw, JsonValue.fromSlice_toVec, Option.bind_some, h]

section Answers

variable {time : Type} {fromTimestamp : Int64 -> Option time}

/-- The expiry is the first entry, if it is looked up. -/
theorem takeExpiry_ok (htimes : KnowsTimes fromTimestamp) (doc : StoredDocument)
    (withExpiry : Bool) (cas : UInt64) (rest : List LookupInSpec) :
    exists expiresAt, takeExpiry fromTimestamp withExpiry
        { cas := cas
          entries :=
            ((if withExpiry then [LookupInSpec.get "$document.exptime" (some true)] else []) ++
              rest).map doc.entry } =
      .ok (expiresAt, { cas := cas, entries := rest.map doc.entry }) := by
  cases withExpiry with
  | false => exact ⟨none, rfl⟩
  | true =>
      rcases Option.isSome_iff_exists.mp (htimes doc.exptime) with ⟨expiresAt, htime⟩
      refine ⟨some expiresAt, ?_⟩
      unfold takeExpiry
      rw [if_pos rfl, if_pos rfl, List.singleton_append, List.map_cons, doc.entry_exptime,
        contentAs_number (readU64_ofNat doc.exptime)]
      simp only [Exec.ofExcept_ok, Exec.ok_bind, htime]
      rfl

theorem takeFlags_ok (doc : StoredDocument) (withFlags : Bool) (cas : UInt64)
    (rest : List LookupInSpec) :
    takeFlags withFlags
        { cas := cas
          entries :=
            ((if withFlags then [LookupInSpec.get "$document.flags" (some true)] else []) ++
              rest).map doc.entry } =
      .ok (if withFlags then doc.flags else 0, { cas := cas, entries := rest.map doc.entry }) := by
  cases withFlags with
  | false => rfl
  | true =>
      unfold takeFlags
      rw [if_pos rfl, if_pos rfl, if_pos rfl, List.singleton_append, List.map_cons,
        doc.entry_flags, contentAs_number (readU32_ofNat doc.flags)]
      rfl

end Answers

/-- The content that is made of the entries for it. -/
def contentOf (fromSlice : Buffer -> Option JsonValue) (doc : StoredDocument)
    (options : GetOptions) : Exec ErrorKind Buffer :=
  let entries := options.contentSpecs.map doc.entry
  if options.fullLookup then
    buildFromFullDoc fromSlice { cas := doc.cas, entries := entries } options.projections
  else buildFromSubdocEntries fromSlice options.contentSpecs entries

section Lookup

variable {time : Type} {fromTimestamp : Int64 -> Option time}
  {fromSlice : Buffer -> Option JsonValue} {doc : StoredDocument}
  {agentGet : Exec ErrorKind GetResult}
  {lookupIn : List LookupInSpec -> Exec ErrorKind LookupInResult}

/-- What comes of a lookup that may be sent. -/
theorem getWithProjections_eq (htimes : KnowsTimes fromTimestamp)
    (hserves : Serves doc agentGet lookupIn) {options : GetOptions}
    (hsome : 1 ≤ options.specs.length) (hfew : options.specs.length ≤ 16) :
    exists expiresAt, getWithProjections fromTimestamp fromSlice lookupIn options =
      (contentOf fromSlice doc options).map fun content =>
        { content := content
          flags := if options.withFlags then doc.flags else 0
          cas := doc.cas
          expiryTime := expiresAt } := by
  rcases takeExpiry_ok htimes doc options.withExpiry doc.cas
    ((if options.withFlags then [LookupInSpec.get "$document.flags" (some true)] else []) ++
      options.contentSpecs) with ⟨expiresAt, hexpiry⟩
  refine ⟨expiresAt, ?_⟩
  unfold getWithProjections
  rw [hserves.lookup options.specs hsome hfew, Exec.ok_bind]
  unfold GetOptions.specs
  rw [hexpiry, Exec.ok_bind]
  simp only [takeFlags_ok, Exec.ok_bind]
  unfold contentOf
  cases options.fullLookup with
  | true =>
      simp only [if_true]
      exact Exec.bind_pure_eq_map _ _
  | false =>
      simp only [Bool.false_eq_true, if_false]
      exact Exec.bind_pure_eq_map _ _

end Lookup

/-!
# How many operations there are
-/

section Specs

variable (options : GetOptions)

theorem length_specs :
    options.specs.length = (if options.withExpiry then 1 else 0) +
      ((if options.withFlags then 1 else 0) + options.contentSpecs.length) := by
  unfold GetOptions.specs
  rw [List.length_append, List.length_append]
  cases options.withExpiry with
  | true =>
      cases options.withFlags with
      | true => rfl
      | false => rfl
  | false =>
      cases options.withFlags with
      | true => rfl
      | false => rfl

/-- One operation for the whole document, or one for each projection. -/
theorem length_contentSpecs :
    options.contentSpecs.length = if options.fullLookup then 1 else options.numProjections := by
  unfold GetOptions.contentSpecs GetOptions.numProjections
  cases options.fullLookup with
  | true => rfl
  | false =>
      rw [if_neg Bool.false_ne_true, if_neg Bool.false_ne_true, List.length_map]
      cases options.projections with
      | none => rfl
      | some projections => rfl

/-- There is nothing to send only where an empty list is asked for without the expiry. -/
theorem specs_sent_iff :
    1 ≤ options.specs.length ∧ options.specs.length ≤ 16 <->
      ¬ (options.projections = some [] ∧ options.withExpiry = false) := by
  rw [length_specs, length_contentSpecs]
  unfold GetOptions.withFlags GetOptions.fullLookup GetOptions.numLookups GetOptions.numProjections
  cases options.projections with
  | none =>
      cases options.withExpiry with
      | true => simp
      | false => simp
  | some projections =>
      have hempty : projections = [] <-> projections.length = 0 := List.length_eq_zero_iff.symm
      simp only [Option.map_some, Option.getD_some, Option.isNone_some, Bool.or_false,
        Option.some.injEq, hempty, decide_eq_true_eq]
      cases options.withExpiry with
      | true =>
          simp only [Bool.true_and, beq_iff_eq, if_true]
          constructor
          · intro _ h
            cases h.2
          · intro _
            split
            · split
              · omega
              · omega
            · split
              · omega
              · omega
      | false =>
          simp only [Bool.false_and, Bool.false_eq_true, if_false]
          constructor
          · rintro ⟨hsome, _⟩ ⟨hzero, _⟩
            split at hsome
            · omega
            · omega
          · intro hne
            have hpos : projections.length ≠ 0 := fun hzero => hne ⟨hzero, trivial⟩
            split
            · omega
            · omega

end Specs

/-!
# What is made of the parts
-/

section Parts

variable {fromSlice : Buffer -> Option JsonValue} {doc : StoredDocument}

theorem writesNoName_cons (projection : String) (projections : List String) :
    WritesNoName fromSlice doc (projection :: projections) <->
      HasValue fromSlice doc projection ∧ NoName projection ∨
        GoesOn fromSlice doc projection ∧ WritesNoName fromSlice doc projections := by
  constructor
  · rintro ⟨before, other, after, hsplit, hbefore, hvalue, hname⟩
    cases before with
    | nil =>
        rw [List.nil_append, List.cons.injEq] at hsplit
        rw [hsplit.1]
        exact Or.inl ⟨hvalue, hname⟩
    | cons first before =>
        rw [List.cons_append, List.cons.injEq] at hsplit
        rw [hsplit.1]
        rcases List.forall_mem_cons.mp hbefore with ⟨hfirst, hrest⟩
        exact Or.inr ⟨hfirst, before, other, after, hsplit.2, hrest, hvalue, hname⟩
  · rintro (⟨hvalue, hname⟩ | ⟨hon, before, other, after, hsplit, hbefore, hvalue, hname⟩)
    · exact ⟨[], projection, projections, rfl, fun _ h => absurd h List.not_mem_nil, hvalue, hname⟩
    · refine ⟨projection :: before, other, after, ?_, ?_, hvalue, hname⟩
      · rw [hsplit]
        rfl
      · exact List.forall_mem_cons.mpr ⟨hon, hbefore⟩

/-- Of the lookups of parts a document comes, or an error, if no path without a name is written. -/
theorem projectEntries_returns_iff (projections : List String) (content : JsonValue) :
    (projectEntries fromSlice
        (projections.map fun projection => LookupInSpec.get projection none)
        ((projections.map fun projection => LookupInSpec.get projection none).map doc.entry)
        content).Returns <->
      ¬ WritesNoName fromSlice doc projections := by
  induction projections generalizing content with
  | nil =>
      refine iff_of_true trivial ?_
      rintro ⟨before, projection, after, hsplit, _⟩
      exact List.append_ne_nil_of_right_ne_nil before (List.cons_ne_nil _ _) hsplit.symm
  | cons projection projections ih =>
      rw [writesNoName_cons, List.map_cons, List.map_cons, projectEntries]
      unfold HasValue GoesOn
      cases lookupValue fromSlice (doc.entry (LookupInSpec.get projection none)) with
      | error e =>
          refine iff_of_true trivial ?_
          rintro (⟨⟨_, h⟩, _⟩ | ⟨⟨_, h⟩, _⟩)
          · cases h
          · cases h
      | ok found =>
          cases found with
          | none =>
              rw [ih content]
              simp
          | some value =>
              have hpath : (LookupInSpec.get projection none).path = projection := rfl
              rw [hpath]
              by_cases hname : NoName projection
              · rw [(SubdocPath.pathParts_nil_iff projection).mpr hname]
                refine iff_of_false id ?_
                intro h
                exact h (Or.inl ⟨⟨value, rfl⟩, hname⟩)
              · have hparts : SubdocPath.pathParts projection ≠ [] := fun hnil =>
                  hname ((SubdocPath.pathParts_nil_iff projection).mp hnil)
                rcases List.exists_cons_of_ne_nil hparts with ⟨path, rest, hcons⟩
                simp only [hcons, SubdocPath.setValue, Exec.ok_bind]
                rw [ih]
                simp [hname]

/-- Of the whole document one comes if every path has a name. -/
theorem projectDocument_returns_iff (document : JsonValue) (projections : List String)
    (content : List (String × JsonValue)) :
    (projectDocument document projections (.object content)).Returns <->
      forall projection, projection ∈ projections -> ¬ NoName projection := by
  rw [projectDocument_eq]
  constructor
  · intro h projection hmem hname
    have hparts := (SubdocPath.pathParts_nil_iff projection).mpr hname
    have hread : nameRead document projection = some document := by
      rw [nameRead, hparts, resolveProjectionValue]
    have hfound : exists f, f ∈ projections.filterMap (foundBy (nameRead document)) ∧ f.1 = [] :=
      ⟨_, List.mem_filterMap.mpr ⟨projection, hmem, foundBy_some hread⟩, hparts⟩
    rw [SubdocPath.writeAll_panic hfound] at h
    exact h
  · intro h
    rw [SubdocPath.writeAll_object]
    · exact trivial
    · intro f hf
      rcases List.mem_filterMap.mp hf with ⟨projection, hmem, hfound⟩
      rcases Option.map_eq_some_iff.mp hfound with ⟨value, _, heq⟩
      rw [← heq]
      intro hnil
      exact h projection hmem ((SubdocPath.pathParts_nil_iff projection).mp hnil)

/-- Without projections the content is the document, but for an empty list of them. -/
theorem contentOf_none {options : GetOptions} (h : options.projections = none) :
    contentOf fromSlice doc options = .ok doc.content := by
  have hfull : options.fullLookup = true := by
    unfold GetOptions.fullLookup
    rw [h, Option.isNone_none, Bool.or_true]
  unfold contentOf GetOptions.contentSpecs
  simp only [hfull, if_true, h, buildFromFullDoc, List.map_cons, doc.entry_content]
  rfl

theorem contentOf_empty {options : GetOptions} (h : options.projections = some []) :
    contentOf fromSlice doc options = .ok (JsonValue.object []).toVec := by
  have hfull : options.fullLookup = false := by
    unfold GetOptions.fullLookup GetOptions.numLookups GetOptions.numProjections
    rw [h]
    cases options.withExpiry with
    | true => rfl
    | false => rfl
  unfold contentOf GetOptions.contentSpecs
  rw [hfull, h]
  rfl

theorem contentOf_returns_iff {options : GetOptions} {projections : List String}
    (h : options.projections = some projections) :
    (contentOf fromSlice doc options).Returns <->
      if options.fullLookup then
        (fromSlice doc.content).isSome -> forall projection, projection ∈ projections ->
          ¬ NoName projection
      else ¬ WritesNoName fromSlice doc projections := by
  unfold contentOf GetOptions.contentSpecs
  cases options.fullLookup with
  | true =>
      simp only [if_true, h, buildFromFullDoc, List.map_cons, doc.entry_content]
      have hraw : LookupInResult.contentAsRaw
          { cas := doc.cas
            entries :=
              [{ value := some doc.content, error := none, op := .get }] } 0 =
          .ok doc.content := rfl
      simp only [List.map_nil, List.length_singleton, ne_eq, not_true_eq_false, if_false, hraw]
      cases fromSlice doc.content with
      | none => exact iff_of_true trivial fun hsome => by cases hsome
      | some document =>
          rw [Exec.returns_map, projectDocument_returns_iff]
          exact ⟨fun hname _ => hname, fun hname => hname rfl⟩
  | false =>
      simp only [Bool.false_eq_true, if_false, h, Option.getD_some]
      rw [buildFromSubdocEntries, Exec.returns_map]
      exact projectEntries_returns_iff projections (.object [])

end Parts

/-!
# When the meaning is kept
-/

section Kept

variable {time : Type} {fromTimestamp : Int64 -> Option time}
  {fromSlice : Buffer -> Option JsonValue} {doc : StoredDocument}
  {agentGet : Exec ErrorKind GetResult}
  {lookupIn : List LookupInSpec -> Exec ErrorKind LookupInResult} {options : GetOptions}

theorem withExpiry_eq (options : GetOptions) :
    options.withExpiry = true <-> options.expiry = some true := by
  unfold GetOptions.withExpiry
  exact decide_eq_true_iff

theorem getDirect_eq (hserves : Serves doc agentGet lookupIn) :
    (getDirect agentGet : Exec ErrorKind (ExpiringResult time)) =
      .ok { toGetResult := doc.plain, expiryTime := none } := by
  unfold getDirect
  rw [hserves.plain]
  rfl

theorem get_of_looksUp (hlooks : options.looksUp = true) :
    get fromTimestamp fromSlice agentGet lookupIn options =
      getWithProjections fromTimestamp fromSlice lookupIn options := by
  unfold get
  rw [if_pos hlooks]

/-- Where the lookup may be sent all is about the content, and about the flags with no
projection. -/
theorem keeps_iff_of_sent (htimes : KnowsTimes fromTimestamp)
    (hserves : Serves doc agentGet lookupIn) (hlooks : options.looksUp = true)
    (hsent : 1 ≤ options.specs.length ∧ options.specs.length ≤ 16) :
    GetKeepsMeaning fromTimestamp fromSlice agentGet lookupIn options <->
      (contentOf fromSlice doc options).Returns ∧
        (options.numProjections = 0 -> contentOf fromSlice doc options = .ok doc.content ∧
          (if options.withFlags then doc.flags else 0) = doc.flags) := by
  rcases @getWithProjections_eq time fromTimestamp fromSlice doc agentGet lookupIn htimes hserves
    options hsent.1 hsent.2 with ⟨expiresAt, hresult⟩
  have hget := (@get_of_looksUp time fromTimestamp fromSlice agentGet lookupIn options
    hlooks).trans hresult
  constructor
  · intro h
    have hreturns := h.returns
    rw [hget, Exec.returns_map] at hreturns
    refine ⟨hreturns, ?_⟩
    intro hnone
    rcases h.same hnone with ⟨plain, res, hplain, hres, hsame⟩
    rw [getDirect_eq hserves, Exec.ok.injEq] at hplain
    rw [hget] at hres
    rcases Exec.map_eq_ok.mp hres with ⟨content, hcontent, heq⟩
    rw [← hplain, ← heq] at hsame
    have hcontent' : content = doc.content := congrArg GetResult.content hsame
    have hflags : (if options.withFlags then doc.flags else 0) = doc.flags :=
      congrArg GetResult.flags hsame
    rw [hcontent'] at hcontent
    exact ⟨hcontent, hflags⟩
  · rintro ⟨hreturns, hsame⟩
    refine ⟨fun _ => hsent, ?_, ?_⟩
    · rw [hget, Exec.returns_map]
      exact hreturns
    · intro hnone
      rcases hsame hnone with ⟨hcontent, hflags⟩
      have hdoc : get fromTimestamp fromSlice agentGet lookupIn options =
          .ok { toGetResult := doc.plain, expiryTime := expiresAt } := by
        rw [hget, hcontent, hflags]
        rfl
      exact ⟨_, _, getDirect_eq hserves, hdoc, rfl⟩

/-- A fetch as it is keeps its meaning. -/
theorem keeps_of_direct (hserves : Serves doc agentGet lookupIn)
    (hlooks : options.looksUp = false) :
    GetKeepsMeaning fromTimestamp fromSlice agentGet lookupIn options := by
  have hget : get fromTimestamp fromSlice agentGet lookupIn options = getDirect agentGet := by
    unfold get
    rw [hlooks, if_neg Bool.false_ne_true]
  constructor
  · intro h
    rw [hlooks] at h
    cases h
  · rw [hget, getDirect_eq hserves]
    exact trivial
  · intro _
    refine ⟨_, _, getDirect_eq hserves, ?_, rfl⟩
    rw [hget, getDirect_eq hserves]

end Kept

/-- Getting a document keeps its meaning if and only if the options are not among those that send
nothing, lose the content or the flags, or write a path without a name. -/
theorem get_keeps_meaning_iff {time : Type} {fromTimestamp : Int64 -> Option time}
    (htimes : KnowsTimes fromTimestamp) (fromSlice : Buffer -> Option JsonValue)
    {doc : StoredDocument} {agentGet : Exec ErrorKind GetResult}
    {lookupIn : List LookupInSpec -> Exec ErrorKind LookupInResult}
    (hserves : Serves doc agentGet lookupIn) (options : GetOptions) :
    GetKeepsMeaning fromTimestamp fromSlice agentGet lookupIn options <->
      MeaningKept fromSlice doc options := by
  unfold MeaningKept
  cases hprojections : options.projections with
  | none =>
      cases hexpiry : options.expiry with
      | none =>
          have hlooks : options.looksUp = false := by
            unfold GetOptions.looksUp
            rw [hexpiry, hprojections]
            rfl
          refine iff_of_true (keeps_of_direct hserves hlooks) ?_
          intro h
          cases h
      | some expiry =>
          have hlooks : options.looksUp = true := by
            unfold GetOptions.looksUp
            rw [hexpiry, Option.isSome_some, Bool.true_or]
          have hsent := (specs_sent_iff options).mpr fun h => by
            rw [hprojections] at h
            cases h.1
          have hnone : options.numProjections = 0 := by
            unfold GetOptions.numProjections
            rw [hprojections]
            rfl
          rw [keeps_iff_of_sent htimes hserves hlooks hsent, contentOf_none hprojections]
          simp only [hnone, Exec.returns_ok, true_and, true_implies, GetOptions.withFlags,
            GetOptions.withExpiry, hexpiry]
          cases expiry with
          | true => simp
          | false => simp [eq_comm]
  | some projections =>
      have hlooks : options.looksUp = true := by
        unfold GetOptions.looksUp
        rw [hprojections, Option.isSome_some, Bool.or_true]
      cases projections with
      | nil =>
          have hnone : options.numProjections = 0 := by
            unfold GetOptions.numProjections
            rw [hprojections]
            rfl
          by_cases hexpiry : options.withExpiry = true
          · have hsent := (specs_sent_iff options).mpr fun h => by
              rw [hexpiry] at h
              cases h.2
            rw [keeps_iff_of_sent htimes hserves hlooks hsent, contentOf_empty hprojections]
            simp only [hnone, Exec.returns_ok, true_and, true_implies, GetOptions.withFlags,
              hexpiry, (withExpiry_eq options).mp hexpiry, Exec.ok.injEq]
            simp [eq_comm]
          · refine iff_of_false ?_ fun h => hexpiry ((withExpiry_eq options).mpr h.1)
            intro h
            refine (specs_sent_iff options).mp (h.sent hlooks) ⟨hprojections, ?_⟩
            exact Bool.eq_false_iff.mpr hexpiry
      | cons projection projections =>
          have hsent := (specs_sent_iff options).mpr fun h => by
            rw [hprojections] at h
            cases h.1
          have hsome : options.numProjections ≠ 0 := by
            unfold GetOptions.numProjections
            rw [hprojections]
            exact Nat.succ_ne_zero _
          rw [keeps_iff_of_sent htimes hserves hlooks hsent, contentOf_returns_iff hprojections]
          simp only [hsome, false_implies, and_true]

/-- The document is the number 7, with the flags of JSON, and does not expire. -/
def sampleDocument : StoredDocument where
  content := (JsonValue.ofNat 7).toVec
  flags := 0x02000006
  cas := 1
  exptime := 0
  part := fun _ => .error .pathMismatch

def sampleAgentGet : Exec ErrorKind GetResult :=
  .ok sampleDocument.plain

def sampleLookupIn (specs : List LookupInSpec) : Exec ErrorKind LookupInResult :=
  .ok { cas := sampleDocument.cas, entries := specs.map sampleDocument.entry }

theorem serves_sample : Serves sampleDocument sampleAgentGet sampleLookupIn :=
  ⟨rfl, fun _ _ _ => rfl⟩

theorem get_keeps_meaning_expiry :
    GetKeepsMeaning (fun secs => some secs) JsonValue.fromSlice sampleAgentGet sampleLookupIn
      { expiry := some true } := by
  have htimes : KnowsTimes fun secs : Int64 => some secs := fun _ => rfl
  refine (get_keeps_meaning_iff htimes JsonValue.fromSlice serves_sample _).mpr ?_
  intro h
  cases h

/-- Nothing is sent for an empty list, and an empty string is a panic. -/
theorem not_get_keeps_meaning_empty :
    ¬ GetKeepsMeaning (fun secs => some secs) JsonValue.fromSlice sampleAgentGet sampleLookupIn
        { projections := some [] } ∧
      ¬ GetKeepsMeaning (fun secs => some secs) JsonValue.fromSlice sampleAgentGet sampleLookupIn
        { projections := some [""] } := by
  constructor
  · intro h
    exact absurd (h.sent rfl).1 (by decide)
  · intro h
    have hpanic : get (fun secs => some secs) JsonValue.fromSlice sampleAgentGet sampleLookupIn
        { projections := some [""] } = .panic := by
      rfl
    have hreturns := h.returns
    rw [hpanic] at hreturns
    exact hreturns

end Kv
end CouchbaseSdk
