import CouchbaseSdk.Management.Submitted

/-!
# Bucket settings that are kept

The settings that are read from a bucket and written back are those that the server
reported, as long as the core knows them all and there is no storage backend.
-/

namespace CouchbaseSdk
namespace Management

open Foundation
open Foundation.JsonRecord
open Mgmtx (BucketDef BucketSettingsJson BucketType CompressionMode ConflictResolutionType
  Controllers DurabilityLevel EvictionPolicyType Quota Response StorageBackend bucketPath display
  formFields oneOrZero readEnumerated readU16 readU32 readU64)

/-!
# What is reported
-/

def wholeText (v : JsonValue) : Option String :=
  v.toNat.map Nat.repr

def boolText (text : Bool -> String) (v : JsonValue) : Option String :=
  (readBool v).map text

/-- There is a link to flush the bucket. -/
def flushes (controllers : JsonValue) : Bool :=
  match given Controllers.shape controllers "flush" with
  | some (.string link) => !link.isEmpty
  | _ => false

/-- The quota, if it is a whole number of MiB. -/
def quotaText (quota : JsonValue) : Option String :=
  match (given Quota.shape quota "rawRAM").bind JsonValue.toNat with
  | some n => if n % (1024 * 1024) = 0 then some (n / (1024 * 1024)).repr else none
  | none => none

def givenField (v : JsonValue) (name : String) : Option JsonValue :=
  given BucketSettingsJson.shape v name

/-- The form fields with the values that a description of a bucket has for them. -/
def reportedFields (v : JsonValue) : List (String × Option String) :=
  [("flushEnabled", (givenField v "controllers").map fun c => oneOrZero (flushes c)),
    ("ramQuotaMB", (givenField v "quota").bind quotaText),
    ("replicaNumber", (givenField v "replicaNumber").bind wholeText),
    ("evictionPolicy", (givenField v "evictionPolicy").bind readString),
    ("maxTTL", (givenField v "maxTTL").bind wholeText),
    ("compressionMode", (givenField v "compressionMode").bind readString),
    ("durabilityMinLevel", (givenField v "durabilityMinLevel").bind readString),
    ("historyRetentionBytes", (givenField v "historyRetentionBytes").bind wholeText),
    ("historyRetentionSeconds", (givenField v "historyRetentionSeconds").bind wholeText),
    ("historyRetentionCollectionDefault",
      (givenField v "historyRetentionCollectionDefault").bind (boolText fun b => toString b)),
    ("conflictResolutionType", (givenField v "conflictResolutionType").bind readString),
    ("replicaIndex", (givenField v "replicaIndex").bind (boolText oneOrZero)),
    ("bucketType", (givenField v "bucketType").bind readString),
    ("storageBackend", (givenField v "storageBackend").bind readString),
    ("numVBuckets", (givenField v "numVBuckets").bind wholeText)]

def Reported (v : JsonValue) (name value : String) : Prop :=
  (name, some value) ∈ reportedFields v

/-- The response describes a bucket, with a quota that is a whole number of MiB. -/
structure Describes (resp : Response) (v : JsonValue) : Prop where
  status : resp.status = 200
  text : JsonValue.fromSlice resp.body = some v
  bucket : (BucketSettingsJson.deserialize v).isSome
  quota : ((givenField v "quota").bind quotaText).isSome

/-- A bucket is read from the response, and the update that writes its settings back submits
what the response reports. -/
def RoundTrips (resp : Response) (v : JsonValue) : Prop :=
  exists settings,
    (forall server bucketName, server.execute (Mgmtx.getRequest bucketName) = .ok resp ->
      getBucket server bucketName = .ok settings) ∧
    givenField v "name" = some (.string settings.name) ∧
    Submits (fun server => updateBucket server settings) (bucketPath settings.name) (Reported v)

/-- The text of a field is one that the SDK knows. -/
def KnownText (spelling : Spelling constant) (v : JsonValue) (name : String) : Prop :=
  forall s, givenField v name = some (.string s) -> spelling.Known s

/-- The texts of the enumerated fields that an update takes over are known. -/
structure KnownTexts (v : JsonValue) : Prop where
  evictionPolicy : KnownText EvictionPolicyType.spelling v "evictionPolicy"
  compressionMode : KnownText CompressionMode.spelling v "compressionMode"
  durabilityMinLevel : KnownText DurabilityLevel.spelling v "durabilityMinLevel"
  conflictResolutionType : KnownText ConflictResolutionType.spelling v "conflictResolutionType"
  bucketType : KnownText BucketType.spelling v "bucketType"

/-- An update takes over all that is described. -/
structure Kept (v : JsonValue) : Prop where
  texts : KnownTexts v
  storageBackend : givenField v "storageBackend" = none

/-!
# Reading fields
-/

section Reading

variable {constant : Type} {shape : RecordShape} {v : JsonValue} {ms : Members} {name : String}

theorem map_whole {alpha : Type} {size : Nat} {ofNat : Nat -> alpha} {toNat : alpha -> Nat}
    (hround : forall n, n < size -> toNat (ofNat n) = n) {o : Option alpha}
    (hmembers : members shape v = some ms)
    (h : optional (readUnsigned size ofNat) name ms = some o) :
    o.map (fun a => (toNat a).repr) = (given shape v name).bind wholeText := by
  rcases optional_eq hmembers h with ⟨hgiven, ho⟩ | ⟨w, a, hgiven, hread, ho⟩
  · rw [hgiven, ho]
    rfl
  · rcases readUnsigned_eq hread with ⟨n, hn, hlt, ha⟩
    rw [hgiven, ho, ← ha, Option.map_some, hround n hlt, Option.bind_some, wholeText, hn]
    rfl

theorem map_bool (text : Bool -> String) {o : Option Bool} (hmembers : members shape v = some ms)
    (h : optional readBool name ms = some o) :
    o.map text = (given shape v name).bind (boolText text) := by
  rcases optional_eq hmembers h with ⟨hgiven, ho⟩ | ⟨w, b, hgiven, hread, ho⟩
  · rw [hgiven, ho]
    rfl
  · rw [hgiven, ho, Option.bind_some, boolText, hread]

theorem readEnumerated_eq {spelling : Spelling constant} {w : JsonValue} {e : Enumerated constant}
    (h : readEnumerated spelling w = some e) : exists s, w = .string s ∧ spelling.read s = e := by
  rcases Option.map_eq_some_iff.mp h with ⟨s, hs, he⟩
  cases w with
  | string s' =>
      cases hs
      exact ⟨s, rfl, he⟩
  | null => cases hs
  | bool b => cases hs
  | number n => cases hs
  | array items => cases hs
  | object members => cases hs

/-- A field is converted back if its text is known, and it has that text then. -/
theorem convertible_iff {spelling : Spelling constant} {o : Option (Enumerated constant)}
    (hmembers : members BucketSettingsJson.shape v = some ms)
    (h : optional (readEnumerated spelling) name ms = some o) :
    Convertible (o.map (ofCore spelling)) <-> KnownText spelling v name := by
  unfold KnownText givenField
  rcases optional_eq hmembers h with ⟨hgiven, ho⟩ | ⟨w, e, hgiven, hread, ho⟩
  · rw [hgiven, ho]
    exact iff_of_true (fun val h => (by cases h)) fun s h => (by cases h)
  · rcases readEnumerated_eq hread with ⟨s, hw, he⟩
    rw [hgiven, ho, hw, ← he]
    by_cases hknown : spelling.Known s
    · rcases spelling.read_known hknown with ⟨k, hk, _⟩
      rw [hk]
      refine iff_of_true (fun val h => (by cases h)) ?_
      intro s' hs'
      cases hs'
      exact hknown
    · rw [spelling.read_unknown hknown]
      exact iff_of_false (fun h => h _ rfl) fun h => hknown (h s rfl)

theorem map_enumerated {spelling : Spelling constant} {o : Option (Enumerated constant)}
    (hmembers : members BucketSettingsJson.shape v = some ms)
    (h : optional (readEnumerated spelling) name ms = some o) (hknown : KnownText spelling v name) :
    (o.map (ofCore spelling)).map (display spelling) = (givenField v name).bind readString := by
  unfold KnownText at hknown
  unfold givenField at hknown ⊢
  rcases optional_eq hmembers h with ⟨hgiven, ho⟩ | ⟨w, e, hgiven, hread, ho⟩
  · rw [hgiven, ho]
    rfl
  · rcases readEnumerated_eq hread with ⟨s, hw, he⟩
    rw [hw] at hgiven
    rcases spelling.read_known (hknown s hgiven) with ⟨k, hk, htext⟩
    rw [hgiven, ho, ← he, hk]
    exact congrArg some htext

theorem given_isSome_iff {alpha : Type} {read : JsonValue -> Option alpha} {o : Option alpha}
    (hmembers : members shape v = some ms) (h : optional read name ms = some o) :
    given shape v name = none <-> o = none := by
  rcases optional_eq hmembers h with ⟨hgiven, ho⟩ | ⟨w, a, hgiven, hread, ho⟩
  · exact iff_of_true hgiven ho
  · rw [hgiven, ho]
    exact iff_of_false (fun h => (by cases h)) fun h => (by cases h)

/-- There is a link if it is read as one that is not empty. -/
theorem flushes_eq {c : Controllers} (h : Controllers.deserialize v = some c) :
    flushes v = match c.flush with
      | some f => !f.isEmpty
      | none => false := by
  simp only [Controllers.deserialize, Option.bind_eq_bind, Option.bind_eq_some_iff] at h
  rcases h with ⟨ms, hmembers, flush, hflush, hc⟩
  cases hc
  unfold flushes
  rcases optional_eq hmembers hflush with ⟨hgiven, ho⟩ | ⟨w, s, hgiven, hread, ho⟩
  · rw [hgiven, ho]
  · rw [hgiven, ho]
    cases w with
    | string s' =>
        cases hread
        rfl
    | null => cases hread
    | bool b => cases hread
    | number n => cases hread
    | array items => cases hread
    | object members => cases hread

end Reading

/-!
# Reading buckets
-/

/-- The bucket has what the members of the description give for its fields. -/
structure ReadFrom (v : JsonValue) (ms : Members) (b : BucketSettingsJson) : Prop where
  members : members BucketSettingsJson.shape v = some ms
  name : required readString "name" ms = some b.name
  controllers : optional Controllers.deserialize "controllers" ms = some b.controllers
  replicaIndex : optional readBool "replicaIndex" ms = some b.replicaIndex
  quota : required Quota.deserialize "quota" ms = some b.quota
  replicaNumber : optional readU32 "replicaNumber" ms = some b.replicaNumber
  bucketType : optional (readEnumerated BucketType.spelling) "bucketType" ms = some b.bucketType
  conflictResolutionType :
    optional (readEnumerated ConflictResolutionType.spelling) "conflictResolutionType" ms =
      some b.conflictResolutionType
  evictionPolicy :
    optional (readEnumerated EvictionPolicyType.spelling) "evictionPolicy" ms =
      some b.evictionPolicy
  maxTtl : optional readU32 "maxTTL" ms = some b.maxTtl
  compressionMode :
    optional (readEnumerated CompressionMode.spelling) "compressionMode" ms =
      some b.compressionMode
  durabilityMinLevel :
    optional (readEnumerated DurabilityLevel.spelling) "durabilityMinLevel" ms =
      some b.durabilityMinLevel
  storageBackend :
    optional (readEnumerated StorageBackend.spelling) "storageBackend" ms = some b.storageBackend
  historyRetentionCollectionDefault :
    optional readBool "historyRetentionCollectionDefault" ms =
      some b.historyRetentionCollectionDefault
  historyRetentionBytes :
    optional readU64 "historyRetentionBytes" ms = some b.historyRetentionBytes
  historyRetentionSeconds :
    optional readU32 "historyRetentionSeconds" ms = some b.historyRetentionSeconds
  numVbuckets : optional readU16 "numVBuckets" ms = some b.numVbuckets

theorem exists_readFrom {v : JsonValue} {b : BucketSettingsJson}
    (h : BucketSettingsJson.deserialize v = some b) : exists ms, ReadFrom v ms b := by
  unfold BucketSettingsJson.deserialize at h
  rcases Option.bind_eq_some_iff.mp h with ⟨ms, hmembers, h⟩
  rcases Option.bind_eq_some_iff.mp h with ⟨_, hname, h⟩
  rcases Option.bind_eq_some_iff.mp h with ⟨_, hcontrollers, h⟩
  rcases Option.bind_eq_some_iff.mp h with ⟨_, hreplicaIndex, h⟩
  rcases Option.bind_eq_some_iff.mp h with ⟨_, hquota, h⟩
  rcases Option.bind_eq_some_iff.mp h with ⟨_, hreplicaNumber, h⟩
  rcases Option.bind_eq_some_iff.mp h with ⟨_, hbucketType, h⟩
  rcases Option.bind_eq_some_iff.mp h with ⟨_, hconflictResolutionType, h⟩
  rcases Option.bind_eq_some_iff.mp h with ⟨_, hevictionPolicy, h⟩
  rcases Option.bind_eq_some_iff.mp h with ⟨_, hmaxTtl, h⟩
  rcases Option.bind_eq_some_iff.mp h with ⟨_, hcompressionMode, h⟩
  rcases Option.bind_eq_some_iff.mp h with ⟨_, hdurabilityMinLevel, h⟩
  rcases Option.bind_eq_some_iff.mp h with ⟨_, hstorageBackend, h⟩
  rcases Option.bind_eq_some_iff.mp h with ⟨_, hcollectionDefault, h⟩
  rcases Option.bind_eq_some_iff.mp h with ⟨_, hbytes, h⟩
  rcases Option.bind_eq_some_iff.mp h with ⟨_, hseconds, h⟩
  rcases Option.bind_eq_some_iff.mp h with ⟨_, hnumVbuckets, h⟩
  cases h
  exact ⟨ms, hmembers, hname, hcontrollers, hreplicaIndex, hquota, hreplicaNumber, hbucketType,
    hconflictResolutionType, hevictionPolicy, hmaxTtl, hcompressionMode, hdurabilityMinLevel,
    hstorageBackend, hcollectionDefault, hbytes, hseconds, hnumVbuckets⟩

section Bucket

variable {v : JsonValue} {ms : Members} {b : BucketSettingsJson}

/-- The settings that users get for a bucket. -/
def settingsOf (b : BucketSettingsJson) : BucketSettings :=
  BucketSettings.ofBucketDef (BucketDef.ofJson b)

theorem given_name (h : ReadFrom v ms b) :
    givenField v "name" = some (.string (settingsOf b).name) := by
  rcases given_of_required h.members rfl h.name with ⟨w, hgiven, hread⟩
  cases w with
  | string s =>
      cases hread
      exact hgiven
  | null => cases hread
  | bool _ => cases hread
  | number _ => cases hread
  | array _ => cases hread
  | object _ => cases hread

theorem allConvertible_iff (h : ReadFrom v ms b) :
    AllConvertible (settingsOf b) <-> KnownTexts v := by
  constructor
  · intro hall
    exact
      { evictionPolicy := (convertible_iff h.members h.evictionPolicy).mp hall.evictionPolicy
        compressionMode := (convertible_iff h.members h.compressionMode).mp hall.compressionMode
        durabilityMinLevel :=
          (convertible_iff h.members h.durabilityMinLevel).mp hall.minimumDurabilityLevel
        conflictResolutionType :=
          (convertible_iff h.members h.conflictResolutionType).mp hall.conflictResolutionType
        bucketType := (convertible_iff h.members h.bucketType).mp hall.bucketType }
  · intro htexts
    exact
      { evictionPolicy := (convertible_iff h.members h.evictionPolicy).mpr htexts.evictionPolicy
        compressionMode := (convertible_iff h.members h.compressionMode).mpr htexts.compressionMode
        minimumDurabilityLevel :=
          (convertible_iff h.members h.durabilityMinLevel).mpr htexts.durabilityMinLevel
        conflictResolutionType :=
          (convertible_iff h.members h.conflictResolutionType).mpr htexts.conflictResolutionType
        bucketType := (convertible_iff h.members h.bucketType).mpr htexts.bucketType }

theorem flush_reported (h : ReadFrom v ms b) :
    (settingsOf b).flushEnabled.map oneOrZero =
      (givenField v "controllers").map fun c => oneOrZero (flushes c) := by
  unfold givenField
  rcases optional_eq h.members h.controllers with ⟨hgiven, ho⟩ | ⟨w, c, hgiven, hread, ho⟩
  · rw [hgiven]
    unfold settingsOf BucketSettings.ofBucketDef BucketDef.ofJson
    rw [ho]
    rfl
  · rw [hgiven]
    unfold settingsOf BucketSettings.ofBucketDef BucketDef.ofJson
    rw [ho]
    exact congrArg (fun f => some (oneOrZero f)) (flushes_eq hread).symm

/-- A whole number of MiB is what the quota is divided to. -/
theorem quota_reported (h : ReadFrom v ms b)
    (hquota : ((givenField v "quota").bind quotaText).isSome) :
    (settingsOf b).ramQuotaMb.map (fun quota => quota.toNat.repr) =
      (givenField v "quota").bind quotaText := by
  rcases given_of_required h.members rfl h.quota with ⟨w, hgiven, hread⟩
  unfold givenField at hquota ⊢
  rw [hgiven, Option.bind_some] at hquota ⊢
  simp only [Quota.deserialize, Option.bind_eq_bind, Option.bind_eq_some_iff] at hread
  rcases hread with ⟨qms, hmembers, ram, hram, rawRam, hrawRam, hq⟩
  rcases given_of_required hmembers rfl hrawRam with ⟨r, hr, hreadr⟩
  rcases readUnsigned_eq hreadr with ⟨n, hn, hlt, ha⟩
  have hraw : b.quota.rawRam = UInt64.ofNat n := by
    rw [← Option.some.inj hq]
    exact ha.symm
  unfold quotaText at hquota ⊢
  rw [hr, Option.bind_some, hn] at hquota ⊢
  dsimp only at hquota ⊢
  by_cases hwhole : n % (1024 * 1024) = 0
  · rw [if_pos hwhole]
    have hdiv : (b.quota.rawRam / 1024 / 1024).toNat = n / (1024 * 1024) := by
      rw [hraw, UInt64.toNat_div, UInt64.toNat_div, UInt64.toNat_ofNat_of_lt' hlt,
        ← Nat.div_div_eq_div_mul]
      rfl
    exact congrArg (fun m => some (Nat.repr m)) hdiv
  · rw [if_neg hwhole] at hquota
    cases hquota

theorem asSecs_fromSecs (secs : UInt64) : (Duration.fromSecs secs).asSecs = secs.toNat :=
  Nat.mul_div_cancel secs.toNat (by decide)

theorem maxTtl_reported (h : ReadFrom v ms b) :
    (settingsOf b).maxExpiry.map (fun d => d.asSecs.repr) =
      (givenField v "maxTTL").bind wholeText := by
  have hwhole := map_whole (fun n => UInt32.toNat_ofNat_of_lt') h.members h.maxTtl
  refine Eq.trans ?_ hwhole
  unfold settingsOf BucketSettings.ofBucketDef BucketDef.ofJson
  simp only [Option.map_map]
  congr 1
  funext d
  exact congrArg Nat.repr ((asSecs_fromSecs _).trans (UInt32.toNat_toUInt64 d))

theorem retention_reported (h : ReadFrom v ms b) :
    (converted (settingsOf b) none).historyRetentionSeconds.map (fun n => n.toNat.repr) =
      (givenField v "historyRetentionSeconds").bind wholeText := by
  have hwhole := map_whole (fun n => UInt32.toNat_ofNat_of_lt') h.members h.historyRetentionSeconds
  refine Eq.trans ?_ hwhole
  unfold converted settingsOf BucketSettings.ofBucketDef BucketDef.ofJson
  simp only [Option.map_map]
  congr 1
  funext d
  simp only [Function.comp]
  rw [asSecs_fromSecs, UInt32.toNat_toUInt64, UInt32.ofNat_toNat]

/-- The form has what is reported, if that has no storage backend. -/
theorem formFields_reported (h : ReadFrom v ms b) (hkept : Kept v)
    (hquota : ((givenField v "quota").bind quotaText).isSome) :
    formFields (converted (settingsOf b) none) = reportedFields v := by
  have hstorage : none = (givenField v "storageBackend").bind readString := by
    rw [hkept.storageBackend]
    rfl
  exact cons_field (flush_reported h) (cons_field (quota_reported h hquota)
    (cons_field (map_whole (fun n => UInt32.toNat_ofNat_of_lt') h.members h.replicaNumber)
    (cons_field (map_enumerated h.members h.evictionPolicy hkept.texts.evictionPolicy)
    (cons_field (maxTtl_reported h)
    (cons_field (map_enumerated h.members h.compressionMode hkept.texts.compressionMode)
    (cons_field (map_enumerated h.members h.durabilityMinLevel hkept.texts.durabilityMinLevel)
    (cons_field (map_whole (fun n => UInt64.toNat_ofNat_of_lt') h.members h.historyRetentionBytes)
    (cons_field (retention_reported h)
    (cons_field (map_bool _ h.members h.historyRetentionCollectionDefault)
    (cons_field
      (map_enumerated h.members h.conflictResolutionType hkept.texts.conflictResolutionType)
    (cons_field (map_bool _ h.members h.replicaIndex)
    (cons_field (map_enumerated h.members h.bucketType hkept.texts.bucketType)
    (cons_field hstorage
    (cons_field (map_whole (fun n => UInt16.toNat_ofNat_of_lt') h.members h.numVbuckets)
      rfl))))))))))))))

theorem reported_storage (v : JsonValue) (value : String) :
    Reported v "storageBackend" value <->
      (givenField v "storageBackend").bind readString = some value := by
  simp [Reported, reportedFields, eq_comm]

/-- A storage backend that is described is reported. -/
theorem exists_reported_storage (h : ReadFrom v ms b)
    (hgiven : givenField v "storageBackend" ≠ none) :
    exists value, Reported v "storageBackend" value := by
  rcases optional_eq h.members h.storageBackend with ⟨hnone, _⟩ | ⟨w, e, hsome, hread, _⟩
  · exact absurd hnone hgiven
  · rcases readEnumerated_eq hread with ⟨s, hw, _⟩
    refine ⟨s, (reported_storage v s).mpr ?_⟩
    unfold givenField
    rw [hsome, hw]
    rfl

end Bucket

/-!
# Reading and writing back
-/

theorem getBucket_eq {server : Mgmtx.Server} {bucketName : String} {resp : Response}
    {v : JsonValue} {b : BucketSettingsJson} (hdescribes : Describes resp v)
    (hb : BucketSettingsJson.deserialize v = some b)
    (h : server.execute (Mgmtx.getRequest bucketName) = .ok resp) :
    getBucket server bucketName = .ok (settingsOf b) := by
  have hparse : Mgmtx.parseResponseJson BucketSettingsJson.deserialize resp = .ok b := by
    unfold Mgmtx.parseResponseJson
    rw [hdescribes.text, Option.bind_some, hb]
  have hcore : Mgmtx.getBucket server bucketName = .ok (BucketDef.ofJson b) := by
    unfold Mgmtx.getBucket
    rw [h, Exec.ok_bind, if_neg (not_not_intro hdescribes.status), hparse]
    rfl
  unfold getBucket
  rw [hcore]
  rfl

/-- What users get for the description is the settings of the bucket, and no others. -/
theorem roundTrips_iff_submits {resp : Response} {v : JsonValue} {ms : Members}
    {b : BucketSettingsJson} (hdescribes : Describes resp v)
    (hb : BucketSettingsJson.deserialize v = some b) (hread : ReadFrom v ms b) :
    RoundTrips resp v <->
      Submits (fun server => updateBucket server (settingsOf b)) (bucketPath (settingsOf b).name)
        (Reported v) := by
  constructor
  · rintro ⟨settings, hget, _, hsubmits⟩
    let server : Mgmtx.Server :=
      { execute := fun _ => .ok resp
        decodeCommonError := fun _ => .message "" }
    have hsettings := (hget server "" rfl).symm.trans (getBucket_eq hdescribes hb rfl)
    cases hsettings
    exact hsubmits
  · intro hsubmits
    exact ⟨settingsOf b, fun server bucketName h => getBucket_eq hdescribes hb h,
      given_name hread, hsubmits⟩

/-- A bucket round trips exactly when its texts are known and it has no storage backend. -/
theorem roundTrips_iff_kept {resp : Response} {v : JsonValue} (h : Describes resp v) :
    RoundTrips resp v <-> Kept v := by
  rcases Option.isSome_iff_exists.mp h.bucket with ⟨b, hb⟩
  rcases exists_readFrom hb with ⟨ms, hread⟩
  rw [roundTrips_iff_submits h hb hread]
  rcases coreSettings_cases (settingsOf b) none with ⟨hall, _, hcore⟩ | ⟨hnot, hcore⟩
  · have htexts := (allConvertible_iff hread).mp hall
    rw [submits_iff (sends_updateBucket hcore)]
    constructor
    · rintro ⟨_, hsame⟩
      refine ⟨htexts, ?_⟩
      by_contra hgiven
      rcases exists_reported_storage hread hgiven with ⟨value, hreported⟩
      rcases (mem_encode _ _ _ _).mp ((hsame _ _).mpr hreported) with hempty | hfield
      · exact List.not_mem_nil hempty
      · cases (mem_formFields_storage _ _).mp hfield
    · intro hkept
      refine ⟨rfl, ?_⟩
      intro name value
      unfold Reported
      rw [← formFields_reported hread hkept h.quota]
      exact (mem_encode _ _ _ _).trans (or_iff_right List.not_mem_nil)
  · apply iff_of_false (not_submits_updateBucket hcore)
    intro hkept
    exact hnot ⟨(allConvertible_iff hread).mpr hkept.texts, fun val h => (by cases h)⟩

/-- Each of the three holds exactly for the buckets and the settings that the conversions
keep. -/
theorem bucket_settings_kept_iff (resp : Response) (v : JsonValue) (s : BucketSettings) :
    (Describes resp v -> (RoundTrips resp v <-> Kept v)) ∧
      (CreateSubmits s <->
        AllConvertible s ∧ Convertible s.storageBackend ∧ RetentionFits s) ∧
      (UpdateSubmits s <-> AllConvertible s ∧ s.storageBackend = none ∧ RetentionFits s) :=
  ⟨roundTrips_iff_kept, createSubmits_iff s, updateSubmits_iff s⟩

/-!
# Buckets of a server
-/

def answering (v : JsonValue) : Response where
  status := 200
  body := v.toVec

theorem describes_answering {v : JsonValue} (hbucket : (BucketSettingsJson.deserialize v).isSome)
    (hquota : ((givenField v "quota").bind quotaText).isSome) : Describes (answering v) v where
  status := rfl
  text := JsonValue.fromSlice_toVec v
  bucket := hbucket
  quota := hquota

/-- A bucket of 100 MiB with more members. -/
def bucketWith (more : List (String × JsonValue)) : JsonValue :=
  .object
    (("name", .string "travel") ::
      ("quota", .object [("ram", .ofNat 209715200), ("rawRAM", .ofNat 104857600)]) :: more)

def cachedBucket : JsonValue :=
  bucketWith [("bucketType", .string "ephemeral"), ("evictionPolicy", .string "nruEviction")]

theorem knownText_of_given {constant : Type} {spelling : Spelling constant} {v : JsonValue}
    {name s : String} (h : givenField v name = some (.string s)) (hknown : spelling.Known s) :
    KnownText spelling v name := by
  intro s' hs'
  cases h.symm.trans hs'
  exact hknown

theorem knownText_of_none {constant : Type} {spelling : Spelling constant} {v : JsonValue}
    {name : String} (h : givenField v name = none) : KnownText spelling v name := by
  intro s hs
  cases h.symm.trans hs

theorem kept_cachedBucket : Kept cachedBucket where
  texts :=
    { evictionPolicy := knownText_of_given rfl (by decide)
      compressionMode := knownText_of_none rfl
      durabilityMinLevel := knownText_of_none rfl
      conflictResolutionType := knownText_of_none rfl
      bucketType := knownText_of_given rfl (by decide) }
  storageBackend := rfl

theorem round_trips_cachedBucket : RoundTrips (answering cachedBucket) cachedBucket :=
  ((bucket_settings_kept_iff (answering cachedBucket) cachedBucket (BucketSettings.new "")).1
    (describes_answering (by decide +kernel) (by decide +kernel))).mpr kept_cachedBucket

/-- What is read from a bucket is written back, and what is set is written. -/
structure SettingsKept : Prop where
  roundTrips : forall resp v, Describes resp v -> RoundTrips resp v
  create : forall s, CreateSubmits s
  update : forall s, UpdateSubmits s

def storedBucket : JsonValue :=
  bucketWith [("bucketType", .string "membase"), ("storageBackend", .string "couchstore")]

theorem not_settings_kept : ¬ SettingsKept := by
  intro h
  have hdescribes : Describes (answering storedBucket) storedBucket :=
    describes_answering (by decide +kernel) (by decide +kernel)
  have hkept := (roundTrips_iff_kept hdescribes).mp (h.roundTrips _ _ hdescribes)
  have hgiven : (givenField storedBucket "storageBackend").isSome = true := by
    decide +kernel
  rw [hkept.storageBackend] at hgiven
  cases hgiven

end Management
end CouchbaseSdk
