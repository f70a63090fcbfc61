import CouchbaseSdk.Foundation.Decimal
import CouchbaseSdk.Mgmtx.Buckets

/-!
# Bucket settings of the SDK

The settings that users give and get, and their conversions from and to those of the core.
-/

namespace CouchbaseSdk
namespace Management

open Foundation
open Mgmtx (BucketType CompressionMode ConflictResolutionType DurabilityLevel EvictionPolicyType
  StorageBackend)

/-- The constants of the enumerated fields are those of the core, under the same names. -/
structure BucketSettings where
  name : String
  ramQuotaMb : Option UInt64
  flushEnabled : Option Bool
  numReplicas : Option UInt32
  evictionPolicy : Option (Enumerated EvictionPolicyType)
  maxExpiry : Option Duration
  compressionMode : Option (Enumerated CompressionMode)
  minimumDurabilityLevel : Option (Enumerated DurabilityLevel)
  historyRetentionCollectionDefault : Option Bool
  historyRetentionBytes : Option UInt64
  historyRetentionDuration : Option Duration
  conflictResolutionType : Option (Enumerated ConflictResolutionType)
  replicaIndexes : Option Bool
  bucketType : Option (Enumerated BucketType)
  storageBackend : Option (Enumerated StorageBackend)
  numVbuckets : Option UInt16

/-!
# Conversions
-/

/-- `From` for an enumerated field of the core.  What the core does not know is shown. -/
def ofCore (spelling : Spelling constant) : Enumerated constant -> Enumerated constant
  | .known k => .known k
  | .other val => .other (Mgmtx.display spelling (.other val))

/-- `From` for an enumerated field of the SDK; `unreachable!()` for the last. -/
def toCore : Enumerated constant -> Exec Mgmtx.Error (Enumerated constant)
  | .known k => .ok (.known k)
  | .other _ => .panic

namespace BucketSettings

def new (name : String) : BucketSettings where
  name := name
  ramQuotaMb := none
  flushEnabled := none
  numReplicas := none
  evictionPolicy := none
  maxExpiry := none
  compressionMode := none
  minimumDurabilityLevel := none
  historyRetentionCollectionDefault := none
  historyRetentionBytes := none
  historyRetentionDuration := none
  conflictResolutionType := none
  replicaIndexes := none
  bucketType := none
  storageBackend := none
  numVbuckets := none

/-- `From<BucketDef>`. -/
def ofBucketDef (value : Mgmtx.BucketDef) : BucketSettings where
  name := value.name
  ramQuotaMb := value.bucketSettings.ramQuotaMb
  flushEnabled := value.bucketSettings.flushEnabled
  numReplicas := value.bucketSettings.replicaNumber
  evictionPolicy := value.bucketSettings.evictionPolicy.map (ofCore EvictionPolicyType.spelling)
  maxExpiry := value.bucketSettings.maxTtl
  compressionMode := value.bucketSettings.compressionMode.map (ofCore CompressionMode.spelling)
  minimumDurabilityLevel :=
    value.bucketSettings.durabilityMinLevel.map (ofCore DurabilityLevel.spelling)
  historyRetentionCollectionDefault := value.bucketSettings.historyRetentionCollectionDefault
  historyRetentionBytes := value.bucketSettings.historyRetentionBytes
  historyRetentionDuration :=
    value.bucketSettings.historyRetentionSeconds.map fun s => Duration.fromSecs s.toUInt64
  conflictResolutionType :=
    value.bucketSettings.conflictResolutionType.map (ofCore ConflictResolutionType.spelling)
  replicaIndexes := value.bucketSettings.replicaIndex
  bucketType := value.bucketSettings.bucketType.map (ofCore BucketType.spelling)
  storageBackend := value.bucketSettings.storageBackend.map (ofCore StorageBackend.spelling)
  numVbuckets := value.bucketSettings.numVbuckets

end BucketSettings

/-- A field is converted when it is set. -/
def ifSet (convert : alpha -> Exec error beta) : Option alpha -> Exec error (Option beta)
  | some a => (convert a).map some
  | none => .ok none

/-- The settings that both calls take over, with a storage backend. -/
def coreSettings (settings : BucketSettings)
    (storageBackend : Option (Enumerated StorageBackend)) :
    Exec Mgmtx.Error Mgmtx.BucketSettings := do
  let evictionPolicy <- ifSet toCore settings.evictionPolicy
  let compressionMode <- ifSet toCore settings.compressionMode
  let durabilityMinLevel <- ifSet toCore settings.minimumDurabilityLevel
  let conflictResolutionType <- ifSet toCore settings.conflictResolutionType
  let bucketType <- ifSet toCore settings.bucketType
  let storageBackend <- ifSet toCore storageBackend
  pure
    { ramQuotaMb := settings.ramQuotaMb
      flushEnabled := settings.flushEnabled
      replicaNumber := settings.numReplicas
      evictionPolicy := evictionPolicy
      maxTtl := settings.maxExpiry
      compressionMode := compressionMode
      durabilityMinLevel := durabilityMinLevel
      historyRetentionCollectionDefault := settings.historyRetentionCollectionDefault
      historyRetentionBytes := settings.historyRetentionBytes
      -- `as u32`
      historyRetentionSeconds :=
        settings.historyRetentionDuration.map fun d => UInt32.ofNat d.asSecs
      conflictResolutionType := conflictResolutionType
      replicaIndex := settings.replicaIndexes
      bucketType := bucketType
      storageBackend := storageBackend
      numVbuckets := settings.numVbuckets }

/-!
# Calls
-/

def getBucket (server : Mgmtx.Server) (bucketName : String) :
    Exec Mgmtx.Error BucketSettings := do
  let bucket <- Mgmtx.getBucket server bucketName
  pure (BucketSettings.ofBucketDef bucket)

def createBucket (server : Mgmtx.Server) (settings : BucketSettings) :
    Exec Mgmtx.Error Unit := do
  let core <- coreSettings settings settings.storageBackend
  Mgmtx.createBucket server settings.name core

/-- The storage backend of the settings is not taken over. -/
def updateBucket (server : Mgmtx.Server) (settings : BucketSettings) :
    Exec Mgmtx.Error Unit := do
  let core <- coreSettings settings none
  Mgmtx.updateBucket server settings.name core

/-!
# Bucket settings that are submitted

The calls that create and update a bucket submit what is set, with an exception each.
-/

open Mgmtx (BucketType CompressionMode ConflictResolutionType DurabilityLevel Error
  EvictionPolicyType Form Request Response Server StorageBackend bucketPath display formFields
  oneOrZero)

/-!
# What is submitted
-/

/-- The call sends the request, whatever the server, and ends when that is answered. -/
def Sends (call : Server -> Exec Error alpha) (req : Request) : Prop :=
  exists answer : Server -> Response -> Exec Error alpha,
    (forall server resp, (answer server resp).Returns) ∧
      forall server, call server = server.execute req >>= answer server

/-- The call sends a form to the path, with these names and values and no others. -/
def Submits (call : Server -> Exec Error alpha) (path : String) (pair : String -> String -> Prop) :
    Prop :=
  exists req, Sends call req ∧ req.path = path ∧
    forall name value, (name, value) ∈ req.body <-> pair name value

/-!
# What is set
-/

def enumeratedText (spelling : Spelling constant) : Enumerated constant -> String
  | .known k => spelling.text k
  | .other val => val

/-- The form fields with the values of the settings, durations in whole seconds. -/
def setFields (s : BucketSettings) : List (String × Option String) :=
  [("flushEnabled", s.flushEnabled.map oneOrZero),
    ("ramQuotaMB", s.ramQuotaMb.map fun quota => quota.toNat.repr),
    ("replicaNumber", s.numReplicas.map fun num => num.toNat.repr),
    ("evictionPolicy", s.evictionPolicy.map (enumeratedText EvictionPolicyType.spelling)),
    ("maxTTL", s.maxExpiry.map fun d => d.asSecs.repr),
    ("compressionMode", s.compressionMode.map (enumeratedText CompressionMode.spelling)),
    ("durabilityMinLevel",
      s.minimumDurabilityLevel.map (enumeratedText DurabilityLevel.spelling)),
    ("historyRetentionBytes", s.historyRetentionBytes.map fun n => n.toNat.repr),
    ("historyRetentionSeconds", s.historyRetentionDuration.map fun d => d.asSecs.repr),
    ("historyRetentionCollectionDefault",
      s.historyRetentionCollectionDefault.map fun b => toString b),
    ("conflictResolutionType",
      s.conflictResolutionType.map (enumeratedText ConflictResolutionType.spelling)),
    ("replicaIndex", s.replicaIndexes.map oneOrZero),
    ("bucketType", s.bucketType.map (enumeratedText BucketType.spelling)),
    ("storageBackend", s.storageBackend.map (enumeratedText StorageBackend.spelling)),
    ("numVBuckets", s.numVbuckets.map fun n => n.toNat.repr)]

def IsSet (s : BucketSettings) (name value : String) : Prop :=
  (name, some value) ∈ setFields s

def CreateSubmits (s : BucketSettings) : Prop :=
  Submits (fun server => createBucket server s) "pools/default/buckets" fun name value =>
    (name = "name" ∧ value = s.name) ∨ IsSet s name value

def UpdateSubmits (s : BucketSettings) : Prop :=
  Submits (fun server => updateBucket server s) (bucketPath s.name) (IsSet s)

/-!
# When they are the same
-/

/-- A field that is not set to a text the SDK does not know. -/
def Convertible (o : Option (Enumerated constant)) : Prop :=
  forall val, o ≠ some (.other val)

/-- The enumerated fields of both calls have values that the SDK knows. -/
structure AllConvertible (s : BucketSettings) : Prop where
  evictionPolicy : Convertible s.evictionPolicy
  compressionMode : Convertible s.compressionMode
  minimumDurabilityLevel : Convertible s.minimumDurabilityLevel
  conflictResolutionType : Convertible s.conflictResolutionType
  bucketType : Convertible s.bucketType

/-- The seconds of the retention have 32 bits. -/
def RetentionFits (s : BucketSettings) : Prop :=
  forall d, s.historyRetentionDuration = some d -> d.asSecs < 2 ^ 32

/-!
# Sending
-/

section Sending

variable {alpha : Type} {call : Server -> Exec Error alpha} {req req' : Request}

theorem Sends.unique (h : Sends call req) (h' : Sends call req') : req = req' := by
  rcases h with ⟨answer, _, hcall⟩
  rcases h' with ⟨answer', _, hcall'⟩
  by_contra hne
  -- the server tells one request from the others
  let server : Server :=
    { execute := fun r => .err (.message (if r = req then "this" else "another"))
      decodeCommonError := fun _ => .message "" }
  have hthis : call server = .err (.message "this") := by
    rw [hcall server]
    simp [server]
  have hanother : call server = .err (.message "another") := by
    rw [hcall' server]
    simp [server, Ne.symm hne]
  rw [hthis] at hanother
  simp at hanother

theorem not_sends_panic (h : forall server, call server = .panic) : ¬ Sends call req := by
  rintro ⟨answer, _, hcall⟩
  let server : Server :=
    { execute := fun _ => .err (.message "")
      decodeCommonError := fun _ => .message "" }
  have hpanic : (.panic : Exec Error alpha) = .err (.message "") :=
    (h server).symm.trans (hcall server)
  cases hpanic

/-- What a call submits is what its request holds. -/
theorem submits_iff {path : String} {pair : String -> String -> Prop} (h : Sends call req) :
    Submits call path pair <->
      req.path = path ∧ forall name value, (name, value) ∈ req.body <-> pair name value := by
  constructor
  · rintro ⟨req', hsends, hsubmits⟩
    rw [h.unique hsends]
    exact hsubmits
  · intro hsubmits
    exact ⟨req, h, hsubmits⟩

end Sending

/-!
# Conversions that panic
-/

theorem ifSet_toCore (o : Option (Enumerated constant)) :
    (Convertible o ∧ ifSet toCore o = .ok o) ∨ (¬ Convertible o ∧ ifSet toCore o = .panic) := by
  cases o with
  | none => exact Or.inl ⟨fun val h => (by cases h), rfl⟩
  | some e =>
      cases e with
      | known k => exact Or.inl ⟨fun val h => (by cases h), rfl⟩
      | other val => exact Or.inr ⟨fun h => h val rfl, rfl⟩

/-- The core settings with a storage backend, when all is converted. -/
def converted (s : BucketSettings) (storageBackend : Option (Enumerated StorageBackend)) :
    Mgmtx.BucketSettings where
  flushEnabled := s.flushEnabled
  ramQuotaMb := s.ramQuotaMb
  replicaNumber := s.numReplicas
  evictionPolicy := s.evictionPolicy
  maxTtl := s.maxExpiry
  compressionMode := s.compressionMode
  durabilityMinLevel := s.minimumDurabilityLevel
  historyRetentionCollectionDefault := s.historyRetentionCollectionDefault
  historyRetentionBytes := s.historyRetentionBytes
  historyRetentionSeconds := s.historyRetentionDuration.map fun d => UInt32.ofNat d.asSecs
  conflictResolutionType := s.conflictResolutionType
  replicaIndex := s.replicaIndexes
  bucketType := s.bucketType
  storageBackend := storageBackend
  numVbuckets := s.numVbuckets

theorem coreSettings_cases (s : BucketSettings)
    (storageBackend : Option (Enumerated StorageBackend)) :
    (AllConvertible s ∧ Convertible storageBackend ∧
        coreSettings s storageBackend = .ok (converted s storageBackend)) ∨
      (¬ (AllConvertible s ∧ Convertible storageBackend) ∧
        coreSettings s storageBackend = .panic) := by
  unfold coreSettings
  rcases ifSet_toCore s.evictionPolicy with ⟨hev, heq⟩ | ⟨hev, heq⟩
  · rw [heq, Exec.ok_bind]
    rcases ifSet_toCore s.compressionMode with ⟨hcm, heq⟩ | ⟨hcm, heq⟩
    · rw [heq, Exec.ok_bind]
      rcases ifSet_toCore s.minimumDurabilityLevel with ⟨hdl, heq⟩ | ⟨hdl, heq⟩
      · rw [heq, Exec.ok_bind]
        rcases ifSet_toCore s.conflictResolutionType with ⟨hcr, heq⟩ | ⟨hcr, heq⟩
        · rw [heq, Exec.ok_bind]
          rcases ifSet_toCore s.bucketType with ⟨hbt, heq⟩ | ⟨hbt, heq⟩
          · rw [heq, Exec.ok_bind]
            rcases ifSet_toCore storageBackend with ⟨hsb, heq⟩ | ⟨hsb, heq⟩
            · rw [heq, Exec.ok_bind]
              exact Or.inl ⟨⟨hev, hcm, hdl, hcr, hbt⟩, hsb, rfl⟩
            · rw [heq, Exec.panic_bind]
              exact Or.inr ⟨fun h => hsb h.2, rfl⟩
          · rw [heq, Exec.panic_bind]
            exact Or.inr ⟨fun h => hbt h.1.bucketType, rfl⟩
        · rw [heq, Exec.panic_bind]
          exact Or.inr ⟨fun h => hcr h.1.conflictResolutionType, rfl⟩
      · rw [heq, Exec.panic_bind]
        exact Or.inr ⟨fun h => hdl h.1.minimumDurabilityLevel, rfl⟩
    · rw [heq, Exec.panic_bind]
      exact Or.inr ⟨fun h => hcm h.1.compressionMode, rfl⟩
  · rw [heq, Exec.panic_bind]
    exact Or.inr ⟨fun h => hev h.1.evictionPolicy, rfl⟩

/-!
# Forms that are the same
-/

theorem cons_field {name : String} {value value' : Option String}
    {fields fields' : List (String × Option String)} (hvalue : value = value')
    (hfields : fields = fields') : (name, value) :: fields = (name, value') :: fields' := by
  rw [hvalue, hfields]

theorem map_display (spelling : Spelling constant) {o : Option (Enumerated constant)}
    (h : Convertible o) : o.map (display spelling) = o.map (enumeratedText spelling) := by
  cases o with
  | none => rfl
  | some e =>
      cases e with
      | known k => rfl
      | other val => exact absurd rfl (h val)

/-- The fields are those that are set, if the seconds of the retention fit. -/
theorem formFields_converted {s : BucketSettings} (h : AllConvertible s)
    (hstorage : Convertible s.storageBackend) (hretention : RetentionFits s) :
    formFields (converted s s.storageBackend) = setFields s := by
  have hseconds : (s.historyRetentionDuration.map fun d => UInt32.ofNat d.asSecs).map
      (fun n => n.toNat.repr) = s.historyRetentionDuration.map fun d => d.asSecs.repr := by
    cases hd : s.historyRetentionDuration with
    | none => rfl
    | some d =>
        simp only [Option.map_some]
        rw [UInt32.toNat_ofNat_of_lt' (hretention d hd)]
  exact cons_field rfl (cons_field rfl (cons_field rfl
    (cons_field (map_display _ h.evictionPolicy) (cons_field rfl
    (cons_field (map_display _ h.compressionMode)
    (cons_field (map_display _ h.minimumDurabilityLevel) (cons_field rfl
    (cons_field hseconds (cons_field rfl
    (cons_field (map_display _ h.conflictResolutionType) (cons_field rfl
    (cons_field (map_display _ h.bucketType)
    (cons_field (map_display _ hstorage) rfl)))))))))))))

theorem mem_formFields_retention (opts : Mgmtx.BucketSettings) (value : String) :
    ("historyRetentionSeconds", some value) ∈ formFields opts <->
      opts.historyRetentionSeconds.map (fun n => n.toNat.repr) = some value := by
  simp [formFields, eq_comm]

theorem mem_formFields_storage (opts : Mgmtx.BucketSettings) (value : String) :
    ("storageBackend", some value) ∈ formFields opts <->
      opts.storageBackend.map (display StorageBackend.spelling) = some value := by
  simp [formFields, eq_comm]

theorem isSet_retention (s : BucketSettings) (value : String) :
    IsSet s "historyRetentionSeconds" value <->
      s.historyRetentionDuration.map (fun d => d.asSecs.repr) = some value := by
  simp [IsSet, setFields, eq_comm]

theorem isSet_storage (s : BucketSettings) (value : String) :
    IsSet s "storageBackend" value <->
      s.storageBackend.map (enumeratedText StorageBackend.spelling) = some value := by
  simp [IsSet, setFields, eq_comm]

/-!
# Creating and updating
-/

theorem mem_encode (serializer : Form) (opts : Mgmtx.BucketSettings) (name value : String) :
    (name, value) ∈ Mgmtx.encodeBucketSettings serializer opts <->
      (name, value) ∈ serializer ∨ (name, some value) ∈ formFields opts :=
  Mgmtx.mem_foldl_appendSet (formFields opts) serializer name value

theorem sends_createBucket {s : BucketSettings} {core : Mgmtx.BucketSettings}
    (h : coreSettings s s.storageBackend = .ok core) :
    Sends (fun server => createBucket server s) (Mgmtx.createRequest s.name core) := by
  refine ⟨fun server resp => Mgmtx.expectStatus server 202 resp, ?_, ?_⟩
  · intro server resp
    exact Mgmtx.returns_expectStatus server 202 resp
  · intro server
    unfold createBucket
    rw [h]
    rfl

theorem sends_updateBucket {s : BucketSettings} {core : Mgmtx.BucketSettings}
    (h : coreSettings s none = .ok core) :
    Sends (fun server => updateBucket server s) (Mgmtx.updateRequest s.name core) := by
  refine ⟨fun server resp => Mgmtx.expectStatus server 200 resp, ?_, ?_⟩
  · intro server resp
    exact Mgmtx.returns_expectStatus server 200 resp
  · intro server
    unfold updateBucket
    rw [h]
    rfl

theorem not_submits_createBucket {s : BucketSettings} {path : String}
    {pair : String -> String -> Prop} (h : coreSettings s s.storageBackend = .panic) :
    ¬ Submits (fun server => createBucket server s) path pair := by
  rintro ⟨req, hsends, _⟩
  apply not_sends_panic _ hsends
  intro server
  unfold createBucket
  rw [h]
  rfl

theorem not_submits_updateBucket {s : BucketSettings} {path : String}
    {pair : String -> String -> Prop} (h : coreSettings s none = .panic) :
    ¬ Submits (fun server => updateBucket server s) path pair := by
  rintro ⟨req, hsends, _⟩
  apply not_sends_panic _ hsends
  intro server
  unfold updateBucket
  rw [h]
  rfl

/-- Seconds that are not wrapped fit. -/
theorem retentionFits_of_mem {s : BucketSettings}
    {storageBackend : Option (Enumerated StorageBackend)}
    (h : forall value, IsSet s "historyRetentionSeconds" value ->
      ("historyRetentionSeconds", some value) ∈ formFields (converted s storageBackend)) :
    RetentionFits s := by
  intro d hd
  have hset : IsSet s "historyRetentionSeconds" d.asSecs.repr := by
    rw [isSet_retention, hd]
    rfl
  have hmem := (mem_formFields_retention _ _).mp (h _ hset)
  have hrepr : (UInt32.ofNat d.asSecs).toNat.repr = d.asSecs.repr := by
    simpa [converted, hd] using hmem
  have hnat : (UInt32.ofNat d.asSecs).toNat = d.asSecs := repr_inj hrepr
  rw [← hnat]
  exact (UInt32.ofNat d.asSecs).toNat_lt

theorem createSubmits_iff (s : BucketSettings) :
    CreateSubmits s <-> AllConvertible s ∧ Convertible s.storageBackend ∧ RetentionFits s := by
  unfold CreateSubmits
  rcases coreSettings_cases s s.storageBackend with ⟨hall, hstorage, hcore⟩ | ⟨hnot, hcore⟩
  · rw [submits_iff (sends_createBucket hcore)]
    constructor
    · rintro ⟨_, hsame⟩
      refine ⟨hall, hstorage, @retentionFits_of_mem s s.storageBackend ?_⟩
      intro value hset
      have hmem := (hsame _ _).mpr (Or.inr hset)
      rcases (mem_encode _ _ _ _).mp hmem with hname | hfield
      · simp at hname
      · exact hfield
    · rintro ⟨_, _, hretention⟩
      refine ⟨rfl, ?_⟩
      intro name value
      unfold IsSet
      rw [← formFields_converted hall hstorage hretention]
      refine (mem_encode _ _ _ _).trans (or_congr ?_ Iff.rfl)
      simp
  · apply iff_of_false (not_submits_createBucket hcore)
    rintro ⟨hall, hstorage, _⟩
    exact hnot ⟨hall, hstorage⟩

/-- A request with these fields has what is set if there is no storage backend. -/
theorem updateSubmits_iff (s : BucketSettings) :
    UpdateSubmits s <-> AllConvertible s ∧ s.storageBackend = none ∧ RetentionFits s := by
  unfold UpdateSubmits
  rcases coreSettings_cases s none with ⟨hall, hnone, hcore⟩ | ⟨hnot, hcore⟩
  · rw [submits_iff (sends_updateBucket hcore)]
    constructor
    · rintro ⟨_, hsame⟩
      have hmem : forall name value, IsSet s name value ->
          (name, some value) ∈ formFields (converted s none) := by
        intro name value hset
        rcases (mem_encode _ _ _ _).mp ((hsame name value).mpr hset) with hempty | hfield
        · exact absurd hempty List.not_mem_nil
        · exact hfield
      refine ⟨hall, ?_, retentionFits_of_mem (hmem "historyRetentionSeconds")⟩
      cases hstorage : s.storageBackend with
      | none => rfl
      | some e =>
          have hset := (isSet_storage s _).mpr (congrArg (Option.map _) hstorage)
          have hfield := (mem_formFields_storage _ _).mp (hmem _ _ hset)
          cases hfield
    · rintro ⟨_, hstorage, hretention⟩
      refine ⟨rfl, ?_⟩
      intro name value
      have hfields := formFields_converted hall (hstorage ▸ hnone) hretention
      rw [hstorage] at hfields
      unfold IsSet
      rw [← hfields]
      exact (mem_encode _ _ _ _).trans (or_iff_right List.not_mem_nil)
  · apply iff_of_false (not_submits_updateBucket hcore)
    rintro ⟨hall, _, _⟩
    exact hnot ⟨hall, fun val h => (by cases h)⟩

end Management
end CouchbaseSdk
