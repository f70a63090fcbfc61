import CouchbaseSdk.Foundation.Decimal
import CouchbaseSdk.Foundation.MapOrder
import CouchbaseSdk.Query.QueryClient

/-!
# Scan vectors

The tokens of a mutation state are handed to the service by their buckets: nothing is lost and
nothing is added.
-/

namespace CouchbaseSdk
namespace Query

open Foundation

/-!
# Objects made of maps
-/

namespace Service

section Objects

variable {alpha : Type} (toValue : alpha -> JsonValue) (m : FiniteMap String alpha)

theorem lookup_ofMap (k : String) :
    (m.pairs.map fun e => (e.1, toValue e.2)).lookup k = (m.lookup k).map toValue := by
  rw [← FiniteMap.lookup_pairs]
  generalize m.pairs = l
  induction l with
  | nil => rfl
  | cons e l ih =>
      rw [List.map_cons, List.lookup_cons, List.lookup_cons, ih]
      cases k == e.1 <;> rfl

theorem nodup_names_ofMap : ((m.pairs.map fun e => (e.1, toValue e.2)).map Prod.fst).Nodup := by
  rw [List.map_map]
  exact FiniteMap.nodup_keys_pairs m

end Objects

end Service

/-!
# Tokens by their buckets
-/

namespace MutationState

variable {value : Type}

def vectorIn (buckets : FiniteMap String Service.SparseScanVectors) (bucket key : String) :
    Option Service.ScanVectorEntry :=
  (buckets.lookup bucket).bind fun vectors => vectors.lookup key

/-- The places of tokens, each with what is kept of the token. -/
def entriesBy (entry : MutationToken -> value) (l : List (MutationStateKey × MutationToken)) :
    List (String × String × value) :=
  l.map fun e => (e.1.bucketName, e.1.vbid.toNat.repr, entry e.2)

theorem repr_vbid_inj {vbid vbid' : UInt16} (h : vbid.toNat.repr = vbid'.toNat.repr) :
    vbid = vbid' :=
  UInt16.toNat_inj.mp (repr_inj h)

theorem nodup_entriesBy (entry : MutationToken -> value)
    {l : List (MutationStateKey × MutationToken)} (h : (l.map Prod.fst).Nodup) :
    ((entriesBy entry l).map fun e => (e.1, e.2.1)).Nodup := by
  have hplaces : (entriesBy entry l).map (fun e => (e.1, e.2.1)) =
      (l.map Prod.fst).map fun k => (k.bucketName, k.vbid.toNat.repr) := by
    rw [entriesBy, List.map_map, List.map_map]
    rfl
  rw [hplaces]
  apply h.map
  rintro ⟨bucket, vbid⟩ ⟨bucket', vbid'⟩ heq
  rcases Prod.mk.inj heq with ⟨hbucket, hvbid⟩
  rw [MutationStateKey.mk.injEq]
  exact ⟨hbucket, repr_vbid_inj hvbid⟩

theorem mem_entriesBy {entry : MutationToken -> value} {order : MapOrder} {state : MutationState}
    {bucket key : String} {v : value} :
    (bucket, key, v) ∈ entriesBy entry (order.pairs state.tokens) ↔
      exists vbid token, state.tokens.lookup ⟨bucket, vbid⟩ = some token ∧
        key = vbid.toNat.repr ∧ v = entry token := by
  constructor
  · intro h
    rcases List.mem_map.mp h with ⟨⟨⟨bucket', vbid⟩, token⟩, hmem, heq⟩
    cases heq
    exact ⟨vbid, token, (order.mem_pairs state.tokens).mp hmem, rfl, rfl⟩
  · rintro ⟨vbid, token, hlookup, rfl, rfl⟩
    exact List.mem_map.mpr ⟨_, (order.mem_pairs state.tokens).mpr hlookup, rfl⟩

/-- What is found at a place is what is kept of the token there. -/
theorem lookupIn_entriesBy (entry : MutationToken -> value) (order : MapOrder)
    (state : MutationState) (bucket key : String) (v : value) :
    FiniteMap.lookupIn
        (FiniteMap.insertAllIn (entriesBy entry (order.pairs state.tokens)) ∅) bucket key = some v ↔
      exists vbid token, state.tokens.lookup ⟨bucket, vbid⟩ = some token ∧
        key = vbid.toNat.repr ∧ v = entry token := by
  rw [FiniteMap.lookupIn_insertAllIn (nodup_entriesBy entry (order.nodup_keys state.tokens)),
    mem_entriesBy]
  constructor
  · rintro (hmem | ⟨_, hnone⟩)
    · exact hmem
    · cases hnone
  · exact Or.inl

theorem into_eq (state : MutationState) :
    state.into =
      FiniteMap.insertAllIn (entriesBy vectorEntry (MapOrder.kept.pairs state.tokens)) ∅ := by
  unfold into FiniteMap.insertAllIn entriesBy
  rw [List.foldl_map]
  rfl

theorem vectorIn_into {state : MutationState} {bucket key : String}
    {e : Service.ScanVectorEntry} :
    vectorIn state.into bucket key = some e ↔
      exists vbid token, state.tokens.lookup ⟨bucket, vbid⟩ = some token ∧
        key = vbid.toNat.repr ∧ e = vectorEntry token := by
  rw [into_eq]
  exact lookupIn_entriesBy vectorEntry MapOrder.kept state bucket key e

theorem vectorIn_vbid (state : MutationState) (bucket : String) (vbid : UInt16) :
    vectorIn state.into bucket vbid.toNat.repr =
      (state.tokens.lookup ⟨bucket, vbid⟩).map vectorEntry := by
  apply Option.ext
  intro e
  rw [vectorIn_into, Option.map_eq_some_iff]
  constructor
  · rintro ⟨vbid', token, hlookup, hkey, rfl⟩
    cases repr_vbid_inj hkey
    exact ⟨token, hlookup, rfl⟩
  · rintro ⟨token, hlookup, rfl⟩
    exact ⟨vbid, token, hlookup, rfl, rfl⟩

theorem token_of_bucket {state : MutationState} {bucket : String}
    {vectors : Service.SparseScanVectors} (h : state.into.lookup bucket = some vectors) :
    exists vbid token, state.tokens.lookup ⟨bucket, vbid⟩ = some token := by
  have hmem := FiniteMap.mem_of_lookup h
  rw [into_eq, FiniteMap.mem_insertAllIn_outer] at hmem
  rcases hmem with ⟨key, e, hentry⟩ | hnone
  · rcases mem_entriesBy.mp hentry with ⟨vbid, token, hlookup, _⟩
    exact ⟨vbid, token, hlookup⟩
  · exact absurd hnone (AList.notMem_empty bucket)

end MutationState

/-!
# What scan vectors say
-/

/-- The vector of a partition. -/
def vectorAt : JsonValue -> String -> String -> Option JsonValue
  | .object buckets, bucket, key =>
      match buckets.lookup bucket with
      | some (.object vectors) => vectors.lookup key
      | _ => none
  | _, _, _ => none

def tokenValue (token : MutationToken) : JsonValue :=
  .array [.ofNat token.seqno.toNat, .string token.vbuuid.toNat.repr]

/-- Each token under its bucket and the number of its partition, and nothing else. -/
structure IsScanVectors (state : MutationState) (v : JsonValue) : Prop where
  token : forall bucket (vbid : UInt16), vectorAt v bucket vbid.toNat.repr =
    (state.tokens.lookup ⟨bucket, vbid⟩).map tokenValue
  vector : forall bucket key value, vectorAt v bucket key = some value ->
    exists vbid : UInt16, key = vbid.toNat.repr
  buckets : exists buckets, v = .object buckets ∧ (buckets.map Prod.fst).Nodup ∧
    forall bucket value, buckets.lookup bucket = some value ->
      exists vbid token, state.tokens.lookup ⟨bucket, vbid⟩ = some token

def scanVectors (state : MutationState) : JsonValue :=
  Service.ofMap Service.SparseScanVectors.toValue state.into

theorem vectorAt_scanVectors (state : MutationState) (bucket key : String) :
    vectorAt (scanVectors state) bucket key =
      (MutationState.vectorIn state.into bucket key).map Service.ScanVectorEntry.toValue := by
  unfold scanVectors Service.ofMap vectorAt MutationState.vectorIn
  simp only [Service.lookup_ofMap]
  cases state.into.lookup bucket with
  | none => rfl
  | some vectors => exact Service.lookup_ofMap _ vectors key

theorem isScanVectors (state : MutationState) : IsScanVectors state (scanVectors state) where
  token := by
    intro bucket vbid
    rw [vectorAt_scanVectors, MutationState.vectorIn_vbid]
    cases state.tokens.lookup ⟨bucket, vbid⟩ <;> rfl
  vector := by
    intro bucket key value h
    rw [vectorAt_scanVectors] at h
    rcases Option.map_eq_some_iff.mp h with ⟨entry, hentry, _⟩
    rcases MutationState.vectorIn_into.mp hentry with ⟨vbid, _, _, hkey, _⟩
    exact ⟨vbid, hkey⟩
  buckets := by
    refine ⟨_, rfl, Service.nodup_names_ofMap _ _, ?_⟩
    intro bucket value h
    rw [Service.lookup_ofMap] at h
    rcases Option.map_eq_some_iff.mp h with ⟨vectors, hvectors, _⟩
    exact MutationState.token_of_bucket hvectors

/-!
# Mutation states from tokens and as JSON

A mutation state is filled with the tokens of mutations, written as JSON and read back.
-/

/-- The token of a mutation in a bucket. -/
structure BucketMutationToken where
  token : MutationToken
  bucketName : String
deriving DecidableEq

namespace MutationState

/-!
# Pushing tokens
-/

def new : MutationState := { tokens := ∅ }

def keyOf (token : BucketMutationToken) : MutationStateKey :=
  { bucketName := token.bucketName, vbid := token.token.vbid }

def pushToken (state : MutationState) (token : BucketMutationToken) : MutationState :=
  let key := keyOf token
  match state.tokens.lookup key with
  | some entry =>
      if entry.seqno < token.token.seqno then { tokens := state.tokens.insert key token.token }
      else state
  | none => { tokens := state.tokens.insert key token.token }

def ofTokens (tokens : List BucketMutationToken) : MutationState :=
  tokens.foldl pushToken new

/-!
# Writing
-/

/-- The sequence number and the text of the id. -/
abbrev Vbucket := UInt64 × String

def vbucketOf (token : MutationToken) : Vbucket :=
  (token.seqno, token.vbuuid.toNat.repr)

def addVbucket (buckets : FiniteMap String (FiniteMap String Vbucket)) (key : MutationStateKey)
    (token : MutationToken) : FiniteMap String (FiniteMap String Vbucket) :=
  let bucket : FiniteMap String Vbucket := (buckets.lookup key.bucketName).getD ∅
  buckets.insert key.bucketName (bucket.insert key.vbid.toNat.repr (vbucketOf token))

def vbucketValue (v : Vbucket) : JsonValue :=
  .array [.ofNat v.1.toNat, .string v.2]

def vbucketsValue (order : MapOrder) (vbuckets : FiniteMap String Vbucket) : JsonValue :=
  .object ((order.pairs vbuckets).map fun e => (e.1, vbucketValue e.2))

def serialize (order : MapOrder) (state : MutationState) : JsonValue :=
  let buckets := (order.pairs state.tokens).foldl (fun buckets e => addVbucket buckets e.1 e.2) ∅
  .object ((order.pairs buckets).map fun e => (e.1, vbucketsValue order e.2))

/-!
# Reading
-/

/-- Why a text is not read. -/
inductive DeserializeError where
  | invalidType
  | invalidLength
  | parseInt
deriving DecidableEq

def readU64 (v : JsonValue) : Except DeserializeError UInt64 :=
  match v.toNat with
  | some n => if n < UInt64.size then .ok (UInt64.ofNat n) else .error .invalidType
  | none => .error .invalidType

def readString : JsonValue -> Except DeserializeError String
  | .string s => .ok s
  | _ => .error .invalidType

def readVbucket : JsonValue -> Except DeserializeError Vbucket
  | .array (seqno :: vbuuid :: rest) => do
      let seqno <- readU64 seqno
      let vbuuid <- readString vbuuid
      if rest.isEmpty then .ok (seqno, vbuuid) else .error .invalidLength
  | .array [seqno] => do
      let _ <- readU64 seqno
      .error .invalidLength
  | .array [] => .error .invalidLength
  | _ => .error .invalidType

def readVbuckets : JsonValue -> Except DeserializeError (FiniteMap String Vbucket)
  | .object members =>
      members.foldlM (fun vbuckets e => do
        let v <- readVbucket e.2
        .ok (vbuckets.insert e.1 v)) ∅
  | _ => .error .invalidType

def parse (size : Nat) (text : String) : Except DeserializeError Nat :=
  match parseUnsigned size text with
  | some n => .ok n
  | none => .error .parseInt

def addToken (bucketName : String) (tokens : FiniteMap MutationStateKey MutationToken)
    (e : String × Vbucket) : Except DeserializeError (FiniteMap MutationStateKey MutationToken) :=
  do
    let vbid <- parse UInt16.size e.1
    let key : MutationStateKey := { bucketName := bucketName, vbid := UInt16.ofNat vbid }
    let vbuuid <- parse UInt64.size e.2.2
    .ok (tokens.insert key
      { vbid := key.vbid, vbuuid := UInt64.ofNat vbuuid, seqno := e.2.1 })

def addBucket (order : MapOrder) (tokens : FiniteMap MutationStateKey MutationToken)
    (e : String × JsonValue) :
    Except DeserializeError (FiniteMap MutationStateKey MutationToken) := do
  let vbuckets <- readVbuckets e.2
  (order.pairs vbuckets).foldlM (addToken e.1) tokens

def deserialize (order : MapOrder) : JsonValue -> Except DeserializeError MutationState
  | .object members => do
      let tokens <- members.foldlM (addBucket order) ∅
      .ok { tokens := tokens }
  | _ => .error .invalidType

/-!
# The largest tokens
-/

/-- The token is one of those of the key, and none of them is newer. -/
structure Largest (tokens : List BucketMutationToken) (key : MutationStateKey)
    (token : MutationToken) : Prop where
  mem : exists t, t ∈ tokens ∧ keyOf t = key ∧ t.token = token
  largest : forall t, t ∈ tokens -> keyOf t = key -> t.token.seqno ≤ token.seqno

/-- Tokens for the same sequence number are equal. -/
def Consistent (tokens : List BucketMutationToken) : Prop :=
  forall t t', t ∈ tokens -> t' ∈ tokens -> keyOf t = keyOf t' ->
    t.token.seqno = t'.token.seqno -> t = t'

theorem lookup_pushToken (state : MutationState) (token : BucketMutationToken)
    (key : MutationStateKey) :
    (state.pushToken token).tokens.lookup key =
      if key = keyOf token then
        match state.tokens.lookup key with
        | some entry => if entry.seqno < token.token.seqno then some token.token else some entry
        | none => some token.token
      else state.tokens.lookup key := by
  unfold pushToken
  dsimp only
  by_cases hkey : key = keyOf token
  · rw [if_pos hkey, hkey]
    cases hentry : state.tokens.lookup (keyOf token) with
    | none => exact AList.lookup_insert _
    | some entry =>
        dsimp only
        split
        · exact AList.lookup_insert _
        · exact hentry
  · rw [if_neg hkey]
    split
    · split
      · exact AList.lookup_insert_ne hkey
      · rfl
    · exact AList.lookup_insert_ne hkey

/-- The state holds the largest of the tokens, under each key that has one. -/
structure Holds (tokens : List BucketMutationToken) (state : MutationState) : Prop where
  largest : forall key token, state.tokens.lookup key = some token -> Largest tokens key token
  none : forall key, state.tokens.lookup key = none -> forall t, t ∈ tokens -> keyOf t ≠ key

variable {tokens tokens' : List BucketMutationToken} {state : MutationState}

theorem Largest.snoc {key : MutationStateKey} {token : MutationToken} (h : Largest tokens key token)
    {t : BucketMutationToken} (ht : keyOf t = key -> t.token.seqno ≤ token.seqno) :
    Largest (tokens ++ [t]) key token := by
  rcases h.mem with ⟨t', hmem, hkey, htoken⟩
  refine ⟨⟨t', List.mem_append_left _ hmem, hkey, htoken⟩, ?_⟩
  intro t'' hmem'' hkey''
  rcases List.mem_append.mp hmem'' with hold | hnew
  · exact h.largest t'' hold hkey''
  · rw [List.mem_singleton] at hnew
    rw [hnew] at hkey'' ⊢
    exact ht hkey''

/-- A token is the largest behind others if it is not older than any of its key. -/
theorem largest_last {t : BucketMutationToken}
    (h : forall t', t' ∈ tokens -> keyOf t' = keyOf t -> t'.token.seqno ≤ t.token.seqno) :
    Largest (tokens ++ [t]) (keyOf t) t.token := by
  refine ⟨⟨t, List.mem_append_right _ (List.mem_singleton_self t), rfl, rfl⟩, ?_⟩
  intro t' hmem hkey
  rcases List.mem_append.mp hmem with hold | hnew
  · exact h t' hold hkey
  · rw [List.mem_singleton.mp hnew]
    exact UInt64.le_refl _

/-- A token that is pushed behind others. -/
theorem Holds.push (h : Holds tokens state) (t : BucketMutationToken) :
    Holds (tokens ++ [t]) (state.pushToken t) where
  largest := by
    intro key token hlookup
    rw [lookup_pushToken] at hlookup
    split at hlookup
    · next hkey =>
        rw [hkey] at hlookup ⊢
        cases hentry : state.tokens.lookup (keyOf t) with
        | none =>
            rw [hentry] at hlookup
            cases hlookup
            exact largest_last fun t' hmem hkey' => absurd hkey' (h.none _ hentry t' hmem)
        | some entry =>
            have hold := h.largest _ _ hentry
            rw [hentry] at hlookup
            dsimp only at hlookup
            split at hlookup
            · next hlt =>
                cases hlookup
                exact largest_last fun t' hmem hkey' =>
                  UInt64.le_of_lt (UInt64.lt_of_le_of_lt (hold.largest t' hmem hkey') hlt)
            · next hle =>
                cases hlookup
                exact hold.snoc fun _ => UInt64.not_lt.mp hle
    · next hkey =>
        exact (h.largest _ _ hlookup).snoc fun heq => absurd heq.symm hkey
  none := by
    intro key hlookup t' hmem
    rw [lookup_pushToken] at hlookup
    split at hlookup
    · next hkey =>
        cases hentry : state.tokens.lookup key with
        | none =>
            rw [hentry] at hlookup
            cases hlookup
        | some entry =>
            rw [hentry] at hlookup
            dsimp only at hlookup
            split at hlookup <;> cases hlookup
    · next hkey =>
        rcases List.mem_append.mp hmem with hold | hnew
        · exact h.none key hlookup t' hold
        · rw [List.mem_singleton.mp hnew]
          exact Ne.symm hkey

theorem Holds.pushAll (h : Holds tokens state) (l : List BucketMutationToken) :
    Holds (tokens ++ l) (l.foldl pushToken state) := by
  induction l generalizing tokens state with
  | nil =>
      rw [List.append_nil]
      exact h
  | cons t l ih =>
      have hrest := ih (h.push t)
      rw [List.append_assoc] at hrest
      exact hrest

theorem ofTokens_holds (l : List BucketMutationToken) : Holds l (ofTokens l) :=
  @Holds.pushAll [] new ⟨(fun _ _ h => by cases h), (fun _ _ _ h => by cases h)⟩ l

theorem lookup_ofTokens (hconsistent : Consistent tokens) {key : MutationStateKey}
    {token : MutationToken} :
    (ofTokens tokens).tokens.lookup key = some token ↔ Largest tokens key token := by
  have h := ofTokens_holds tokens
  constructor
  · exact h.largest key token
  · intro hlargest
    rcases hlargest.mem with ⟨t, hmem, hkey, rfl⟩
    cases hlookup : (ofTokens tokens).tokens.lookup key with
    | none => exact absurd hkey (h.none key hlookup t hmem)
    | some token' =>
        have hother := h.largest key token' hlookup
        rcases hother.mem with ⟨t', hmem', hkey', rfl⟩
        have hseqno : t'.token.seqno = t.token.seqno :=
          UInt64.le_antisymm (hlargest.largest t' hmem' hkey') (hother.largest t hmem hkey)
        rw [hconsistent t' t hmem' hmem (hkey'.trans hkey.symm) hseqno]

theorem Largest.congr (h : forall t, t ∈ tokens ↔ t ∈ tokens') {key : MutationStateKey}
    {token : MutationToken} (hlargest : Largest tokens key token) :
    Largest tokens' key token := by
  rcases hlargest.mem with ⟨t, hmem, hkey, htoken⟩
  exact ⟨⟨t, (h t).mp hmem, hkey, htoken⟩,
    fun t' hmem' => hlargest.largest t' ((h t').mpr hmem')⟩

/-- The order and the repetitions of the tokens do not matter. -/
theorem ofTokens_same (hconsistent : Consistent tokens)
    (h : forall t, t ∈ tokens ↔ t ∈ tokens') :
    (ofTokens tokens).tokens.Same (ofTokens tokens').tokens := by
  have hconsistent' : Consistent tokens' := fun t t' hmem hmem' =>
    hconsistent t t' ((h t).mpr hmem) ((h t').mpr hmem')
  intro key
  apply Option.ext
  intro token
  rw [lookup_ofTokens hconsistent, lookup_ofTokens hconsistent']
  exact ⟨Largest.congr h, Largest.congr fun t => (h t).symm⟩

/-!
# Written states
-/

/-- Each token stands under the id of its own partition. -/
def WellKeyed (state : MutationState) : Prop :=
  forall key token, state.tokens.lookup key = some token -> token.vbid = key.vbid

theorem ofTokens_wellKeyed (l : List BucketMutationToken) : WellKeyed (ofTokens l) := by
  intro key token hlookup
  rcases ((ofTokens_holds l).largest key token hlookup).mem with ⟨t, _, rfl, rfl⟩
  rfl

/-- The buckets that are written. -/
def bucketsOf (order : MapOrder) (state : MutationState) :
    FiniteMap String (FiniteMap String Vbucket) :=
  FiniteMap.insertAllIn (entriesBy vbucketOf (order.pairs state.tokens)) ∅

theorem serialize_eq (order : MapOrder) (state : MutationState) :
    serialize order state =
      .object ((order.pairs (bucketsOf order state)).map fun e =>
        (e.1, vbucketsValue order e.2)) := by
  have hbuckets : (order.pairs state.tokens).foldl
      (fun buckets e => addVbucket buckets e.1 e.2) ∅ = bucketsOf order state := by
    unfold bucketsOf FiniteMap.insertAllIn entriesBy
    rw [List.foldl_map]
    rfl
  unfold serialize
  rw [hbuckets]

/-- An entry that is written is that of a token. -/
theorem mem_bucketsOf {order : MapOrder} {state : MutationState} {bucket key : String}
    {vbuckets : FiniteMap String Vbucket} {v : Vbucket}
    (hbucket : (bucket, vbuckets) ∈ order.pairs (bucketsOf order state))
    (hkey : vbuckets.lookup key = some v) :
    exists vbid token, state.tokens.lookup ⟨bucket, vbid⟩ = some token ∧
      key = vbid.toNat.repr ∧ v = vbucketOf token := by
  apply (lookupIn_entriesBy vbucketOf order state bucket key v).mp
  have hlookup := (order.mem_pairs _).mp hbucket
  unfold FiniteMap.lookupIn
  unfold bucketsOf at hlookup
  rw [hlookup]
  exact hkey

/-- The entry of a token is written. -/
theorem bucketsOf_token {order : MapOrder} {state : MutationState} {bucket : String}
    {vbid : UInt16} {token : MutationToken}
    (h : state.tokens.lookup ⟨bucket, vbid⟩ = some token) :
    exists vbuckets, (bucket, vbuckets) ∈ order.pairs (bucketsOf order state) ∧
      vbuckets.lookup vbid.toNat.repr = some (vbucketOf token) := by
  have hentry :=
    (lookupIn_entriesBy vbucketOf order state bucket _ _).mpr ⟨vbid, token, h, rfl, rfl⟩
  rcases Option.bind_eq_some_iff.mp hentry with ⟨vbuckets, hlookup, hkey⟩
  exact ⟨vbuckets, (order.mem_pairs _).mpr hlookup, hkey⟩

/-!
# Reading what is written
-/

theorem readU64_ofNat (n : UInt64) : readU64 (.ofNat n.toNat) = .ok n := by
  unfold readU64
  rw [JsonValue.toNat_ofNat]
  dsimp only
  rw [if_pos n.toNat_lt, UInt64.ofNat_toNat]

theorem readVbucket_value (v : Vbucket) : readVbucket (vbucketValue v) = .ok v := by
  unfold vbucketValue readVbucket
  dsimp only
  rw [readU64_ofNat]
  rfl

theorem readVbuckets_value (order : MapOrder) (vbuckets : FiniteMap String Vbucket) :
    readVbuckets (vbucketsValue order vbuckets) =
      .ok (FiniteMap.insertAll ∅ (order.pairs vbuckets)) := by
  unfold readVbuckets vbucketsValue
  dsimp only
  generalize (∅ : FiniteMap String Vbucket) = start
  generalize order.pairs vbuckets = l
  induction l generalizing start with
  | nil => rfl
  | cons e l ih =>
      rw [List.map_cons, List.foldlM_cons, readVbucket_value]
      exact ih (start.insert e.1 e.2)

theorem addToken_vbucket (bucketName : String)
    (tokens : FiniteMap MutationStateKey MutationToken) (token : MutationToken) :
    addToken bucketName tokens (token.vbid.toNat.repr, vbucketOf token) =
      .ok (tokens.insert ⟨bucketName, token.vbid⟩ token) := by
  unfold addToken parse vbucketOf
  rw [parseUnsigned_repr token.vbid.toNat_lt, parseUnsigned_repr token.vbuuid.toNat_lt]
  change Except.ok (tokens.insert ⟨bucketName, UInt16.ofNat token.vbid.toNat⟩
    ⟨UInt16.ofNat token.vbid.toNat, UInt64.ofNat token.vbuuid.toNat, token.seqno⟩) = _
  rw [UInt16.ofNat_toNat, UInt64.ofNat_toNat]

/-- Reading goes on from some tokens to others: all of them are those of the state, none is
lost, and those of the keys are there. -/
structure Reads (state : MutationState) (keys : MutationStateKey -> Prop)
    (before after : FiniteMap MutationStateKey MutationToken) : Prop where
  sound : forall key token, after.lookup key = some token ->
    state.tokens.lookup key = some token
  grows : forall key, key ∈ before -> key ∈ after
  found : forall key, keys key -> key ∈ after

/-- The keys of a bucket that are written there. -/
def keysIn (bucket : String) (l : List (String × Vbucket)) (key : MutationStateKey) : Prop :=
  key.bucketName = bucket ∧ key.vbid.toNat.repr ∈ l.map Prod.fst

/-- The tokens of a bucket are read. -/
theorem addTokens_reads {state : MutationState} (hkeyed : WellKeyed state) {bucket : String}
    {l : List (String × Vbucket)}
    (hl : forall e, e ∈ l -> exists vbid token,
      state.tokens.lookup ⟨bucket, vbid⟩ = some token ∧ e = (vbid.toNat.repr, vbucketOf token))
    {tokens : FiniteMap MutationStateKey MutationToken}
    (htokens : forall key token, tokens.lookup key = some token ->
      state.tokens.lookup key = some token) :
    exists after, l.foldlM (addToken bucket) tokens = .ok after ∧
      Reads state (keysIn bucket l) tokens after := by
  induction l generalizing tokens with
  | nil => exact ⟨tokens, rfl, htokens, fun _ h => h, fun _ h => by cases h.2⟩
  | cons e l ih =>
      rcases hl e List.mem_cons_self with ⟨vbid, token, hlookup, rfl⟩
      have hvbid : token.vbid = vbid := hkeyed _ _ hlookup
      have hstep := addToken_vbucket bucket tokens token
      rw [hvbid] at hstep
      have hinsert : forall key token', (tokens.insert ⟨bucket, vbid⟩ token).lookup key =
          some token' -> state.tokens.lookup key = some token' := by
        intro key token' h
        rcases FiniteMap.lookup_insert_some h with ⟨rfl, rfl⟩ | ⟨_, hold⟩
        · exact hlookup
        · exact htokens key token' hold
      rcases ih (fun e he => hl e (List.mem_cons_of_mem _ he)) hinsert with ⟨after, hfold, hreads⟩
      refine ⟨after, ?_, hreads.sound, ?_, ?_⟩
      · rw [List.foldlM_cons, hstep]
        exact hfold
      · exact fun key h => hreads.grows key ((AList.mem_insert _).mpr (Or.inr h))
      · rintro ⟨bucket', vbid'⟩ ⟨rfl, hmem⟩
        rcases List.mem_cons.mp hmem with heq | htail
        · have hsame : vbid' = vbid := repr_vbid_inj heq
          rw [hsame]
          exact hreads.grows _ ((AList.mem_insert _).mpr (Or.inl rfl))
        · exact hreads.found _ ⟨rfl, htail⟩

/-- The keys whose entries are in the buckets. -/
def keysOf (l : List (String × FiniteMap String Vbucket)) (key : MutationStateKey) : Prop :=
  exists vbuckets, (key.bucketName, vbuckets) ∈ l ∧
    (vbuckets.lookup key.vbid.toNat.repr).isSome

theorem addBuckets_reads (order order' : MapOrder) {state : MutationState}
    (hkeyed : WellKeyed state) {l : List (String × FiniteMap String Vbucket)}
    (hl : forall e, e ∈ l -> e ∈ order.pairs (bucketsOf order state))
    {tokens : FiniteMap MutationStateKey MutationToken}
    (htokens : forall key token, tokens.lookup key = some token ->
      state.tokens.lookup key = some token) :
    exists after, (l.map fun e => (e.1, vbucketsValue order e.2)).foldlM (addBucket order') tokens =
        .ok after ∧
      Reads state (keysOf l) tokens after := by
  induction l generalizing tokens with
  | nil =>
      exact ⟨tokens, rfl, htokens, fun _ h => h, fun _ h => by rcases h with ⟨_, h, _⟩; cases h⟩
  | cons e l ih =>
      rcases e with ⟨bucket, vbuckets⟩
      have hsame := order.insertAll_pairs vbuckets
      have hentries : forall e, e ∈ order'.pairs (FiniteMap.insertAll ∅ (order.pairs vbuckets)) ->
          exists vbid token, state.tokens.lookup ⟨bucket, vbid⟩ = some token ∧
            e = (vbid.toNat.repr, vbucketOf token) := by
        rintro ⟨key, v⟩ he
        have hlookup := (order'.mem_pairs _).mp he
        rw [hsame] at hlookup
        rcases mem_bucketsOf (hl _ List.mem_cons_self) hlookup with ⟨vbid, token, h, rfl, rfl⟩
        exact ⟨vbid, token, h, rfl⟩
      rcases addTokens_reads hkeyed hentries htokens with ⟨middle, hmiddle, hreads⟩
      rcases ih (fun e he => hl e (List.mem_cons_of_mem _ he)) hreads.sound with
        ⟨after, hafter, hreads'⟩
      have hstep : addBucket order' tokens (bucket, vbucketsValue order vbuckets) = .ok middle := by
        unfold addBucket
        rw [readVbuckets_value]
        exact hmiddle
      refine ⟨after, ?_, hreads'.sound, fun key h => hreads'.grows key (hreads.grows key h), ?_⟩
      · rw [List.map_cons, List.foldlM_cons, hstep]
        exact hafter
      · rintro ⟨bucket', vbid⟩ ⟨vbuckets', hmem, hsome⟩
        rcases List.mem_cons.mp hmem with heq | htail
        · cases heq
          apply hreads'.grows
          apply hreads.found
          refine ⟨rfl, ?_⟩
          rcases Option.isSome_iff_exists.mp hsome with ⟨v, hv⟩
          rw [← hsame] at hv
          exact List.mem_map.mpr ⟨_, (order'.mem_pairs _).mpr hv, rfl⟩
        · exact hreads'.found _ ⟨vbuckets', htail, hsome⟩

/-- What is written of a state is read as the same state. -/
theorem deserialize_serialize (order order' : MapOrder) {state : MutationState}
    (hkeyed : WellKeyed state) :
    exists state', deserialize order' (serialize order state) = .ok state' ∧
      state'.tokens.Same state.tokens := by
  rcases @addBuckets_reads order order' state hkeyed _ (fun _ he => he) ∅
    (fun _ _ h => by cases h) with ⟨tokens, hfold, hreads⟩
  refine ⟨{ tokens := tokens }, ?_, ?_⟩
  · rw [serialize_eq]
    unfold deserialize
    dsimp only
    rw [hfold]
    rfl
  · intro key
    change tokens.lookup key = _
    cases hlookup : state.tokens.lookup key with
    | none =>
        cases htoken : tokens.lookup key with
        | none => rfl
        | some token =>
            rw [hreads.sound key token htoken] at hlookup
            cases hlookup
    | some token =>
        have hkey : keysOf (order.pairs (bucketsOf order state)) key := by
          rcases @bucketsOf_token order state key.bucketName key.vbid token hlookup with
            ⟨vbuckets, hmem, hvbid⟩
          exact ⟨vbuckets, hmem, by rw [hvbid]; rfl⟩
        rcases FiniteMap.exists_lookup (hreads.found key hkey) with ⟨token', htoken⟩
        have hsound := hreads.sound key token' htoken
        rw [hlookup] at hsound
        rw [htoken, hsound]

/-!
# Entries
-/

/-- The entries of a written state: a bucket, the number of a partition and what is kept of its
token. -/
def treeEntries : JsonValue -> List (String × String × JsonValue)
  | .object buckets =>
      buckets.flatMap fun b =>
        match b.2 with
        | .object vbuckets => vbuckets.map fun e => (b.1, e.1, e.2)
        | _ => []
  | _ => []

theorem mem_treeEntries_serialize {order : MapOrder} {state : MutationState} {bucket key : String}
    {v : JsonValue} :
    (bucket, key, v) ∈ treeEntries (serialize order state) ↔
      exists vbid token, state.tokens.lookup ⟨bucket, vbid⟩ = some token ∧
        key = vbid.toNat.repr ∧ v = tokenValue token := by
  rw [serialize_eq]
  unfold treeEntries
  dsimp only
  rw [List.flatMap_map, List.mem_flatMap]
  constructor
  · rintro ⟨⟨bucket', vbuckets⟩, hbucket, hmem⟩
    unfold vbucketsValue at hmem
    dsimp only at hmem
    rw [List.map_map] at hmem
    rcases List.mem_map.mp hmem with ⟨⟨key', v'⟩, hentry, heq⟩
    cases heq
    rcases mem_bucketsOf hbucket ((order.mem_pairs _).mp hentry) with ⟨vbid, token, h, rfl, rfl⟩
    exact ⟨vbid, token, h, rfl, rfl⟩
  · rintro ⟨vbid, token, hlookup, rfl, rfl⟩
    rcases @bucketsOf_token order state bucket vbid token hlookup with ⟨vbuckets, hbucket, hvbid⟩
    refine ⟨(bucket, vbuckets), hbucket, ?_⟩
    unfold vbucketsValue
    dsimp only
    rw [List.map_map]
    exact List.mem_map.mpr ⟨_, (order.mem_pairs _).mpr hvbid, rfl⟩

/-- The scan vectors have the entries of the written state. -/
theorem mem_treeEntries_iff {order : MapOrder} {state : MutationState} {bucket key : String}
    {v : JsonValue} :
    (bucket, key, v) ∈ treeEntries (serialize order state) ↔
      exists e, vectorIn state.into bucket key = some e ∧ v = e.toValue := by
  rw [mem_treeEntries_serialize]
  constructor
  · rintro ⟨vbid, token, hlookup, hkey, rfl⟩
    exact ⟨vectorEntry token, vectorIn_into.mpr ⟨vbid, token, hlookup, hkey, rfl⟩, rfl⟩
  · rintro ⟨e, he, rfl⟩
    rcases vectorIn_into.mp he with ⟨vbid, token, hlookup, hkey, rfl⟩
    exact ⟨vbid, token, hlookup, hkey, rfl⟩

/-- Two tokens of a partition and one of another. -/
def threeTokens : List BucketMutationToken :=
  [⟨⟨1, 1234, 7⟩, "default"⟩, ⟨⟨1, 1234, 5⟩, "default"⟩, ⟨⟨25, 5678, 10⟩, "beer-sample"⟩]

end MutationState
end Query
end CouchbaseSdk
