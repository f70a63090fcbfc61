import CouchbaseSdk.Foundation.QuotedNames
import CouchbaseSdk.Query.MutationTokens

/-!
# Options of a query reach the service

What the body of a query has to say for the options of its caller, and for which options it does.
-/

namespace CouchbaseSdk
namespace Query

open Foundation
open Service.QueryOptions (prefixed addParameter)

/-!
# What a body has to say
-/

abbrev Requirement := JsonValue -> Prop

/-- The text of a duration. -/
def InGoNotation (d : Duration) : Requirement :=
  fun v => exists s, v = .string s ∧ goDuration s = some d.asNanos

/-- The two names of a keyspace, each between backticks. -/
def NamesKeyspace (keyspace : QueryKeyspace) : Requirement :=
  fun v => exists s : String, v = .string s ∧
    readNames '\x60' '.' s.toList.length s.toList =
      some [keyspace.bucketName.toList, keyspace.scopeName.toList]

def consistencyText : ScanConsistency -> String
  | .notBounded => "not_bounded"
  | .requestPlus => "request_plus"
  | .atPlus _ => "at_plus"

def mutationState : Option ScanConsistency -> Option MutationState
  | some (.atPlus state) => some state
  | _ => none

def profileText : ProfileMode -> String
  | .off => "off"
  | .phases => "phases"
  | .timings => "timings"

def replicaText : ReplicaLevel -> String
  | .on => "on"
  | .off => "off"

section Spec

variable {strategy : Type} (client : CouchbaseQueryClient strategy) (statement : String)
  (opts : QueryOptions strategy)

/-- The parameters of a request, of which those of options that are not set are not required. -/
def required : List (String × Option Requirement) :=
  [("args", opts.positionalParameters.map fun items v => v = .array items),
    ("client_context_id", opts.clientContextId.map fun id v => v = .string id),
    ("max_parallelism", opts.maxParallelism.map fun n v => v = .ofNat n.toNat),
    ("metrics", opts.metrics.map fun b v => v = .bool b),
    ("pipeline_batch", opts.pipelineBatch.map fun n v => v = .ofNat n.toNat),
    ("pipeline_cap", opts.pipelineCap.map fun n v => v = .ofNat n.toNat),
    ("preserve_expiry", opts.preserveExpiry.map fun b v => v = .bool b),
    ("profile", opts.profile.map fun mode v => v = .string (profileText mode)),
    ("query_context", client.keyspace.map NamesKeyspace),
    ("readonly", opts.readOnly.map fun b v => v = .bool b),
    ("scan_cap", opts.scanCap.map fun n v => v = .ofNat n.toNat),
    ("scan_consistency", opts.scanConsistency.map fun c v => v = .string (consistencyText c)),
    ("scan_vectors", (mutationState opts.scanConsistency).map IsScanVectors),
    ("scan_wait", opts.scanWait.map InGoNotation),
    ("statement", some fun v => v = .string statement),
    ("timeout", opts.serverTimeout.map InGoNotation),
    ("use_fts", opts.flexIndex.map fun b v => v = .bool b),
    ("use_replica", opts.useReplica.map fun level v => v = .string (replicaText level))]

/-- What is there whether it is asked for or not. -/
def always : List String :=
  ["statement", "client_context_id", "metrics"]

def rawValue (k : String) : Option JsonValue :=
  opts.raw.bind fun raw => raw.lookup k

def namedValue (n : String) : Option JsonValue :=
  opts.namedParameters.bind fun named => named.lookup n

/-- No two named parameters differ only by a dollar sign in front. -/
def NamesApart : Prop :=
  forall n, (namedValue opts n).isSome = true -> namedValue opts ("$" ++ n) = none

/-- Every raw entry, every option that is set unless a raw entry takes its place, and nothing
else. -/
structure Carries (body : FiniteMap String JsonValue) : Prop where
  raw : forall k v, rawValue opts k = some v -> body.lookup k = some v
  options : forall k p, (k, some p) ∈ required client statement opts -> rawValue opts k = none ->
    exists v, body.lookup k = some v ∧ p v
  named : forall n v, namedValue opts n = some v -> rawValue opts (prefixed n) = none ->
    body.lookup (prefixed n) = some v
  only : forall k v, body.lookup k = some v ->
    (rawValue opts k).isSome = true ∨
    (exists p, (k, some p) ∈ required client statement opts) ∨
    (exists n, (namedValue opts n).isSome = true ∧ k = prefixed n) ∨ k ∈ always

/-- No quotes in the names of the keyspace, durations of 64 bits and no choice of an index, as far
as no raw entry takes their place. -/
def CarriedWhen : Prop :=
  (forall keyspace, client.keyspace = some keyspace -> rawValue opts "query_context" = none ->
    Unquoted '\x60' keyspace.bucketName.toList ∧ Unquoted '\x60' keyspace.scopeName.toList) ∧
  (forall d, opts.scanWait = some d -> rawValue opts "scan_wait" = none -> d.asNanos < 2 ^ 64) ∧
  (forall d, opts.serverTimeout = some d -> rawValue opts "timeout" = none ->
    d.asNanos < 2 ^ 64) ∧
  forall b, opts.flexIndex = some b -> rawValue opts "use_fts" ≠ none

end Spec

/-!
# Single parameters
-/

theorem inGoNotation_iff (d : Duration) :
    InGoNotation d (Service.ofDuration d) <-> d.asNanos < 2 ^ 64 := by
  have hread := Helpers.goDuration_durationToGolangString d
  constructor
  · rintro ⟨s, hs, hvalue⟩
    cases hs
    rw [hread] at hvalue
    have hmod : d.asNanos % 2 ^ 64 = d.asNanos := by
      injection hvalue
    rw [← hmod]
    exact Nat.mod_lt _ (by decide)
  · intro h
    refine ⟨_, rfl, ?_⟩
    rw [hread, Nat.mod_eq_of_lt h]

theorem toList_queryContext (keyspace : QueryKeyspace) :
    (queryContext keyspace).toList =
      '\x60' :: (keyspace.bucketName.toList ++
        '\x60' :: '.' :: '\x60' :: (keyspace.scopeName.toList ++ ['\x60'])) := by
  simp [queryContext, String.toList_append]

theorem namesKeyspace_iff (keyspace : QueryKeyspace) :
    NamesKeyspace keyspace (.string (queryContext keyspace)) <->
      Unquoted '\x60' keyspace.bucketName.toList ∧ Unquoted '\x60' keyspace.scopeName.toList := by
  have hlength : exists n, (queryContext keyspace).toList.length = n + 2 := by
    refine ⟨(queryContext keyspace).toList.length - 2, ?_⟩
    rw [toList_queryContext]
    simp only [List.length_cons, List.length_append]
    omega
  rcases hlength with ⟨n, hlength⟩
  rw [← @readNames_pair_iff '\x60' '.' (by decide) _ _ n, ← toList_queryContext]
  constructor
  · rintro ⟨s, hs, hread⟩
    cases hs
    rwa [hlength] at hread
  · intro h
    refine ⟨_, rfl, ?_⟩
    rwa [hlength]

/-!
# The body
-/

theorem prefixed_inj {n m : String} (h : prefixed n = prefixed m) :
    n = m ∨ m = "$" ++ n ∨ n = "$" ++ m := by
  unfold Service.QueryOptions.prefixed at h
  split at h <;> split at h
  · exact Or.inl h
  · exact Or.inr (Or.inr h)
  · exact Or.inr (Or.inl h.symm)
  · exact Or.inl (String.append_right_inj "$" |>.mp h)

theorem head_prefixed (n : String) : (prefixed n).toList.head? = some '$' := by
  unfold Service.QueryOptions.prefixed
  split
  · next h => exact h
  · simp [String.toList_append]

/-- Without the parameters that have no value. -/
theorem lookup_parameters {l : List (String × Option JsonValue)} (hnodup : (l.map Prod.fst).Nodup)
    (m : FiniteMap String JsonValue) (k : String) :
    (l.foldl addParameter m).lookup k = ((l.lookup k).join).or (m.lookup k) := by
  induction l generalizing m with
  | nil => rfl
  | cons p l ih =>
      rw [List.map_cons, List.nodup_cons] at hnodup
      rw [List.foldl_cons, List.lookup_cons, ih hnodup.2]
      by_cases hk : k = p.1
      · rw [hk, FiniteMap.lookup_eq_none_of_notMem hnodup.1, beq_self_eq_true]
        unfold addParameter
        cases p.2 with
        | none => rfl
        | some v => exact AList.lookup_insert m
      · rw [beq_eq_false_iff_ne.mpr hk]
        unfold addParameter
        cases p.2 with
        | none => rfl
        | some v =>
            simp only
            rw [AList.lookup_insert_ne hk]

section Body

variable {strategy : Type} (client : CouchbaseQueryClient strategy) (newUuid serviceUuid : String)
  (statement : String) (opts : QueryOptions strategy)

/-- The parameters that the client gives a value, and the one for full text indexes. -/
def sent : List (String × Option JsonValue) :=
  [("args", opts.positionalParameters.map .array),
    ("client_context_id", some (.string (opts.clientContextId.getD newUuid))),
    ("max_parallelism", opts.maxParallelism.map Service.ofUInt32),
    ("metrics", some (.bool (opts.metrics.getD false))),
    ("pipeline_batch", opts.pipelineBatch.map Service.ofUInt32),
    ("pipeline_cap", opts.pipelineCap.map Service.ofUInt32),
    ("preserve_expiry", opts.preserveExpiry.map .bool),
    ("profile", (opts.profile.map ProfileMode.into).map Service.ProfileMode.toValue),
    ("query_context", (client.keyspace.map queryContext).map .string),
    ("readonly", opts.readOnly.map .bool),
    ("scan_cap", opts.scanCap.map Service.ofUInt32),
    ("scan_consistency",
      (scanOptions opts.scanConsistency).2.map Service.ScanConsistency.toValue),
    ("scan_vectors", (scanOptions opts.scanConsistency).1.map
      (Service.ofMap Service.SparseScanVectors.toValue)),
    ("scan_wait", opts.scanWait.map Service.ofDuration),
    ("statement", some (.string statement)),
    ("timeout", opts.serverTimeout.map Service.ofDuration),
    ("use_fts", none),
    ("use_replica", (opts.useReplica.map ReplicaLevel.into).map Service.ReplicaLevel.toValue)]

theorem nodup_sent : ((sent client newUuid statement opts).map Prod.fst).Nodup := by
  simp only [sent, List.map_cons, List.map_nil]
  decide

theorem parameters_agentOptions :
    (agentOptions client newUuid statement opts).into.parameters.foldl addParameter ∅ =
      (sent client newUuid statement opts).foldl addParameter ∅ := rfl

/-- The named parameters under the names they are sent by. -/
def namedSent : List (String × JsonValue) :=
  match opts.namedParameters with
  | none => []
  | some named => named.pairs.map fun e => (prefixed e.1, e.2)

def rawSent : List (String × JsonValue) :=
  match opts.raw with
  | none => []
  | some raw => raw.pairs

theorem lookup_rawSent (k : String) : (rawSent opts).lookup k = rawValue opts k := by
  unfold rawSent rawValue
  cases opts.raw with
  | none => rfl
  | some raw => exact FiniteMap.lookup_pairs raw k

theorem nodup_rawSent : ((rawSent opts).map Prod.fst).Nodup := by
  unfold rawSent
  cases opts.raw with
  | none => exact List.nodup_nil
  | some raw => exact FiniteMap.nodup_keys_pairs raw

variable {opts}

theorem nodup_namedSent (hapart : NamesApart opts) : ((namedSent opts).map Prod.fst).Nodup := by
  unfold namedSent
  cases hnamed : opts.namedParameters with
  | none => exact List.nodup_nil
  | some named =>
      have hvalue : forall e, e ∈ named.pairs -> namedValue opts e.1 = some e.2 := by
        intro e he
        rw [namedValue, hnamed, Option.bind_some, ← FiniteMap.lookup_pairs]
        exact FiniteMap.lookup_of_mem (FiniteMap.nodup_keys_pairs named) he
      have hapart' : forall e e', e ∈ named.pairs -> e' ∈ named.pairs -> e'.1 ≠ "$" ++ e.1 := by
        intro e e' he he' heq
        have hnone := hapart e.1 (by rw [hvalue e he]; rfl)
        rw [← heq, hvalue e' he'] at hnone
        cases hnone
      rw [List.map_map]
      apply List.Nodup.map_on
      · intro e he e' he' heq
        rcases prefixed_inj heq with hname | hname | hname
        · have hlookup := hvalue e he
          rw [hname, hvalue e' he'] at hlookup
          exact Prod.ext hname (Option.some.inj hlookup).symm
        · exact absurd hname (hapart' e e' he he')
        · exact absurd hname (hapart' e' e he' he)
      · exact List.Nodup.of_map Prod.fst (FiniteMap.nodup_keys_pairs named)

theorem lookup_namedSent (hapart : NamesApart opts) {n : String} {v : JsonValue}
    (h : namedValue opts n = some v) : (namedSent opts).lookup (prefixed n) = some v := by
  have hmem : (prefixed n, v) ∈ namedSent opts := by
    unfold namedSent
    rcases Option.bind_eq_some_iff.mp h with ⟨named, hnamed, hlookup⟩
    rw [hnamed]
    apply List.mem_map.mpr
    refine ⟨(n, v), ?_, rfl⟩
    exact List.mem_map.mpr ⟨⟨n, v⟩, AList.mem_lookup_iff.mp hlookup, rfl⟩
  exact FiniteMap.lookup_of_mem (nodup_namedSent hapart) hmem

/-- What is sent under another name is no named parameter. -/
theorem name_of_lookup_namedSent {k : String} {v : JsonValue}
    (h : (namedSent opts).lookup k = some v) :
    exists n, (namedValue opts n).isSome = true ∧ k = prefixed n := by
  have hmem := List.lookup_eq_some_iff.mp h
  rcases hmem with ⟨before, after, hlist, _⟩
  have hsent : (k, v) ∈ namedSent opts := by
    rw [hlist]
    exact List.mem_append_right _ List.mem_cons_self
  unfold namedSent at hsent
  cases hnamed : opts.namedParameters with
  | none =>
      rw [hnamed] at hsent
      cases hsent
  | some named =>
      rw [hnamed] at hsent
      rcases List.mem_map.mp hsent with ⟨e, he, heq⟩
      cases heq
      refine ⟨e.1, ?_, rfl⟩
      rw [namedValue, hnamed, Option.bind_some, ← FiniteMap.lookup_pairs,
        FiniteMap.lookup_of_mem (FiniteMap.nodup_keys_pairs named) he]
      rfl

/-- Raw entries come first, then named parameters, then the others. -/
theorem lookup_body (hapart : NamesApart opts) (k : String) :
    (body serviceUuid (agentOptions client newUuid statement opts)).lookup k =
      (rawValue opts k).or (((namedSent opts).lookup k).or
        ((sent client newUuid statement opts).lookup k).join) := by
  have hextras : forall (obj : FiniteMap String JsonValue) (k : String),
      ((agentOptions client newUuid statement opts).into.addExtras obj).lookup k =
        (rawValue opts k).or (((namedSent opts).lookup k).or (obj.lookup k)) := by
    intro obj k
    change (FiniteMap.insertAll (FiniteMap.insertAll obj (namedSent opts)) (rawSent opts)).lookup k
      = _
    rw [FiniteMap.lookup_insertAll _ (nodup_rawSent opts),
      FiniteMap.lookup_insertAll _ (nodup_namedSent hapart), lookup_rawSent]
  have hserialized : forall k,
      (agentOptions client newUuid statement opts).into.serialize.lookup k =
        (rawValue opts k).or (((namedSent opts).lookup k).or
          ((sent client newUuid statement opts).lookup k).join) := by
    intro k
    rw [Service.QueryOptions.serialize, hextras, parameters_agentOptions,
      lookup_parameters (nodup_sent client newUuid statement opts)]
    cases ((sent client newUuid statement opts).lookup k).join <;> rfl
  have hcontext : (agentOptions client newUuid statement opts).into.ensureContextId serviceUuid
      (agentOptions client newUuid statement opts).into.serialize =
        (agentOptions client newUuid statement opts).into.serialize := by
    unfold Service.QueryOptions.ensureContextId
    split
    · next hnone =>
        have hid : (sent client newUuid statement opts).lookup "client_context_id" =
            some (some (.string (opts.clientContextId.getD newUuid))) := rfl
        rw [hserialized, hid, Option.or_eq_none_iff, Option.or_eq_none_iff] at hnone
        cases hnone.2.2
    · rfl
  unfold body Service.QueryOptions.query
  rw [hcontext, hextras, hserialized]
  cases rawValue opts k with
  | some v => rfl
  | none =>
      cases (namedSent opts).lookup k <;> rfl

/-!
# Parameters one by one
-/

/-- A parameter says what is required of it, unless a raw entry takes its place. -/
def Serves (opts : QueryOptions strategy) (r : String × Option Requirement)
    (p : String × Option JsonValue) : Prop :=
  r.1 = p.1 ∧
  (rawValue opts r.1 = none -> forall q, r.2 = some q -> exists v, p.2 = some v ∧ q v) ∧
  (p.2.isSome = true -> r.2.isSome = true ∨ r.1 ∈ always)

theorem serves_map {alpha : Type} {k : String} {x : Option alpha} {f : alpha -> JsonValue}
    {g : alpha -> Requirement} (h : forall a, x = some a -> rawValue opts k = none -> g a (f a)) :
    Serves opts (k, x.map g) (k, x.map f) := by
  refine ⟨rfl, ?_, ?_⟩
  · intro hraw q hq
    rcases Option.map_eq_some_iff.mp hq with ⟨a, ha, rfl⟩
    refine ⟨f a, ?_, h a ha hraw⟩
    simp only [ha, Option.map_some]
  · intro hsome
    cases hx : x with
    | none =>
        rw [hx] at hsome
        cases hsome
    | some a => exact Or.inl rfl

/-- What is sent as it is. -/
theorem serves_same {alpha : Type} (k : String) (x : Option alpha) (f : alpha -> JsonValue) :
    Serves opts (k, x.map fun a v => v = f a) (k, x.map f) :=
  serves_map fun _ _ _ => rfl

theorem exists_of_forall₂_left {alpha beta : Type} {R : alpha -> beta -> Prop} {l : List alpha}
    {l' : List beta} (h : List.Forall₂ R l l') {a : alpha} (ha : a ∈ l) :
    exists b, b ∈ l' ∧ R a b := by
  induction h with
  | nil => cases ha
  | cons hr _ ih =>
      rcases List.mem_cons.mp ha with rfl | htail
      · exact ⟨_, List.mem_cons_self, hr⟩
      · rcases ih htail with ⟨b, hb, hrb⟩
        exact ⟨b, List.mem_cons_of_mem _ hb, hrb⟩

/-- What is sent in any case. -/
theorem serves_always {alpha : Type} {k : String} (x : Option alpha) (other : alpha)
    (f : alpha -> JsonValue) (h : k ∈ always) :
    Serves opts (k, x.map fun a v => v = f a) (k, some (f (x.getD other))) := by
  refine ⟨rfl, ?_, fun _ => Or.inr h⟩
  intro _ q hq
  rcases Option.map_eq_some_iff.mp hq with ⟨a, rfl, rfl⟩
  exact ⟨f a, rfl, rfl⟩

theorem profile_sent (x : Option ProfileMode) :
    (x.map ProfileMode.into).map Service.ProfileMode.toValue =
      x.map fun mode => .string (profileText mode) := by
  cases x with
  | none => rfl
  | some mode => cases mode <;> rfl

theorem replica_sent (x : Option ReplicaLevel) :
    (x.map ReplicaLevel.into).map Service.ReplicaLevel.toValue =
      x.map fun level => .string (replicaText level) := by
  cases x with
  | none => rfl
  | some level => cases level <;> rfl

theorem consistency_sent (x : Option ScanConsistency) :
    (scanOptions x).2.map Service.ScanConsistency.toValue =
      x.map fun c => .string (consistencyText c) := by
  cases x with
  | none => rfl
  | some c => cases c <;> rfl

theorem vectors_sent (x : Option ScanConsistency) :
    (scanOptions x).1.map (Service.ofMap Service.SparseScanVectors.toValue) =
      (mutationState x).map scanVectors := by
  cases x with
  | none => rfl
  | some c => cases c <;> rfl

theorem serves_duration {k : String} {x : Option Duration}
    (h : forall d, x = some d -> rawValue opts k = none -> d.asNanos < 2 ^ 64) :
    Serves opts (k, x.map InGoNotation) (k, x.map Service.ofDuration) := by
  apply serves_map
  intro d hd hraw
  exact (inGoNotation_iff d).mpr (h d hd hraw)

theorem serves_context {keyspace : Option QueryKeyspace}
    (h : forall ks, keyspace = some ks -> rawValue opts "query_context" = none ->
      Unquoted '\x60' ks.bucketName.toList ∧ Unquoted '\x60' ks.scopeName.toList) :
    Serves opts ("query_context", keyspace.map NamesKeyspace)
      ("query_context", (keyspace.map queryContext).map .string) := by
  rw [Option.map_map]
  apply serves_map
  intro ks hks hraw
  exact (namesKeyspace_iff ks).mpr (h ks hks hraw)

/-- No choice of an index is sent. -/
theorem serves_flex {x : Option Bool} (h : forall b, x = some b -> rawValue opts "use_fts" ≠ none) :
    Serves opts ("use_fts", x.map fun b v => v = .bool b) ("use_fts", none) := by
  refine ⟨rfl, ?_, fun hsome => by cases hsome⟩
  intro hraw q hq
  rcases Option.map_eq_some_iff.mp hq with ⟨b, hb, _⟩
  exact absurd hraw (h b hb)

theorem exists_of_forall₂_right {alpha beta : Type} {R : alpha -> beta -> Prop} {l : List alpha}
    {l' : List beta} (h : List.Forall₂ R l l') {b : beta} (hb : b ∈ l') :
    exists a, a ∈ l ∧ R a b := by
  induction h with
  | nil => cases hb
  | cons hr _ ih =>
      rcases List.mem_cons.mp hb with rfl | htail
      · exact ⟨_, List.mem_cons_self, hr⟩
      · rcases ih htail with ⟨a, ha, hra⟩
        exact ⟨a, List.mem_cons_of_mem _ ha, hra⟩

theorem serves_all (hwhen : CarriedWhen client opts) :
    List.Forall₂ (Serves opts) (required client statement opts)
      (sent client newUuid statement opts) := by
  rcases hwhen with ⟨hcontext, hwait, htimeout, hflex⟩
  have hid : Serves opts
      ("client_context_id", opts.clientContextId.map fun id v => v = .string id)
      ("client_context_id", some (.string (opts.clientContextId.getD newUuid))) :=
    serves_always _ _ _ (by decide)
  have hmetrics : Serves opts ("metrics", opts.metrics.map fun b v => v = .bool b)
      ("metrics", some (.bool (opts.metrics.getD false))) :=
    serves_always _ _ _ (by decide)
  have hstatement : Serves opts ("statement", some fun v => v = .string statement)
      ("statement", some (.string statement)) :=
    serves_same _ (some statement) .string
  have hvectors : Serves opts
      ("scan_vectors", (mutationState opts.scanConsistency).map IsScanVectors)
      ("scan_vectors", (mutationState opts.scanConsistency).map scanVectors) :=
    serves_map fun state _ _ => isScanVectors state
  unfold required sent
  rw [profile_sent, replica_sent, consistency_sent, vectors_sent]
  repeat' apply List.Forall₂.cons
  all_goals first
    | exact hid
    | exact hmetrics
    | exact hstatement
    | exact hvectors
    | exact serves_context hcontext
    | exact serves_duration hwait
    | exact serves_duration htimeout
    | exact serves_flex hflex
    | exact serves_same _ _ _
    | exact List.Forall₂.nil

/-!
# All of them
-/

theorem lookup_namedSent_none {k : String} (h : k.toList.head? ≠ some '$') :
    (namedSent opts).lookup k = none := by
  cases hlookup : (namedSent opts).lookup k with
  | none => rfl
  | some v =>
      rcases name_of_lookup_namedSent hlookup with ⟨n, _, rfl⟩
      exact absurd (head_prefixed n) h

theorem head_sent {k : String} (h : k ∈ (sent client newUuid statement opts).map Prod.fst) :
    k.toList.head? ≠ some '$' := by
  have hall : forall k, k ∈ (sent client newUuid statement opts).map Prod.fst ->
      k.toList.head? ≠ some '$' := by
    simp only [sent, List.map_cons, List.map_nil]
    decide
  exact hall k h

/-- A parameter is in the body unless a raw entry takes its place. -/
theorem lookup_body_sent (hapart : NamesApart opts) {p : String × Option JsonValue}
    (hp : p ∈ sent client newUuid statement opts) (hraw : rawValue opts p.1 = none) :
    (body serviceUuid (agentOptions client newUuid statement opts)).lookup p.1 = p.2 := by
  have hname : p.1 ∈ (sent client newUuid statement opts).map Prod.fst :=
    List.mem_map_of_mem hp
  rw [lookup_body client newUuid serviceUuid statement hapart, hraw,
    lookup_namedSent_none (head_sent client newUuid statement hname),
    FiniteMap.lookup_of_mem (nodup_sent client newUuid statement opts) hp]
  rfl

theorem carries_of_when (hapart : NamesApart opts) (hwhen : CarriedWhen client opts) :
    Carries client statement opts
      (body serviceUuid (agentOptions client newUuid statement opts)) where
  raw := by
    intro k v hraw
    rw [lookup_body client newUuid serviceUuid statement hapart, hraw]
    rfl
  options := by
    intro k q hq hraw
    rcases exists_of_forall₂_left (serves_all client newUuid statement hwhen) hq
      with ⟨p, hp, hname, hserves, _⟩
    rcases hserves hraw q rfl with ⟨v, hv, hqv⟩
    refine ⟨v, ?_, hqv⟩
    cases hname
    rw [lookup_body_sent client newUuid serviceUuid statement hapart hp hraw]
    exact hv
  named := by
    intro n v hnamed hraw
    rw [lookup_body client newUuid serviceUuid statement hapart, hraw,
      lookup_namedSent hapart hnamed]
    rfl
  only := by
    intro k v hv
    rw [lookup_body client newUuid serviceUuid statement hapart] at hv
    cases hraw : rawValue opts k with
    | some w => exact Or.inl rfl
    | none =>
        rw [hraw, Option.none_or] at hv
        cases hnamed : (namedSent opts).lookup k with
        | some w => exact Or.inr (Or.inr (Or.inl (name_of_lookup_namedSent hnamed)))
        | none =>
            rw [hnamed, Option.none_or] at hv
            cases hsent : (sent client newUuid statement opts).lookup k with
            | none =>
                rw [hsent] at hv
                cases hv
            | some x =>
                rw [hsent] at hv
                have hx : x = some v := hv
                rcases List.lookup_eq_some_iff.mp hsent with ⟨before, after, hlist, _⟩
                have hmem : (k, x) ∈ sent client newUuid statement opts := by
                  rw [hlist]
                  exact List.mem_append_right _ List.mem_cons_self
                rcases exists_of_forall₂_right (serves_all client newUuid statement hwhen) hmem
                  with ⟨r, hr, hname, _, hsome⟩
                cases hname
                have hset := hsome (by rw [hx]; rfl)
                rcases hset with hset | halways
                · rcases Option.isSome_iff_exists.mp hset with ⟨q, hq⟩
                  exact Or.inr (Or.inl ⟨q, hq ▸ hr⟩)
                · exact Or.inr (Or.inr (Or.inr halways))

theorem when_of_carries (hapart : NamesApart opts)
    (h : Carries client statement opts
      (body serviceUuid (agentOptions client newUuid statement opts))) :
    CarriedWhen client opts := by
  have hbody : forall {k : String} {x : Option JsonValue} {q : Requirement},
      (k, some q) ∈ required client statement opts ->
        (k, x) ∈ sent client newUuid statement opts -> rawValue opts k = none ->
          exists v, x = some v ∧ q v := by
    intro k x q hq hx hraw
    rcases h.options k q hq hraw with ⟨v, hv, hqv⟩
    have hsent := lookup_body_sent client newUuid serviceUuid statement hapart hx hraw
    exact ⟨v, hsent.symm.trans hv, hqv⟩
  have hduration : forall {k : String} {x : Option Duration} {d : Duration}, x = some d ->
      (k, x.map InGoNotation) ∈ required client statement opts ->
        (k, x.map Service.ofDuration) ∈ sent client newUuid statement opts ->
          rawValue opts k = none -> d.asNanos < 2 ^ 64 := by
    rintro k x d rfl hq hx hraw
    rcases hbody hq hx hraw with ⟨v, hv, hgo⟩
    cases hv
    exact (inGoNotation_iff d).mp hgo
  refine ⟨?_, ?_, ?_, ?_⟩
  · intro ks hks hraw
    have hq : ("query_context", client.keyspace.map NamesKeyspace) ∈
        required client statement opts := by
      simp [required]
    have hx : ("query_context", (client.keyspace.map queryContext).map .string) ∈
        sent client newUuid statement opts := by
      simp [sent]
    rw [hks] at hq hx
    rcases hbody hq hx hraw with ⟨v, hv, hnames⟩
    cases hv
    exact (namesKeyspace_iff ks).mp hnames
  · intro d hd hraw
    exact hduration hd (by simp [required]) (by simp [sent]) hraw
  · intro d hd hraw
    exact hduration hd (by simp [required]) (by simp [sent]) hraw
  · intro b hb hraw
    have hq : ("use_fts", opts.flexIndex.map fun b v => v = JsonValue.bool b) ∈
        required client statement opts := by
      simp [required]
    have hx : ("use_fts", none) ∈ sent client newUuid statement opts := by
      simp [sent]
    rw [hb] at hq
    rcases hbody hq hx hraw with ⟨v, hv, _⟩
    cases hv

end Body

section Reach

variable {strategy : Type} {client : CouchbaseQueryClient strategy} {newUuid serviceUuid : String}
  {statement : String} {opts : Option (QueryOptions strategy)}

theorem query_cases {call : AgentCall strategy}
    (h : query client newUuid statement opts = .ok call) :
    call = .query (agentOptions client newUuid statement (opts.getD {})) ∨
      call = .preparedQuery (agentOptions client newUuid statement (opts.getD {})) := by
  unfold query at h
  split at h
  · cases h
    split
    · exact Or.inl rfl
    · exact Or.inr rfl
  · cases h

/-- The body of an ad hoc query carries the options of its caller exactly if there are no quotes in
the names of its keyspace, its durations have 64 bits and no index is chosen by it, as far as no raw
entry takes their place. -/
theorem query_options_reach_iff (hapart : NamesApart (opts.getD {}))
    {agentOpts : AgentOptions strategy}
    (hquery : query client newUuid statement opts = .ok (.query agentOpts)) :
    Carries client statement (opts.getD {}) (body serviceUuid agentOpts) <->
      CarriedWhen client (opts.getD {}) := by
  rcases query_cases hquery with hcall | hcall
  · cases hcall
    constructor
    · exact when_of_carries client newUuid serviceUuid statement hapart
    · exact carries_of_when client newUuid serviceUuid statement hapart
  · cases hcall

/-- A query in a scope that is given one second. -/
theorem query_options_reach_timeout :
    exists agentOpts : AgentOptions Unit,
      query ⟨true, some ⟨"b", "s"⟩, ()⟩ "" "SELECT 1"
        (some { serverTimeout := some (.fromSecs 1) }) = .ok (.query agentOpts) ∧
      Carries ⟨true, some ⟨"b", "s"⟩, ()⟩ "SELECT 1" { serverTimeout := some (.fromSecs 1) }
        (body "" agentOpts) := by
  refine ⟨_, rfl, (@query_options_reach_iff Unit ⟨true, some ⟨"b", "s"⟩, ()⟩ "" "" "SELECT 1"
    (some { serverTimeout := some (.fromSecs 1) }) ?_ _ rfl).mpr ⟨?_, ?_, ?_, ?_⟩⟩
  · intro n hn
    cases hn
  · intro ks hks _
    cases hks
    decide
  · intro d hd
    cases hd
  · intro d hd _
    cases hd
    decide
  · intro b hb
    cases hb

/-- The choice of an index is dropped. -/
theorem query_flex_index_dropped :
    exists agentOpts : AgentOptions Unit,
      query ⟨true, none, ()⟩ "" "SELECT 1" (some { flexIndex := some true }) =
        .ok (.query agentOpts) ∧
      NamesApart { flexIndex := some true : QueryOptions Unit } ∧
      ¬ Carries ⟨true, none, ()⟩ "SELECT 1" { flexIndex := some true } (body "" agentOpts) := by
  refine ⟨_, rfl, ?_, ?_⟩
  · intro n hn
    cases hn
  · intro hcarries
    have hapart : NamesApart { flexIndex := some true : QueryOptions Unit } := by
      intro n hn
      cases hn
    have hwhen := when_of_carries _ _ _ _ hapart hcarries
    exact hwhen.2.2.2 true rfl rfl

end Reach

end Query
end CouchbaseSdk
