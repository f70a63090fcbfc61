import CouchbaseSdk.Kv.CoreKvClient

/-!
# Which options of a write reach the wire

Every operation that writes a document, with the options its caller gave, against the request that
a connection is handed for it.
-/

namespace CouchbaseSdk
namespace Kv

open Foundation
open Crud (Compress SimpleCrud)
open Memdx (SubdocDocFlag WriteRequest)

inductive Operation (strategy : Type) where
  | upsert (value : Buffer) (flags : UInt32) (options : UpsertOptions strategy)
  | insert (value : Buffer) (flags : UInt32) (options : InsertOptions strategy)
  | replace (value : Buffer) (flags : UInt32) (options : ReplaceOptions strategy)
  | remove (options : RemoveOptions strategy)
  | append (value : Buffer) (options : AppendOptions strategy)
  | prepend (value : Buffer) (options : PrependOptions strategy)
  | increment (options : IncrementOptions strategy)
  | decrement (options : DecrementOptions strategy)
  | mutateIn (specs : List MutateInSpec) (options : MutateInOptions strategy)

namespace Operation

variable {strategy : Type}

def durabilityLevel : Operation strategy -> Option DurabilityLevel
  | upsert _ _ options => options.durabilityLevel
  | insert _ _ options => options.durabilityLevel
  | replace _ _ options => options.durabilityLevel
  | remove options => options.durabilityLevel
  | append _ options => options.durabilityLevel
  | prepend _ options => options.durabilityLevel
  | increment options => options.durabilityLevel
  | decrement options => options.durabilityLevel
  | mutateIn _ options => options.durabilityLevel

def cas : Operation strategy -> Option UInt64
  | replace _ _ options => options.cas
  | remove options => options.cas
  | append _ options => options.cas
  | prepend _ options => options.cas
  | mutateIn _ options => options.cas
  | _ => none

def expiry : Operation strategy -> Option Duration
  | upsert _ _ options => options.expiry
  | insert _ _ options => options.expiry
  | replace _ _ options => options.expiry
  | increment options => options.expiry
  | decrement options => options.expiry
  | mutateIn _ options => options.expiry
  | _ => none

def preserveExpiry : Operation strategy -> Option Bool
  | upsert _ _ options => options.preserveExpiry
  | replace _ _ options => options.preserveExpiry
  | mutateIn _ options => options.preserveExpiry
  | _ => none

def retryStrategy : Operation strategy -> Option strategy
  | upsert _ _ options => options.retryStrategy
  | insert _ _ options => options.retryStrategy
  | replace _ _ options => options.retryStrategy
  | remove options => options.retryStrategy
  | append _ options => options.retryStrategy
  | prepend _ options => options.retryStrategy
  | increment options => options.retryStrategy
  | decrement options => options.retryStrategy
  | mutateIn _ options => options.retryStrategy

/-- The value of the whole document, or of what is added to it. -/
def value : Operation strategy -> Option Buffer
  | upsert value _ _ => some value
  | insert value _ _ => some value
  | replace value _ _ => some value
  | append value _ => some value
  | prepend value _ => some value
  | _ => none

def specs : Operation strategy -> List MutateInSpec
  | mutateIn specs _ => specs
  | _ => []

def IsMutateIn (op : Operation strategy) : Prop :=
  exists specs options, op = mutateIn specs options

end Operation

section Hand

variable {strategy error : Type} (client : CoreKvClient strategy) (now : UInt64)
  (compress : Compress error) (libraryRetryStrategy : strategy) (id : String)

def hand : Operation strategy -> Except Error (SimpleCrud strategy error)
  | .upsert value flags options =>
      upsert client now compress libraryRetryStrategy id value flags options
  | .insert value flags options =>
      insert client now compress libraryRetryStrategy id value flags options
  | .replace value flags options =>
      replace client now compress libraryRetryStrategy id value flags options
  | .remove options => remove client libraryRetryStrategy id options
  | .append value options => append client compress libraryRetryStrategy id value options
  | .prepend value options => prepend client compress libraryRetryStrategy id value options
  | .increment options => increment client now libraryRetryStrategy id options
  | .decrement options => decrement client now libraryRetryStrategy id options
  | .mutateIn specs options => mutateIn client now libraryRetryStrategy id specs options

/-- The request of some try, and the strategy by which it is tried again. -/
def Sends (op : Operation strategy) (retry : strategy) (request : WriteRequest) : Prop :=
  exists crud, hand client now compress libraryRetryStrategy id op = .ok crud ∧
    crud.retryStrategy = retry ∧
    exists collectionId vbucketId, crud.operation collectionId vbucketId = .ok request

end Hand

/-!
# What a request has to carry
-/

/-- A level without a name has to be sent as some level. -/
def LevelReaches (asked : Option DurabilityLevel) (sent : Option Memdx.DurabilityLevel) : Prop :=
  match asked with
  | none => sent = none
  | some .none => sent = none
  | some .majority => sent = some .majority
  | some .majorityAndPersistActive => sent = some .majorityAndPersistActive
  | some .persistToMajority => sent = some .persistToMajority
  | some (.other _) => sent ≠ none

/-- When a document with this field goes: never for zero, from now for up to thirty days, and
later at the time itself. -/
def expiresAt (now : UInt64) (field : UInt32) : Option Nat :=
  if field = 0 then none
  else if field.toNat <= SECS_IN_DAY * 30 then some (now.toNat + field.toNat)
  else some field.toNat

/-- The whole seconds of the duration from now, and at least one. -/
def ExpiryReaches (now : UInt64) (asked : Option Duration) (sent : Option UInt32) : Prop :=
  match asked with
  | none => sent = none
  | some expiry => exists field, sent = some field ∧
      expiresAt now field = some (now.toNat + max 1 expiry.asSecs)

def CounterReaches {strategy : Type} (options : IncrementOptions strategy)
    (request : Memdx.IncrementRequest) : Prop :=
  request.delta = options.delta.getD 1 ∧ request.initial = options.initial

/-- A flag is set for each option that asks for one, and for no other. -/
def FlagsReach {strategy : Type} (options : MutateInOptions strategy) (flags : SubdocDocFlag) :
    Prop :=
  (flags &&& SubdocDocFlag.AccessDeleted ≠ 0 <-> options.accessDeleted = some true) ∧
  (flags &&& SubdocDocFlag.MkDoc ≠ 0 <-> options.storeSemantics = some .upsert) ∧
  (flags &&& SubdocDocFlag.AddDoc ≠ 0 <-> options.storeSemantics = some .insert)

/-- The request is one of the operation, and has the options that are this operation's own. -/
def OwnOptionsReach {strategy : Type} : Operation strategy -> WriteRequest -> Prop
  | .upsert _ flags _, .set r => r.flags = flags
  | .insert _ flags _, .add r => r.flags = flags
  | .replace _ flags _, .replace r => r.flags = flags
  | .remove _, .delete _ => True
  | .append _ _, .append _ => True
  | .prepend _ _, .prepend _ => True
  | .increment options, .increment r => CounterReaches options r
  | .decrement options, .decrement r => CounterReaches options r
  | .mutateIn _ options, .mutateIn r => FlagsReach options r.flags
  | _, _ => False

structure Carries {strategy : Type} (client : CoreKvClient strategy) (now : UInt64)
    (op : Operation strategy) (retry : strategy) (request : WriteRequest) : Prop where
  level : LevelReaches op.durabilityLevel request.durabilityLevel
  cas : request.cas = op.cas
  expiry : ExpiryReaches now op.expiry request.expiry
  preserveExpiry : request.preserveExpiry = op.preserveExpiry
  retryStrategy : retry = op.retryStrategy.getD client.defaultRetryStrategy
  own : OwnOptionsReach op request

/-!
# What is not sent
-/

/-- From thirty days on the time itself is sent, in thirty-two bits. -/
def TooLarge (now : UInt64) (asked : Option Duration) : Prop :=
  exists expiry, asked = some expiry ∧ SECS_IN_DAY * 30 <= expiry.asSecs ∧
    UInt32.size <= now.toNat + expiry.asSecs

/-- The root of a document is not set by a member. -/
def RootMember (specs : List MutateInSpec) : Prop :=
  exists spec, spec ∈ specs ∧ (spec.op = .insert ∨ spec.op = .upsert) ∧ spec.path = ""

section Refusals

variable {strategy error : Type} (client : CoreKvClient strategy) (now : UInt64)
  (compress : Compress error)

/-- Nothing is handed on. -/
def Unready (op : Operation strategy) : Prop :=
  client.agentAlive = false ∨ TooLarge now op.expiry ∨ RootMember op.specs

/-- The operation ends in an error before a connection is asked for anything. -/
def Refused (op : Operation strategy) : Prop :=
  Unready client now op ∨ exists value e, op.value = some value ∧ compress 0 value = .error e

/-- Every request carries the options, and there is one unless the operation is refused. -/
def OptionsReach (op : Operation strategy) : Prop :=
  forall libraryRetryStrategy id,
    (forall retry request, Sends client now compress libraryRetryStrategy id op retry request ->
      Carries client now op retry request) ∧
    ((exists retry request, Sends client now compress libraryRetryStrategy id op retry request) <->
      ¬ Refused client now compress op)

end Refusals

/-- No level is asked for, or one that has a name and by an operation on a whole document. -/
def LevelKept {strategy : Type} (op : Operation strategy) : Prop :=
  op.durabilityLevel = none ∨ op.durabilityLevel = some .none ∨
    ¬ op.IsMutateIn ∧ forall name, op.durabilityLevel ≠ some (.other name)

/-!
# Expiry
-/

theorem expiryToSeconds_small (now : UInt64) {expiry : Duration}
    (hsmall : expiry.asSecs < SECS_IN_DAY * 30) :
    expiryToSeconds now expiry = .ok (UInt32.ofNat (max 1 expiry.asSecs)) := by
  unfold SECS_IN_DAY at hsmall
  unfold expiryToSeconds
  by_cases hmillis : expiry.asMillis < 1000
  · have hzero : expiry.asSecs = 0 := by
      unfold Duration.asMillis at hmillis
      unfold Duration.asSecs
      omega
    rw [if_pos hmillis, hzero]
    rfl
  · have hpos : 1 <= expiry.asSecs := by
      unfold Duration.asMillis at hmillis
      unfold Duration.asSecs
      omega
    have hfits : expiry.asSecs < UInt32.size := by
      unfold UInt32.size
      omega
    rw [if_neg hmillis, max_eq_right hpos]
    simp only [SECS_IN_DAY, if_pos hsmall, if_pos hfits]

theorem expiresAt_small (now : UInt64) {expiry : Duration}
    (hsmall : expiry.asSecs < SECS_IN_DAY * 30) :
    expiresAt now (UInt32.ofNat (max 1 expiry.asSecs)) =
      some (now.toNat + max 1 expiry.asSecs) := by
  unfold SECS_IN_DAY at hsmall
  have hval : (UInt32.ofNat (max 1 expiry.asSecs)).toNat = max 1 expiry.asSecs := by
    rw [UInt32.toNat_ofNat_of_lt']
    unfold UInt32.size
    omega
  have hne : UInt32.ofNat (max 1 expiry.asSecs) ≠ 0 := by
    intro hzero
    rw [hzero] at hval
    simp only [UInt32.toNat_zero] at hval
    omega
  unfold expiresAt
  rw [if_neg hne, hval, if_pos]
  unfold SECS_IN_DAY
  omega

theorem expiryToSeconds_large (now : UInt64) {expiry : Duration}
    (hlarge : SECS_IN_DAY * 30 <= expiry.asSecs) (hfits : now.toNat + expiry.asSecs < UInt32.size) :
    expiryToSeconds now expiry = .ok (UInt32.ofNat (now.toNat + expiry.asSecs)) := by
  have hmillis : ¬ expiry.asMillis < 1000 := by
    unfold SECS_IN_DAY Duration.asSecs at hlarge
    unfold Duration.asMillis
    omega
  have hmin : min (now.toNat + expiry.asSecs) (UInt64.size - 1) = now.toNat + expiry.asSecs := by
    apply min_eq_left
    unfold UInt32.size at hfits
    unfold UInt64.size
    omega
  unfold expiryToSeconds
  rw [if_neg hmillis]
  simp only [if_neg (not_lt.mpr hlarge), hmin, if_pos hfits]

theorem expiresAt_large (now : UInt64) {expiry : Duration}
    (hlarge : SECS_IN_DAY * 30 <= expiry.asSecs) (hfits : now.toNat + expiry.asSecs < UInt32.size) :
    expiresAt now (UInt32.ofNat (now.toNat + expiry.asSecs)) =
      some (now.toNat + max 1 expiry.asSecs) := by
  have hval : (UInt32.ofNat (now.toNat + expiry.asSecs)).toNat = now.toNat + expiry.asSecs :=
    UInt32.toNat_ofNat_of_lt' hfits
  unfold SECS_IN_DAY at hlarge
  have hmax : max 1 expiry.asSecs = expiry.asSecs := by
    apply max_eq_right
    omega
  have hne : UInt32.ofNat (now.toNat + expiry.asSecs) ≠ 0 := by
    intro hzero
    rw [hzero] at hval
    simp only [UInt32.toNat_zero] at hval
    omega
  unfold expiresAt
  rw [if_neg hne, hval, hmax]
  split
  · next hle =>
      -- the time is thirty days itself only at time zero
      unfold SECS_IN_DAY at hle
      congr 1
      omega
  · rfl

theorem expiryToSeconds_tooLarge (now : UInt64) {expiry : Duration}
    (hlarge : SECS_IN_DAY * 30 <= expiry.asSecs)
    (hfits : UInt32.size <= now.toNat + expiry.asSecs) :
    exists e, expiryToSeconds now expiry = .error e := by
  have hmillis : ¬ expiry.asMillis < 1000 := by
    unfold SECS_IN_DAY Duration.asSecs at hlarge
    unfold Duration.asMillis
    omega
  have hmin : ¬ min (now.toNat + expiry.asSecs) (UInt64.size - 1) < UInt32.size := by
    unfold UInt32.size at hfits
    unfold UInt32.size UInt64.size
    omega
  unfold expiryToSeconds
  rw [if_neg hmillis]
  simp only [if_neg (not_lt.mpr hlarge), if_neg hmin]
  exact ⟨_, rfl⟩

theorem optionalExpiry_reaches (now : UInt64) (asked : Option Duration) :
    (TooLarge now asked ∧ exists e, optionalExpiry now asked = .error e) ∨
    (¬ TooLarge now asked ∧ exists sent, optionalExpiry now asked = .ok sent ∧
      ExpiryReaches now asked sent) := by
  cases asked with
  | none =>
      apply Or.inr
      constructor
      · intro hlarge
        rcases hlarge with ⟨expiry, hsome, _⟩
        cases hsome
      · exact ⟨none, rfl, rfl⟩
  | some expiry =>
      by_cases hsmall : expiry.asSecs < SECS_IN_DAY * 30
      · apply Or.inr
        constructor
        · intro hlarge
          rcases hlarge with ⟨expiry', hsome, hsecs, _⟩
          cases hsome
          exact absurd hsmall (not_lt.mpr hsecs)
        · exists some (UInt32.ofNat (max 1 expiry.asSecs))
          constructor
          · simp only [optionalExpiry, expiryToSeconds_small now hsmall]
            rfl
          · exact ⟨_, rfl, expiresAt_small now hsmall⟩
      · have hlarge := not_lt.mp hsmall
        by_cases hfits : now.toNat + expiry.asSecs < UInt32.size
        · apply Or.inr
          constructor
          · intro htoo
            rcases htoo with ⟨expiry', hsome, _, hsize⟩
            cases hsome
            exact absurd hfits (not_lt.mpr hsize)
          · exists some (UInt32.ofNat (now.toNat + expiry.asSecs))
            constructor
            · simp only [optionalExpiry, expiryToSeconds_large now hlarge hfits]
              rfl
            · exact ⟨_, rfl, expiresAt_large now hlarge hfits⟩
        · apply Or.inl
          have hsize := not_lt.mp hfits
          constructor
          · exact ⟨expiry, rfl, hlarge, hsize⟩
          · rcases expiryToSeconds_tooLarge now hlarge hsize with ⟨e, he⟩
            exists e
            simp only [optionalExpiry, he]
            rfl

/-!
# Specs
-/

theorem toOp_fails_iff (spec : MutateInSpec) :
    (exists e, spec.toOp = .error e) <->
      (spec.op = .insert ∨ spec.op = .upsert) ∧ spec.path = "" := by
  unfold MutateInSpec.toOp MutateInSpec.toOpType
  cases hop : spec.op <;> by_cases hpath : spec.path = "" <;>
    simp [hpath, Except.map]

theorem toOps_fails_iff (specs : List MutateInSpec) :
    (exists e, MutateInSpec.toOps specs = .error e) <-> RootMember specs := by
  induction specs with
  | nil => simp [MutateInSpec.toOps, RootMember]
  | cons spec specs ih =>
      have hsplit : RootMember (spec :: specs) <->
          ((spec.op = .insert ∨ spec.op = .upsert) ∧ spec.path = "") ∨ RootMember specs := by
        simp only [RootMember, List.mem_cons, or_and_right, exists_or, exists_eq_left]
      rw [hsplit, ← toOp_fails_iff, ← ih]
      cases hop : spec.toOp with
      | error e => simp [MutateInSpec.toOps, hop]
      | ok op =>
          cases hops : MutateInSpec.toOps specs with
          | error e => simp [MutateInSpec.toOps, hop, hops, Except.map]
          | ok ops => simp [MutateInSpec.toOps, hop, hops, Except.map]

theorem mem_reorder (spec : MutateInSpec) (specs : List MutateInSpec) :
    spec ∈ MutateInSpec.reorder specs <-> spec ∈ specs := by
  cases h : spec.isXattr <;> simp [MutateInSpec.reorder, h]

theorem rootMember_reorder (specs : List MutateInSpec) :
    RootMember (MutateInSpec.reorder specs) <-> RootMember specs := by
  simp only [RootMember, mem_reorder]

theorem flagsReach_mutateInFlags {strategy : Type} (options : MutateInOptions strategy) :
    FlagsReach options (mutateInFlags options.accessDeleted options.storeSemantics) := by
  unfold FlagsReach
  rcases options.accessDeleted with _ | accessDeleted
  · rcases options.storeSemantics with _ | semantics
    · decide
    · cases semantics <;> decide
  · rcases options.storeSemantics with _ | semantics
    · cases accessDeleted <;> decide
    · cases accessDeleted <;> cases semantics <;> decide

/-!
# What the client hands on
-/

/-- What each operation copies, once its expiry has been made a field. -/
structure Copies {strategy : Type} (client : CoreKvClient strategy) (op : Operation strategy)
    (field : Option UInt32) (retry : strategy) (request : WriteRequest) : Prop where
  levelOther : ¬ op.IsMutateIn ->
    request.durabilityLevel = parseOptionalDurabilityLevelToMemdx op.durabilityLevel
  levelMutateIn : op.IsMutateIn -> request.durabilityLevel = none
  cas : request.cas = op.cas
  expiry : request.expiry = field
  preserveExpiry : request.preserveExpiry = op.preserveExpiry
  retryStrategy : retry = op.retryStrategy.getD client.defaultRetryStrategy
  own : OwnOptionsReach op request

section Hands

variable {strategy error : Type} (client : CoreKvClient strategy) (now : UInt64)
  (compress : Compress error) (libraryRetryStrategy : strategy) (id : String)
  (op : Operation strategy)

theorem hand_of_gone (hgone : client.agentAlive = false) :
    hand client now compress libraryRetryStrategy id op = .error .disconnected := by
  have hfails : upgradeAgent client = .error .disconnected := by
    unfold upgradeAgent
    rw [hgone]
    rfl
  cases op <;>
    simp only [hand, upsert, insert, replace, remove, append, prepend, increment, decrement,
      mutateIn, hfails] <;> rfl

theorem upgradeAgent_of_alive (halive : client.agentAlive = true) :
    upgradeAgent client = .ok () := by
  unfold upgradeAgent
  rw [if_pos halive]

theorem hand_of_specs_fail
    (hfails : exists e, MutateInSpec.toOps (MutateInSpec.reorder op.specs) = .error e) :
    exists e, hand client now compress libraryRetryStrategy id op = .error e := by
  rcases hfails with ⟨e, he⟩
  cases halive : client.agentAlive with
  | false => exact ⟨_, hand_of_gone client now compress libraryRetryStrategy id op halive⟩
  | true =>
      cases op with
      | mutateIn specs options =>
          simp only [Operation.specs] at he
          exists e
          simp only [hand, mutateIn, upgradeAgent_of_alive client halive, he]
          rfl
      | _ => cases he

theorem hand_of_expiry_fails (hfails : exists e, optionalExpiry now op.expiry = .error e) :
    exists e, hand client now compress libraryRetryStrategy id op = .error e := by
  rcases hfails with ⟨e, he⟩
  cases halive : client.agentAlive with
  | false => exact ⟨_, hand_of_gone client now compress libraryRetryStrategy id op halive⟩
  | true =>
      have hagent := upgradeAgent_of_alive client halive
      cases op with
      | remove | append | prepend => cases he
      | mutateIn specs options =>
          simp only [Operation.expiry] at he
          simp only [hand, mutateIn, hagent, he]
          cases MutateInSpec.toOps (MutateInSpec.reorder specs) with
          | error e' => exact ⟨e', rfl⟩
          | ok ops => exact ⟨e, rfl⟩
      | _ =>
          simp only [Operation.expiry] at he
          exists e
          simp only [hand, upsert, insert, replace, increment, decrement, hagent, he]
          rfl

theorem compressed_iff {alpha : Type} (value : Buffer) (made : Buffer × UInt8 -> alpha) :
    (exists request, (compress 0 value).map made = .ok request) <->
      ¬ exists value' e, some value = some value' ∧ compress 0 value' = .error e := by
  cases hcompress : compress 0 value with
  | error e =>
      constructor
      · intro hsent
        rcases hsent with ⟨request, hrequest⟩
        cases hrequest
      · intro hnone
        exact absurd ⟨value, e, rfl, hcompress⟩ hnone
  | ok p =>
      constructor
      · intro _ hfails
        rcases hfails with ⟨value', e, heq, he⟩
        cases heq
        rw [hcompress] at he
        cases he
      · intro _
        exact ⟨made p, rfl⟩

theorem eq_of_map_ok {alpha beta : Type} {result : Except error alpha} {made : alpha -> beta}
    {request : beta} (h : result.map made = .ok request) : exists p, made p = request := by
  cases result with
  | error e => cases h
  | ok p =>
      cases h
      exact ⟨p, rfl⟩

/-- A request for each collection and vbucket, where the value can be compressed. -/
theorem hand_copies {field : Option UInt32} {ops : List Memdx.MutateInOp}
    (halive : client.agentAlive = true)
    (hops : MutateInSpec.toOps (MutateInSpec.reorder op.specs) = .ok ops)
    (hfield : optionalExpiry now op.expiry = .ok field) :
    exists crud, hand client now compress libraryRetryStrategy id op = .ok crud ∧
      (forall collectionId vbucketId request, crud.operation collectionId vbucketId = .ok request ->
        Copies client op field crud.retryStrategy request) ∧
      (forall collectionId vbucketId,
        (exists request, crud.operation collectionId vbucketId = .ok request) <->
          ¬ exists value e, op.value = some value ∧ compress 0 value = .error e) := by
  have hagent := upgradeAgent_of_alive client halive
  cases op with
  | mutateIn specs options =>
      simp only [Operation.specs] at hops
      simp only [Operation.expiry] at hfield
      simp only [hand, mutateIn, hagent, hops, hfield]
      refine ⟨_, rfl, ?_, ?_⟩
      · intro collectionId vbucketId request hsent
        cases hsent
        exact
          { levelOther := fun hother => absurd ⟨specs, options, rfl⟩ hother
            levelMutateIn := fun _ => rfl
            cas := rfl
            expiry := rfl
            preserveExpiry := rfl
            retryStrategy := rfl
            own := flagsReach_mutateInFlags options }
      · intro collectionId vbucketId
        simp [Crud.mutateIn, Operation.value]
  | remove | increment | decrement =>
      simp only [Operation.expiry] at hfield
      simp only [hand, remove, increment, decrement, hagent, hfield]
      refine ⟨_, rfl, ?_, ?_⟩
      · intro collectionId vbucketId request hsent
        cases hsent
        exact
          { levelOther := fun _ => rfl
            levelMutateIn := by
              intro hmutate
              rcases hmutate with ⟨_, _, heq⟩
              cases heq
            cas := rfl
            expiry := by first | rfl | exact Except.ok.inj hfield
            preserveExpiry := rfl
            retryStrategy := rfl
            own := by trivial }
      · intro collectionId vbucketId
        simp [Operation.value, Crud.delete, Crud.increment, Crud.decrement]
  | _ =>
      simp only [Operation.expiry] at hfield
      simp only [hand, upsert, insert, replace, append, prepend, hagent, hfield]
      refine ⟨_, rfl, ?_, ?_⟩
      · intro collectionId vbucketId request hsent
        rcases eq_of_map_ok hsent with ⟨p, rfl⟩
        exact
          { levelOther := fun _ => rfl
            levelMutateIn := by
              intro hmutate
              rcases hmutate with ⟨_, _, heq⟩
              cases heq
            cas := rfl
            expiry := by first | rfl | exact Except.ok.inj hfield
            preserveExpiry := rfl
            retryStrategy := rfl
            own := by simp [OwnOptionsReach] }
      · intro collectionId vbucketId
        exact compressed_iff compress _ _

/-!
# Requests and refusals
-/

theorem hand_cases :
    (Unready client now op ∧
      exists e, hand client now compress libraryRetryStrategy id op = .error e) ∨
    (¬ Unready client now op ∧ exists field crud, ExpiryReaches now op.expiry field ∧
      hand client now compress libraryRetryStrategy id op = .ok crud ∧
      (forall collectionId vbucketId request, crud.operation collectionId vbucketId = .ok request ->
        Copies client op field crud.retryStrategy request) ∧
      (forall collectionId vbucketId,
        (exists request, crud.operation collectionId vbucketId = .ok request) <->
          ¬ exists value e, op.value = some value ∧ compress 0 value = .error e)) := by
  cases halive : client.agentAlive with
  | false =>
      exact Or.inl ⟨Or.inl halive, _,
        hand_of_gone client now compress libraryRetryStrategy id op halive⟩
  | true =>
      rcases optionalExpiry_reaches now op.expiry
        with ⟨htoo, hfails⟩ | ⟨hfits, field, hfield, hreaches⟩
      · exact Or.inl ⟨Or.inr (Or.inl htoo),
          hand_of_expiry_fails client now compress libraryRetryStrategy id op hfails⟩
      · have hroot : RootMember op.specs <->
            exists e, MutateInSpec.toOps (MutateInSpec.reorder op.specs) = .error e := by
          rw [toOps_fails_iff, rootMember_reorder]
        cases hops : MutateInSpec.toOps (MutateInSpec.reorder op.specs) with
        | error e =>
            exact Or.inl ⟨Or.inr (Or.inr (hroot.mpr ⟨e, hops⟩)),
              hand_of_specs_fail client now compress libraryRetryStrategy id op ⟨e, hops⟩⟩
        | ok ops =>
            apply Or.inr
            constructor
            · intro hunready
              rcases hunready with hgone | htoo | hmember
              · rw [halive] at hgone
                cases hgone
              · exact hfits htoo
              · rcases hroot.mp hmember with ⟨e, he⟩
                rw [hops] at he
                cases he
            · rcases hand_copies client now compress libraryRetryStrategy id op halive hops hfield
                with ⟨crud, hhand, hcopies, hrequests⟩
              exact ⟨field, crud, hreaches, hhand, hcopies, hrequests⟩

theorem sends_copies {retry : strategy} {request : WriteRequest}
    (hsends : Sends client now compress libraryRetryStrategy id op retry request) :
    exists field, ExpiryReaches now op.expiry field ∧ Copies client op field retry request := by
  rcases hsends with ⟨crud, hhand, rfl, collectionId, vbucketId, hrequest⟩
  rcases hand_cases client now compress libraryRetryStrategy id op
    with ⟨_, e, he⟩ | ⟨_, field, crud', hreaches, hhand', hcopies, _⟩
  · rw [hhand] at he
    cases he
  · rw [hhand] at hhand'
    cases hhand'
    exact ⟨field, hreaches, hcopies collectionId vbucketId request hrequest⟩

theorem sends_iff_not_refused :
    (exists retry request, Sends client now compress libraryRetryStrategy id op retry request) <->
      ¬ Refused client now compress op := by
  unfold Refused
  rcases hand_cases client now compress libraryRetryStrategy id op
    with ⟨hunready, e, he⟩ | ⟨hready, field, crud, _, hhand, _, hrequests⟩
  · constructor
    · intro hsent
      rcases hsent with ⟨retry, request, crud, hhand, _⟩
      rw [hhand] at he
      cases he
    · intro hsendable
      exact absurd (Or.inl hunready) hsendable
  · rw [or_iff_right hready]
    constructor
    · intro hsent
      rcases hsent with ⟨retry, request, crud', hhand', _, collectionId, vbucketId, hrequest⟩
      rw [hhand] at hhand'
      cases hhand'
      exact (hrequests collectionId vbucketId).mp ⟨request, hrequest⟩
    · intro hcompress
      rcases (hrequests 0 0).mpr hcompress with ⟨request, hrequest⟩
      exact ⟨crud.retryStrategy, request, crud, hhand, rfl, 0, 0, hrequest⟩

end Hands

/-!
# Levels
-/

theorem levelReaches_none_iff (asked : Option DurabilityLevel) :
    LevelReaches asked none <-> asked = none ∨ asked = some .none := by
  rcases asked with _ | level
  · simp [LevelReaches]
  · cases level <;> simp [LevelReaches]

theorem levelReaches_parse_iff (asked : Option DurabilityLevel) :
    LevelReaches asked (parseOptionalDurabilityLevelToMemdx asked) <->
      forall name, asked ≠ some (.other name) := by
  rcases asked with _ | level
  · simp [LevelReaches, parseOptionalDurabilityLevelToMemdx]
  · cases level <;> simp [LevelReaches, parseOptionalDurabilityLevelToMemdx]

theorem levelReaches_iff_levelKept {strategy : Type} {client : CoreKvClient strategy}
    {op : Operation strategy} {field : Option UInt32} {retry : strategy} {request : WriteRequest}
    (hcopies : Copies client op field retry request) :
    LevelReaches op.durabilityLevel request.durabilityLevel <-> LevelKept op := by
  unfold LevelKept
  by_cases hmutate : op.IsMutateIn
  · rw [hcopies.levelMutateIn hmutate, levelReaches_none_iff]
    simp [hmutate]
  · rw [hcopies.levelOther hmutate, levelReaches_parse_iff]
    constructor
    · intro hnamed
      exact Or.inr (Or.inr ⟨hmutate, hnamed⟩)
    · intro hkept name hother
      rcases hkept with hnone | hnone | ⟨_, hnamed⟩
      · rw [hother] at hnone
        cases hnone
      · rw [hother] at hnone
        cases hnone
      · exact hnamed name hother

theorem carries_iff_levelKept {strategy : Type} {client : CoreKvClient strategy} {now : UInt64}
    {op : Operation strategy} {field : Option UInt32} {retry : strategy} {request : WriteRequest}
    (hexpiry : ExpiryReaches now op.expiry field) (hcopies : Copies client op field retry request) :
    Carries client now op retry request <-> LevelKept op := by
  rw [← levelReaches_iff_levelKept hcopies]
  constructor
  · intro hcarries
    exact hcarries.level
  · intro hlevel
    exact
      { level := hlevel
        cas := hcopies.cas
        expiry := by
          rw [hcopies.expiry]
          exact hexpiry
        preserveExpiry := hcopies.preserveExpiry
        retryStrategy := hcopies.retryStrategy
        own := hcopies.own }

/-- The options reach the wire exactly where the operation is refused, or where no level is asked
for, or one with a name by an operation on a whole document. -/
theorem write_options_reach_iff {strategy error : Type} (client : CoreKvClient strategy)
    (now : UInt64) (compress : Compress error) (op : Operation strategy) :
    OptionsReach client now compress op <-> Refused client now compress op ∨ LevelKept op := by
  constructor
  · intro hreach
    by_cases hrefused : Refused client now compress op
    · exact Or.inl hrefused
    · rcases hreach client.defaultRetryStrategy "" with ⟨hcarries, hsent⟩
      rcases hsent.mpr hrefused with ⟨retry, request, hsends⟩
      rcases sends_copies client now compress client.defaultRetryStrategy "" op hsends
        with ⟨field, hexpiry, hcopies⟩
      exact Or.inr ((carries_iff_levelKept hexpiry hcopies).mp (hcarries retry request hsends))
  · intro hcondition libraryRetryStrategy id
    have hsent := sends_iff_not_refused client now compress libraryRetryStrategy id op
    constructor
    · intro retry request hsends
      rcases hcondition with hrefused | hkept
      · exact absurd hrefused (hsent.mp ⟨retry, request, hsends⟩)
      · rcases sends_copies client now compress libraryRetryStrategy id op hsends
          with ⟨field, hexpiry, hcopies⟩
        exact (carries_iff_levelKept hexpiry hcopies).mpr hkept
    · exact hsent

/-- A sub-document mutation that asks for a majority is sent without a level. -/
theorem mutate_in_level_dropped :
    ¬ OptionsReach (CoreKvClient.mk true "" "" ()) 0
      (fun datatype value => .ok (value, datatype) : Compress Unit)
      (.mutateIn [MutateInSpec.remove "a" {}]
        { durabilityLevel := some .majority }) := by
  intro hreach
  have hsends : Sends (CoreKvClient.mk true "" "" ()) 0
      (fun datatype value => .ok (value, datatype) : Compress Unit) () ""
      (.mutateIn [MutateInSpec.remove "a" {}] { durabilityLevel := some .majority }) () _ :=
    ⟨_, rfl, rfl, 0, 0, rfl⟩
  have hlevel := ((hreach () "").1 () _ hsends).level
  cases hlevel

end Kv
end CouchbaseSdk
