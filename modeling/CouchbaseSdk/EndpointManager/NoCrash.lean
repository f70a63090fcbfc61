import CouchbaseSdk.EndpointManager.Model
import CouchbaseSdk.Pool.Shutdown

/-!
# Topology changes and callers

`get_client_slow` takes the remainder by the number of babysitters.  A pool has babysitters
until its `close` drains them, and an update closes the pools it removes before it publishes
the table without them.
-/

namespace CouchbaseSdk
namespace EndpointManager

open Foundation

/-- Every call of a pool returns a client or an error. -/
structure NoCrash (s : State) : Prop where
  pools : forall p d, ((s.pools p).calls d).phase ≠ .panicked
  calls : forall k, s.calls k ≠ .panicked

/-- A pool is drained once no caller that has taken it can still reach its lock, and no
caller takes a drained pool. -/
def DrainsUnused (s : State) : Action -> Prop
  | .closePool .closeDrain => forall p rest new, s.updater = .closing (p :: rest) new ->
      (forall k, s.calls k ≠ .loaded p) ∧ forall d, ((s.pools p).calls d).phase ≠ .slow
  | .getClient endpoint | .getEndpointClient endpoint => forall p,
      s.fastState.lookup endpoint = some p -> (s.pools p).closer.early = true
  | _ => True

/-!
# What a step does to the calls of a pool
-/

section
variable {s s' : Pool.State} {a : Pool.Action}

theorem early_source (h : Pool.Step s a s') (hlate : s'.closer.early = false) :
    s.closer.early = false ∨ a = .closeDrain := by
  cases h with
  | closeCancel | closeSwap => cases hlate
  | closeDrain => exact Or.inr rfl
  | closeNext _ _ hc | closeDone hc =>
      rw [hc]
      exact Or.inl rfl
  | _ => exact Or.inl hlate

/-- Where a call of the pool can be after a step. -/
inductive CallAfter (s : Pool.State) (a : Pool.Action) (d : Pool.CallId) :
    Pool.CallPhase -> Prop where
  | kept (phase : Pool.CallPhase) : (s.calls d).phase = phase -> CallAfter s a d phase
  | ahead (phase : Pool.CallPhase) : phase ≠ .slow -> phase ≠ .panicked -> CallAfter s a d phase
  | missed : a = .getClient -> CallAfter s a d .slow
  | panicked : (s.calls d).phase = .slow -> s.entries = [] -> CallAfter s a d .panicked

theorem callAfter_update {calls : Pool.CallId -> Pool.Call} (hcalls : calls = s.calls)
    {d k : Pool.CallId} {call : Pool.Call} (hnew : d = k -> CallAfter s a d call.phase) :
    CallAfter s a d (Function.update calls k call d).phase := by
  by_cases hd : d = k
  · rw [hd, Function.update_self, ← hd]
    exact hnew hd
  · rw [Function.update_of_ne hd, hcalls]
    exact CallAfter.kept _ rfl

theorem callAfter_step (h : Pool.Step s a s') (d : Pool.CallId) :
    CallAfter s a d (s'.calls d).phase := by
  cases h with
  | fastHit client => exact callAfter_update rfl (fun _ => CallAfter.ahead _ nofun nofun)
  | fastMiss => exact callAfter_update rfl (fun _ => CallAfter.missed rfl)
  | ask k entry => exact callAfter_update rfl (fun _ => CallAfter.ahead _ nofun nofun)
  | panic k hslow _ hempty =>
      refine callAfter_update rfl (fun hd => ?_)
      subst hd
      exact CallAfter.panicked hslow hempty
  | finish k i e result => exact callAfter_update rfl (fun _ => CallAfter.ahead _ nofun nofun)
  | _ => exact CallAfter.kept _ rfl

theorem size_of_reach {guard : Pool.State -> Pool.Action -> Prop} {numConnections : Nat}
    {onDemandConnect : Bool}
    (hreach : StepFn.Reach Pool.step guard (Pool.initial numConnections onDemandConnect) s) :
    s.size = numConnections := by
  induction hreach with
  | refl => rfl
  | tail a _ _ hstep ih =>
      cases Pool.step_inv hstep with
      | _ => exact ih

end

/-!
# Drained pools are not used
-/

variable {s s' : State} {a : Action} {numPoolConnections : Nat} {onDemandConnect : Bool}

structure UnusedInv (s : State) : Prop extends NoCrash s where
  loaded : forall p, (s.pools p).closer.early = false -> forall k, s.calls k ≠ .loaded p
  slow : forall p, (s.pools p).closer.early = false ->
    forall d, ((s.pools p).calls d).phase ≠ .slow

theorem forwards_getClient {p : PoolId} (h : Forwards s a p .getClient) :
    exists k, s.calls k = .loaded p := by
  cases h with
  | own _ _ _ hstarts => cases hstarts
  | ask k _ hloaded => exact ⟨k, hloaded⟩
  | close _ _ _ _ _ hcloses => cases hcloses

theorem forwards_closeDrain {p : PoolId} (hguard : DrainsUnused s a)
    (h : Forwards s a p .closeDrain) :
    (forall k, s.calls k ≠ .loaded p) ∧ (forall d, ((s.pools p).calls d).phase ≠ .slow) ∧
      a = .closePool .closeDrain := by
  cases h with
  | own _ _ hcloses => cases hcloses
  | close _ rest new _ hclosing _ =>
      rcases hguard p rest new hclosing with ⟨hloaded, hslow⟩
      exact ⟨hloaded, hslow, rfl⟩

section
variable (h : Step s a s') (hinv : UnusedInv s) (hguard : DrainsUnused s a)
include h hinv hguard

/-- A pool that is drained after a step was drained, or unused when the step drained it. -/
theorem unused_before {p : PoolId} (hlate : (s'.pools p).closer.early = false) :
    (forall k, s.calls k ≠ .loaded p) ∧ forall d, ((s.pools p).calls d).phase ≠ .slow := by
  have hold : (s.pools p).closer.early = false ->
      (forall k, s.calls k ≠ .loaded p) ∧ forall d, ((s.pools p).calls d).phase ≠ .slow :=
    fun hlate => ⟨hinv.loaded p hlate, hinv.slow p hlate⟩
  rcases pool_step h p with hsame | ⟨b, hforwards, hstep⟩
  · rw [hsame] at hlate
    exact hold hlate
  · rcases early_source (Pool.step_inv hstep) hlate with hlate | rfl
    · exact hold hlate
    · rcases forwards_closeDrain hguard hforwards with ⟨hloaded, hslow, _⟩
      exact ⟨hloaded, hslow⟩

theorem loaded_step (p : PoolId) (hlate : (s'.pools p).closer.early = false) (k : CallId) :
    s'.calls k ≠ .loaded p := by
  have hbefore := (unused_before h hinv hguard hlate).1
  have hset : forall {j : CallId} {phase : CallPhase}, phase ≠ .loaded p ->
      Function.update s.calls j phase k ≠ .loaded p := by
    intro j phase hphase
    by_cases hk : k = j
    · rw [hk, Function.update_self]
      exact hphase
    · rw [Function.update_of_ne hk]
      exact hbefore k
  cases h with
  | load b endpoint q hb hlookup =>
      refine hset (fun hq => ?_)
      cases hq
      have hearly : (s.pools p).closer.early = true := by
        rcases hb with rfl | rfl
        · exact hguard p hlookup
        · exact hguard p hlookup
      cases hearly.symm.trans hlate
  | reject | ask | finish | panic => exact hset nofun
  | _ => exact hbefore k

theorem slow_step (p : PoolId) (hlate : (s'.pools p).closer.early = false) (d : Pool.CallId) :
    ((s'.pools p).calls d).phase ≠ .slow := by
  rcases unused_before h hinv hguard hlate with ⟨hloaded, hslow⟩
  intro hphase
  rcases pool_step h p with hsame | ⟨b, hforwards, hstep⟩
  · rw [hsame] at hphase
    exact hslow d hphase
  · have hafter := callAfter_step (Pool.step_inv hstep) d
    rw [hphase] at hafter
    cases hafter with
    | kept _ hkept => exact hslow d hkept
    | ahead _ hne => exact hne rfl
    | missed hget =>
        subst hget
        rcases forwards_getClient hforwards with ⟨k, hk⟩
        exact hloaded k hk

omit hguard in
/-- A pool whose babysitters were not drained has one. -/
theorem pools_step (hnum : 1 ≤ numPoolConnections)
    (hpool : forall p, Pool.Roster (s.pools p) ∧ (s.pools p).size = numPoolConnections)
    (p : PoolId) (d : Pool.CallId) : ((s'.pools p).calls d).phase ≠ .panicked := by
  intro hphase
  rcases pool_step h p with hsame | ⟨b, hforwards, hstep⟩
  · rw [hsame] at hphase
    exact hinv.pools p d hphase
  · have hafter := callAfter_step (Pool.step_inv hstep) d
    rw [hphase] at hafter
    cases hafter with
    | kept _ hkept => exact hinv.pools p d hkept
    | ahead _ _ hne => exact hne rfl
    | panicked hslow hempty =>
        cases hearly : (s.pools p).closer.early with
        | false => exact hinv.slow p hearly d hslow
        | true =>
            have hnames := (hpool p).1.names hearly
            rw [hempty, (hpool p).2] at hnames
            have hnone : numPoolConnections = 0 := List.range_eq_nil.mp hnames.symm
            rw [hnone] at hnum
            exact Nat.not_succ_le_zero 0 hnum

omit hguard in
theorem calls_step (k : CallId) : s'.calls k ≠ .panicked := by
  have hset : forall {j : CallId} {phase : CallPhase}, phase ≠ .panicked ->
      Function.update s.calls j phase k ≠ .panicked := by
    intro j phase hphase
    by_cases hk : k = j
    · rw [hk, Function.update_self]
      exact hphase
    · rw [Function.update_of_ne hk]
      exact hinv.calls k
  cases h with
  | load | reject | ask | finish => exact hset nofun
  | panic j p d _ hpanicked => exact (hinv.pools p d hpanicked).elim
  | _ => exact hinv.calls k

end

theorem unusedInv_of_reach (hnum : 1 ≤ numPoolConnections)
    (hreach : StepFn.Reach step DrainsUnused (initial numPoolConnections onDemandConnect) s) :
    UnusedInv s := by
  have hpools : forall t,
      StepFn.Reach step DrainsUnused (initial numPoolConnections onDemandConnect) t ->
        forall p, Pool.Roster (t.pools p) ∧ (t.pools p).size = numPoolConnections :=
    fun t ht p => ⟨Pool.roster_of_reach (reach_pool ht p), size_of_reach (reach_pool ht p)⟩
  refine hreach.invariant_with hpools ⟨⟨nofun, nofun⟩, nofun, nofun⟩ ?_
  intro t a u hpool hinv hguard hstep
  have h := step_inv hstep
  exact ⟨⟨pools_step h hinv hnum hpool, calls_step h hinv⟩, loaded_step h hinv hguard,
    slow_step h hinv hguard⟩

/-- No call of a pool panics, in every run in which pools are drained while they are not
used and are not taken afterwards. -/
theorem noCrash_of_reach (numPoolConnections : Nat) (onDemandConnect : Bool) (s : State)
    (hnum : 1 ≤ numPoolConnections)
    (hreach : StepFn.Reach step DrainsUnused (initial numPoolConnections onDemandConnect) s) :
    NoCrash s :=
  (unusedInv_of_reach hnum hreach).toNoCrash

/-- A caller has reached the babysitter of its pool before an update closes the pool. -/
theorem noCrash_replacedPool :
    exists s, StepFn.Reach step DrainsUnused (initial 1 true) s ∧ s.made = 2 ∧
      (s.pools 0).closer = .returned ∧ s.calls 0 = .asking 0 0 ∧ NoCrash s := by
  have h₁ : StepFn.Reach step DrainsUnused (initial 1 true) _ :=
    StepFn.Reach.tail (Action.updateEndpoints ["a"] false) StepFn.Reach.refl trivial rfl
  have h₂ := StepFn.Reach.tail Action.buildNext h₁ trivial rfl
  have h₃ := StepFn.Reach.tail Action.buildNext h₂ trivial rfl
  have h₄ := StepFn.Reach.tail Action.publish h₃ trivial rfl
  have h₅ := StepFn.Reach.tail (Action.getEndpointClient "a") h₄
    (fun _ hp => by cases Option.some.inj hp; rfl) rfl
  have h₆ := StepFn.Reach.tail (Action.ask 0) h₅ trivial rfl
  have h₇ := StepFn.Reach.tail (Action.pool 0 (.getClientSlow 0)) h₆ trivial rfl
  have h₈ := StepFn.Reach.tail (Action.updateEndpoints ["b"] false) h₇ trivial rfl
  have h₉ := StepFn.Reach.tail Action.buildNext h₈ trivial rfl
  have h₁₀ := StepFn.Reach.tail Action.buildNext h₉ trivial rfl
  have h₁₁ := StepFn.Reach.tail (Action.closePool .closeCancel) h₁₀ trivial rfl
  have h₁₂ := StepFn.Reach.tail (Action.closePool .closeSwap) h₁₁ trivial rfl
  have h₁₃ := StepFn.Reach.tail (Action.closePool .closeDrain) h₁₂
    (fun p _ _ hclosing => by
      have hp : 0 = p := (List.cons.inj (Updater.closing.inj hclosing).1).1
      subst hp
      constructor
      · intro k
        cases k with
        | zero => exact nofun
        | succ k => exact nofun
      · intro d
        cases d with
        | zero => exact nofun
        | succ d => exact nofun) rfl
  have h₁₄ := StepFn.Reach.tail (Action.closePool (.closeBabysitter .closeCancel)) h₁₃ trivial rfl
  have h₁₅ := StepFn.Reach.tail (Action.closePool (.closeBabysitter .closeTake)) h₁₄ trivial rfl
  have h₁₆ := StepFn.Reach.tail (Action.closePool (.closeBabysitter (.closeTaken true))) h₁₅
    trivial rfl
  have h₁₇ := StepFn.Reach.tail (Action.closePool (.closeBabysitter .closeNotify)) h₁₆ trivial rfl
  have h₁₈ := StepFn.Reach.tail (Action.closePool .closeNext) h₁₇ trivial rfl
  have h₁₉ := StepFn.Reach.tail (Action.closePool .closeNext) h₁₈ trivial rfl
  have h₂₀ := StepFn.Reach.tail Action.closeNext h₁₉ trivial rfl
  have h₂₁ := StepFn.Reach.tail Action.publish h₂₀ trivial rfl
  exact ⟨_, h₂₁, rfl, rfl, rfl, noCrash_of_reach 1 true _ (Nat.le_refl 1) h₂₁⟩

/-- Whoever waits for the lock of a pool whose `close` has returned panics. -/
theorem panics_of_returned {t : Pool.State} {guard : Pool.State -> Pool.Action -> Prop}
    {k : Pool.CallId}
    (hreach : StepFn.Reach Pool.step guard (Pool.initial numPoolConnections onDemandConnect) t)
    (hreturned : t.closer = .returned) (hslow : (t.calls k).phase = .slow) :
    exists t', Pool.step t (.getClientSlow k) = some t' ∧ (t'.calls k).phase = .panicked := by
  have hempty : t.entries = [] :=
    (Pool.roster_of_reach hreach).drained (by rw [hreturned]; rfl)
  have hlocked : t.locked = false := by
    unfold Pool.State.locked
    rw [hreturned]
  refine ⟨t.nextIdx.setCall k .panicked, ?_, ?_⟩
  · change Pool.getClientSlow t k = _
    unfold Pool.getClientSlow
    simp [hslow, hlocked, hempty]
  · have hnew : (t.nextIdx.setCall k .panicked).calls k = { t.calls k with phase := .panicked } :=
      Function.update_self ..
    rw [hnew]

/-- A caller takes the pool of an endpoint; an update removes the endpoint and closes the
pool; the caller then asks the pool. -/
def askedLate : List Action :=
  [.updateEndpoints ["a"] false, .buildNext, .buildNext, .publish, .getEndpointClient "a",
    .updateEndpoints [] false, .buildNext, .closePool .closeCancel, .closePool .closeSwap,
    .closePool .closeDrain, .closePool (.closeBabysitter .closeCancel),
    .closePool (.closeBabysitter .closeTake), .closePool (.closeBabysitter (.closeTaken true)),
    .closePool (.closeBabysitter .closeNotify), .closePool .closeNext, .closePool .closeNext,
    .closeNext, .publish, .ask 0, .pool 0 (.getClientSlow 0), .finish 0]

theorem askedLate_crashes :
    exists s, StepFn.run step (initial 1 true) askedLate = some s ∧
      ((s.pools 0).calls 0).phase = .panicked ∧ s.calls 0 = .panicked ∧ ¬ NoCrash s := by
  refine ⟨_, rfl, rfl, rfl, ?_⟩
  intro hsafe
  exact hsafe.calls 0 rfl

end EndpointManager
end CouchbaseSdk
