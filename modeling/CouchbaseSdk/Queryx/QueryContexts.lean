import CouchbaseSdk.Foundation.Transition
import CouchbaseSdk.Queryx.Transparency

/-!
# One cache for all query contexts

All scopes of a bucket share a component and with it the cache, whose keys are the statements
alone.  Calls interleave at their requests.
-/

namespace CouchbaseSdk
namespace Queryx

open Foundation

variable {others : Type}

/-!
# The component
-/

/-- A call, and the name it found in the cache. -/
structure Running (others : Type) where
  opts : QueryOptions others
  executed : Option String
  phase : Phase others

/-- `reported` has the requests whose replies put a name into the cache, with that name. -/
structure State (others : Type) where
  cache : PreparedStatementCache
  calls : List (Running others)
  reported : List (QueryOptions others × String)

def State.new : State others :=
  { cache := ∅, calls := [], reported := [] }

inductive Action (others : Type) where
  | start (opts : QueryOptions others)
  | reply (k : Nat) (res : Reply)

def executedName : Phase others -> Option String
  | .executing _ request => request.prepared
  | _ => none

def Running.start (cache : PreparedStatementCache) (opts : QueryOptions others) :
    Running others :=
  { opts := opts
    executed := executedName (Queryx.start cache opts)
    phase := Queryx.start cache opts }

def State.replied (s : State others) (k : Nat) (call : Running others)
    (request : QueryOptions others) (res : Reply) : State others :=
  { cache := store s.cache (reply call.phase res).2
    calls := s.calls.set k { call with phase := (reply call.phase res).1 }
    reported := s.reported ++ ((reply call.phase res).2.map fun put => (request, put.2)).toList }

def step : StepFn (State others) (Action others)
  | s, .start opts => some { s with calls := s.calls ++ [Running.start s.cache opts] }
  | s, .reply k res =>
      match s.calls[k]? with
      | none => none
      | some call =>
          match call.phase.request with
          | none => none
          | some request => some (s.replied k call request res)

theorem step_reply_eq_some {s t : State others} {k : Nat} {res : Reply}
    (h : step s (.reply k res) = some t) :
    exists call request, s.calls[k]? = some call ∧ call.phase.request = some request ∧
      t = s.replied k call request res := by
  unfold step at h
  dsimp only at h
  split at h
  · cases h
  · rename_i call hcall
    split at h
    · cases h
    · rename_i request hrequest
      cases h
      exact ⟨call, request, hcall, hrequest, rfl⟩

/-!
# Names and contexts
-/

/-- The name was reported for the statement. -/
def ReportedFor (s : State others) (statement name : String) (request : QueryOptions others) :
    Prop :=
  (request, name) ∈ s.reported ∧
    request.body.statement = some (.string ("PREPARE " ++ statement))

/-- A name that a call executes was reported for its statement in its context. -/
def InContext (s : State others) : Prop :=
  forall call, call ∈ s.calls -> forall statement name,
    call.opts.statement = some statement -> call.executed = some name ->
      exists request, ReportedFor s statement name request ∧
        request.body.queryContext = call.opts.body.queryContext

/-- A statement is not started in a context when a name was reported for it in another one,
and is not replaced through the raw options. -/
def OneContext (s : State others) : Action others -> Prop
  | .start opts =>
      opts.autoExecute ≠ some true ->
        opts.rawValue "statement" = none ∧
          forall statement name request, opts.statement = some statement ->
            ReportedFor s statement name request ->
              request.body.queryContext = opts.body.queryContext
  | .reply _ _ => True

/-- A request that is out prepares the statement of its call, or may be followed by one that
does. -/
def PhaseSound : Phase others -> Prop
  | .executing _ request => request.rawValue "statement" = none
  | .preparing statement request =>
      request.body.statement = some (.string ("PREPARE " ++ statement))
  | _ => True

structure Inv (s : State others) : Prop where
  cached : forall statement name, s.cache.get statement = some name ->
    exists request, ReportedFor s statement name request
  phases : forall call, call ∈ s.calls -> PhaseSound call.phase
  inContext : InContext s

theorem prepare_statement {opts : QueryOptions others} {statement : String}
    (h : opts.rawValue "statement" = none) :
    (prepare statement opts).body.statement = some (.string ("PREPARE " ++ statement)) := by
  have hbody : (prepare statement opts).body.statement =
      opts.entry "statement" (some (.string ("PREPARE " ++ statement))) := rfl
  rw [hbody, entry_eq_some_iff]
  exact Or.inl h

theorem phaseSound_start {cache : PreparedStatementCache} {opts : QueryOptions others}
    (h : opts.autoExecute ≠ some true -> opts.rawValue "statement" = none) :
    PhaseSound (start cache opts) := by
  unfold start
  split
  · exact trivial
  · rename_i hauto
    split
    · exact trivial
    · split
      · exact h hauto
      · exact prepare_statement (h hauto)

theorem phaseSound_reply {phase : Phase others} (h : PhaseSound phase) (res : Reply) :
    PhaseSound (reply phase res).1 := by
  cases phase with
  | passing request => exact trivial
  | returned result => exact trivial
  | executing statement request =>
      cases res with
      | ok reader => exact trivial
      | error e => exact prepare_statement h
  | preparing statement request =>
      cases res with
      | ok reader => exact trivial
      | error e => exact trivial

/-- A name that is put into the cache is the one of the request that was out. -/
theorem reply_put {phase : Phase others} {request : QueryOptions others} {res : Reply}
    {put : String × String} (hsound : PhaseSound phase) (hrequest : phase.request = some request)
    (hput : (reply phase res).2 = some put) :
    request.body.statement = some (.string ("PREPARE " ++ put.1)) := by
  cases phase with
  | passing request => cases hput
  | returned result => cases hput
  | executing statement request =>
      cases res with
      | ok reader => cases hput
      | error e => cases hput
  | preparing statement request =>
      cases hrequest
      cases res with
      | error e => cases hput
      | ok reader =>
          rcases Option.map_eq_some_iff.mp hput with ⟨name, -, rfl⟩
          exact hsound

theorem start_executing {cache : PreparedStatementCache} {opts : QueryOptions others}
    {name : String} (h : executedName (start cache opts) = some name) :
    opts.autoExecute ≠ some true ∧
      exists statement, opts.statement = some statement ∧ cache.get statement = some name := by
  unfold start at h
  split at h
  · cases h
  · rename_i hauto
    split at h
    · cases h
    · rename_i statement hstatement
      split at h
      · rename_i cached hcached
        cases h
        exact ⟨hauto, statement, hstatement, hcached⟩
      · cases h

theorem reportedFor_replied {s : State others} {statement name : String}
    {request other : QueryOptions others} (k : Nat) (call : Running others) (res : Reply)
    (h : ReportedFor s statement name other) :
    ReportedFor (s.replied k call request res) statement name other :=
  ⟨List.mem_append_left _ h.1, h.2⟩

theorem inv_start {s : State others} {opts : QueryOptions others} (hinv : Inv s)
    (hguard : OneContext s (.start opts)) :
    Inv { s with calls := s.calls ++ [Running.start s.cache opts] } := by
  constructor
  case cached => exact hinv.cached
  case phases =>
      intro call hmem
      rcases List.mem_append.mp hmem with hold | hnew
      · exact hinv.phases call hold
      · rw [List.mem_singleton.mp hnew]
        exact phaseSound_start (fun hauto => (hguard hauto).1)
  case inContext =>
      intro call hmem statement name hstatement hexecuted
      rcases List.mem_append.mp hmem with hold | hnew
      · exact hinv.inContext call hold statement name hstatement hexecuted
      · rw [List.mem_singleton.mp hnew] at hstatement hexecuted ⊢
        rcases start_executing hexecuted with ⟨hauto, statement', hstatement', hcached⟩
        cases hstatement.symm.trans hstatement'
        rcases hinv.cached statement name hcached with ⟨request, hreported⟩
        exact ⟨request, hreported, (hguard hauto).2 statement name request hstatement hreported⟩

theorem inv_replied {s : State others} {k : Nat} {call : Running others}
    {request : QueryOptions others} (hinv : Inv s) (hcall : s.calls[k]? = some call)
    (hrequest : call.phase.request = some request) (res : Reply) :
    Inv (s.replied k call request res) := by
  have hmem : call ∈ s.calls := List.mem_of_getElem? hcall
  have hsound := hinv.phases call hmem
  constructor
  case cached =>
      intro statement name hget
      cases hput : (reply call.phase res).2 with
      | none =>
          unfold State.replied at hget
          rw [hput] at hget
          rcases hinv.cached statement name hget with ⟨other, hother⟩
          exact ⟨other, reportedFor_replied k call res hother⟩
      | some put =>
          have hcache : (s.replied k call request res).cache = s.cache.put put.1 put.2 := by
            unfold State.replied
            rw [hput]
            rfl
          rw [hcache] at hget
          by_cases heq : statement = put.1
          · rw [heq, PreparedStatementCache.get_put] at hget
            cases hget
            rw [heq]
            refine ⟨request, List.mem_append_right _ ?_, reply_put hsound hrequest hput⟩
            rw [hput]
            exact List.mem_singleton_self _
          · rw [PreparedStatementCache.get_put_ne _ heq] at hget
            rcases hinv.cached statement name hget with ⟨other, hother⟩
            exact ⟨other, reportedFor_replied k call res hother⟩
  case phases =>
      intro other hother
      rcases List.mem_or_eq_of_mem_set hother with hold | rfl
      · exact hinv.phases other hold
      · exact phaseSound_reply hsound res
  case inContext =>
      intro other hother statement name hstatement hexecuted
      have hexists : exists old, old ∈ s.calls ∧ old.opts = other.opts ∧
          old.executed = other.executed := by
        rcases List.mem_or_eq_of_mem_set hother with hold | rfl
        · exact ⟨other, hold, rfl, rfl⟩
        · exact ⟨call, hmem, rfl, rfl⟩
      rcases hexists with ⟨old, hold, hopts, hname⟩
      rcases hinv.inContext old hold statement name (hopts ▸ hstatement) (hname ▸ hexecuted) with
        ⟨source, hreported, hcontext⟩
      exact ⟨source, reportedFor_replied k call res hreported, hopts ▸ hcontext⟩

theorem inv_new : Inv (State.new : State others) := by
  constructor
  case cached =>
      intro statement name hget
      cases hget
  case phases =>
      intro call hmem
      cases hmem
  case inContext =>
      intro call hmem
      cases hmem

theorem inv_step {s t : State others} {a : Action others} (hinv : Inv s)
    (hguard : OneContext s a) (hstep : step s a = some t) : Inv t := by
  cases a with
  | start opts =>
      cases hstep
      exact inv_start hinv hguard
  | reply k res =>
      rcases step_reply_eq_some hstep with ⟨call, request, hcall, hrequest, rfl⟩
      exact inv_replied hinv hcall hrequest res

/-- As long as no statement is started in a context when another one has had it prepared, no
call executes a name of another context. -/
theorem names_stay_in_context {s : State others}
    (h : StepFn.Reach step OneContext State.new s) : InContext s :=
  (h.invariant inv_new (fun _ _ _ hinv hguard hstep => inv_step hinv hguard hstep)).inContext

/-!
# Two scopes
-/

def ofScope (scope : String) : QueryOptions Unit :=
  { plainOptions "SELECT * FROM airline" with
    queryContext := some ("`travel`.`" ++ scope ++ "`") }

/-- The statement has been prepared in a scope, and is executed in a scope. -/
def preparedThenStarted (first second : String) : State Unit :=
  { cache := (∅ : PreparedStatementCache).put "SELECT * FROM airline" "p1"
    calls :=
      [{ opts := ofScope first
         executed := none
         phase := .returned (.ok { prepared := some "p1" }) },
       Running.start ((∅ : PreparedStatementCache).put "SELECT * FROM airline" "p1")
         (ofScope second)]
    reported := [(prepare "SELECT * FROM airline" (ofScope first), "p1")] }

theorem reach_preparedThenStarted {guard : State Unit -> Action Unit -> Prop}
    (first second : String) (hfirst : guard State.new (.start (ofScope first)))
    (hreply : forall s k res, guard s (.reply k res))
    (hsecond : guard
      { preparedThenStarted first second with
        calls := [{ opts := ofScope first
                    executed := none
                    phase := .returned (.ok { prepared := some "p1" }) }] }
      (.start (ofScope second))) :
    StepFn.Reach step guard State.new (preparedThenStarted first second) :=
  StepFn.Reach.tail (.start (ofScope second))
    (StepFn.Reach.tail (.reply 0 (.ok { prepared := some "p1" }))
      (StepFn.Reach.tail (.start (ofScope first)) StepFn.Reach.refl hfirst rfl)
      (hreply _ _ _) rfl)
    hsecond rfl

theorem names_stay_in_context_one_scope :
    InContext (preparedThenStarted "inventory" "inventory") := by
  apply names_stay_in_context
  apply reach_preparedThenStarted
  · intro _
    refine ⟨rfl, ?_⟩
    intro statement name request _ hreported
    cases hreported.1
  · intro s k res
    exact trivial
  · intro _
    refine ⟨rfl, ?_⟩
    intro statement name request _ hreported
    cases List.mem_singleton.mp hreported.1
    rfl

theorem names_leave_context :
    ¬ forall s : State Unit, StepFn.Reach step StepFn.Always State.new s -> InContext s := by
  intro hall
  have hreach := @reach_preparedThenStarted StepFn.Always "inventory" "tenant"
    trivial (fun _ _ _ => trivial) trivial
  have hcall : Running.start ((∅ : PreparedStatementCache).put "SELECT * FROM airline" "p1")
      (ofScope "tenant") ∈ (preparedThenStarted "inventory" "tenant").calls :=
    List.mem_cons_of_mem _ List.mem_cons_self
  rcases hall _ hreach _ hcall "SELECT * FROM airline" "p1" rfl rfl with
    ⟨request, hreported, hcontext⟩
  cases List.mem_singleton.mp hreported.1
  have hstring : some (Value.string "`travel`.`inventory`") =
      some (Value.string "`travel`.`tenant`") := hcontext
  injection hstring with hvalue
  injection hvalue with htext
  exact absurd htext (by decide)

end Queryx
end CouchbaseSdk
