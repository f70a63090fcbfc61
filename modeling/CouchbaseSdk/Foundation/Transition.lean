import Mathlib.Logic.Basic
import Mathlib.Data.List.Basic

/-!
# Transition systems with guarded runs

A system is a partial step function: an action that is not enabled in a state has
no successor.  Runs may be restricted by a guard on the state before each step,
which is how an assumption about a schedule is stated.
-/

namespace CouchbaseSdk
namespace Foundation

/-- A step function over actions; `none` says that the action is not enabled. -/
abbrev StepFn (state action : Type) := state -> action -> Option state

namespace StepFn

variable {state action : Type}

/-- Take the actions in order. -/
def run (step : StepFn state action) : state -> List action -> Option state
  | s, [] => some s
  | s, a :: rest => (step s a).bind (fun s' => run step s' rest)

/-- States reached from `s` by steps that all meet the guard. -/
inductive Reach (step : StepFn state action) (guard : state -> action -> Prop)
    (s : state) : state -> Prop where
  | refl : Reach step guard s s
  | tail {t u : state} (a : action) :
      Reach step guard s t -> guard t a -> step t a = some u ->
        Reach step guard s u

/-- The guard of an unrestricted run. -/
def Always : state -> action -> Prop :=
  fun _ _ => True

variable {step : StepFn state action} {guard guard' : state -> action -> Prop}

theorem Reach.trans {s t u : state} (hst : Reach step guard s t)
    (htu : Reach step guard t u) : Reach step guard s u := by
  induction htu with
  | refl => exact hst
  | tail a _ hguard hstep ih => exact Reach.tail a ih hguard hstep

theorem Reach.weaken {s t : state} (h : Reach step guard s t)
    (himp : forall t a, guard t a -> guard' t a) : Reach step guard' s t := by
  induction h with
  | refl => exact Reach.refl
  | tail a _ hguard hstep ih => exact Reach.tail a ih (himp _ a hguard) hstep

/-- What holds at the start and is kept by every guarded step holds along the run. -/
theorem Reach.invariant {s t : state} {Inv : state -> Prop}
    (h : Reach step guard s t) (hinit : Inv s)
    (hstep : forall t a u, Inv t -> guard t a -> step t a = some u -> Inv u) :
    Inv t := by
  induction h with
  | refl => exact hinit
  | tail a _ hguard hstepEq ih => exact hstep _ a _ ih hguard hstepEq

/-- A second invariant may be proved from a first one already known. -/
theorem Reach.invariant_with {s t : state} {Known Inv : state -> Prop}
    (h : Reach step guard s t)
    (hknown : forall t, Reach step guard s t -> Known t) (hinit : Inv s)
    (hstep : forall t a u, Known t -> Inv t -> guard t a -> step t a = some u -> Inv u) :
    Inv t := by
  induction h with
  | refl => exact hinit
  | tail a hreach hguard hstepEq ih =>
      exact hstep _ a _ (hknown _ hreach) ih hguard hstepEq

/-- An invariant of the states that are still live; what is not live stays so. -/
theorem Reach.invariant_while {s t : state} {Known Live Inv : state -> Prop}
    (h : Reach step guard s t) (hknown : forall t, Reach step guard s t -> Known t)
    (hlive : forall t a u, step t a = some u -> Live u -> Live t) (hinit : Inv s)
    (hstep : forall t a u, Known t -> Inv t -> guard t a -> step t a = some u -> Live u ->
      Inv u) : Live t -> Inv t := by
  induction h with
  | refl =>
      intro _
      exact hinit
  | tail a hreach hguard hstepEq ih =>
      intro hu
      exact hstep _ a _ (hknown _ hreach) (ih (hlive _ a _ hstepEq hu)) hguard hstepEq hu

theorem run_cons_some {s u : state} {a : action} {rest : List action}
    (h : run step s (a :: rest) = some u) :
    exists t, step s a = some t ∧ run step t rest = some u :=
  Option.bind_eq_some_iff.mp h

theorem reach_of_run {s t : state} {acts : List action}
    (h : run step s acts = some t) : Reach step Always s t := by
  induction acts generalizing s with
  | nil =>
      cases h
      exact Reach.refl
  | cons a rest ih =>
      rcases run_cons_some h with ⟨mid, hstep, hrest⟩
      exact (Reach.tail a Reach.refl trivial hstep).trans (ih hrest)

/-!
# Recorded runs

A record is written along a run and never read by it, so that a property of the
history of a run can be stated about the state it ends in.
-/

variable {history : Type}

def traced (step : StepFn state action) (note : state -> action -> history -> history) :
    StepFn (state × history) action :=
  fun p a => (step p.1 a).map fun s' => (s', note p.1 a p.2)

variable {note : state -> action -> history -> history}

/-- Every run has a record. -/
theorem Reach.exists_traced {s t : state} (h : history) (hreach : Reach step guard s t) :
    exists h', Reach (traced step note) (fun p a => guard p.1 a) (s, h) (t, h') := by
  induction hreach with
  | refl => exact ⟨h, Reach.refl⟩
  | @tail t u a _ hguard hstep ih =>
      rcases ih with ⟨h', hreach⟩
      refine ⟨note t a h', Reach.tail a hreach hguard ?_⟩
      unfold traced
      rw [hstep]
      rfl

theorem Reach.of_traced {p q : state × history}
    (hreach : Reach (traced step note) (fun p a => guard p.1 a) p q) :
    Reach step guard p.1 q.1 := by
  induction hreach with
  | refl => exact Reach.refl
  | tail a _ hguard hstep ih =>
      rcases Option.map_eq_some_iff.mp hstep with ⟨s', hstep', rfl⟩
      exact Reach.tail a ih hguard hstep'

end StepFn

/-!
# Runs that show events

A step of such a system shows one event at most, and a run shows those of its steps in order.
-/

/-- A step function with what each step shows; `none` says that the action is not enabled. -/
abbrev ObservedFn (state action event : Type) :=
  state -> action -> Option (Option event × state)

namespace ObservedFn

variable {state action event : Type}

/-- What the actions show in order, and the state after them. -/
def perform (step : ObservedFn state action event) :
    state -> List action -> Option (List event × state)
  | s, [] => some ([], s)
  | s, a :: rest =>
      (step s a).bind fun p => (perform step p.2 rest).map fun q => (p.1.toList ++ q.1, q.2)

/-- The events that a run from `s` shows, and the state it ends in. -/
inductive Run (step : ObservedFn state action event) (s : state) :
    List event -> state -> Prop where
  | refl : Run step s [] s
  | tail {shown : List event} {t u : state} {e : Option event} (a : action) :
      Run step s shown t -> step t a = some (e, u) -> Run step s (shown ++ e.toList) u

variable {step : ObservedFn state action event} {s t u : state} {shown front back : List event}
  {e : event}

theorem Run.trans {more : List event} (hfront : Run step s shown t) (hback : Run step t more u) :
    Run step s (shown ++ more) u := by
  induction hback with
  | refl =>
      rw [List.append_nil]
      exact hfront
  | tail a _ hstep ih =>
      rw [← List.append_assoc]
      exact Run.tail a ih hstep

theorem run_of_perform {acts : List action} (h : perform step s acts = some (shown, t)) :
    Run step s shown t := by
  induction acts generalizing s shown with
  | nil =>
      cases h
      exact Run.refl
  | cons a rest ih =>
      rcases Option.bind_eq_some_iff.mp h with ⟨p, hstep, hrest⟩
      rcases Option.map_eq_some_iff.mp hrest with ⟨q, hq, heq⟩
      cases heq
      have hfirst : Run step s ([] ++ p.1.toList) p.2 := Run.tail a Run.refl hstep
      exact hfirst.trans (ih hq)

/-- What holds with nothing shown and is kept by every step holds along the run. -/
theorem Run.invariant {I : List event -> state -> Prop} (h : Run step s shown t)
    (hinit : I [] s)
    (hstep : forall shown t a e u, I shown t -> step t a = some (e, u) ->
      I (shown ++ e.toList) u) : I shown t := by
  induction h with
  | refl => exact hinit
  | tail a _ heq ih => exact hstep _ _ a _ _ ih heq

/-- Every event is shown by a step, with a run before it and a run after it. -/
theorem Run.split (h : Run step s (front ++ e :: back) u) :
    exists t a t', Run step s front t ∧ step t a = some (some e, t') ∧ Run step t' back u := by
  generalize hall : front ++ e :: back = all at h
  induction h generalizing back with
  | refl => simp at hall
  | @tail before mid last shownHere a hrun hstep ih =>
      cases shownHere with
      | none =>
          rw [Option.toList_none, List.append_nil] at hall
          rcases ih hall with ⟨t, b, t', hfront, hshow, hback⟩
          have hlonger := Run.tail a hback hstep
          rw [Option.toList_none, List.append_nil] at hlonger
          exact ⟨t, b, t', hfront, hshow, hlonger⟩
      | some x =>
          rw [Option.toList_some] at hall
          rcases List.eq_nil_or_concat back with rfl | ⟨init, y, rfl⟩
          · rcases List.append_inj' hall rfl with ⟨rfl, heq⟩
            cases heq
            exact ⟨mid, a, last, hrun, hstep, Run.refl⟩
          · have hshape : front ++ e :: init ++ [y] = before ++ [x] := by
              rw [← hall, List.concat_eq_append]
              simp
            rcases List.append_inj' hshape rfl with ⟨hbefore, heq⟩
            cases heq
            rcases ih hbefore with ⟨t, b, t', hfront, hshow, hback⟩
            rw [List.concat_eq_append]
            exact ⟨t, b, t', hfront, hshow, Run.tail a hback hstep⟩

theorem Run.exists_prefix (h : Run step s (front ++ back) u) : exists t, Run step s front t := by
  cases back with
  | nil =>
      rw [List.append_nil] at h
      exact ⟨u, h⟩
  | cons e back =>
      rcases h.split with ⟨t, _, _, hfront, _, _⟩
      exact ⟨t, hfront⟩

end ObservedFn
end Foundation
end CouchbaseSdk
