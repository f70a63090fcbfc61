import CouchbaseSdk.Foundation.Transition
import Mathlib.Logic.Function.Basic

/-!
# Programs of many clients at one server

A program asks a server, and goes on with each answer until it is done.  The server answers one
question at a time, so that the programs of many clients are interleaved at their questions.  Where
each program does its work between two questions at one of them, a run does what a history of whole
operations does.
-/

namespace CouchbaseSdk
namespace Foundation

inductive Program (call : Type) (answer : call -> Type) (result : Type) where
  | done (r : result)
  | ask (c : call) (next : answer c -> Program call answer result)

namespace Program

variable {call result : Type} {answer : call -> Type}

def finished : Program call answer result -> Option result
  | done r => some r
  | ask _ _ => none

end Program

/-!
# Runs of many clients
-/

/-- The state of the server, what each client is in the middle of, and which operations have ended
so far and how. -/
structure World (client op state call : Type) (answer : call -> Type) (result : Type) where
  shared : state
  running : client -> Option (op × Program call answer result)
  log : List (op × result)

namespace World

inductive Action (client op choice : Type) where
  | start (i : client) (o : op)
  | serve (i : client) (c : choice)

section Step

variable {client op state call choice result : Type} {answer : call -> Type}

/-- No operation has been started. -/
def new (s : state) : World client op state call answer result :=
  { shared := s, running := fun _ => none, log := [] }

variable [DecidableEq client]

/-- A program goes on, and its end is recorded at once. -/
def proceed (w : World client op state call answer result) (i : client) (o : op)
    (p : Program call answer result) (s : state) : World client op state call answer result :=
  match p with
  | .done r =>
      { shared := s, running := Function.update w.running i none, log := w.log ++ [(o, r)] }
  | .ask c next =>
      { shared := s, running := Function.update w.running i (some (o, .ask c next)), log := w.log }

variable (program : op -> Program call answer result)
  (serve : state -> choice -> (c : call) -> Option (answer c × state))

/-- A client starts an operation, or the server answers the question of one. -/
def step : StepFn (World client op state call answer result) (Action client op choice)
  | w, .start i o =>
      match w.running i with
      | some _ => none
      | none => some (w.proceed i o (program o) w.shared)
  | w, .serve i c =>
      match w.running i with
      | some (o, .ask question next) =>
          (serve w.shared c question).map fun p => w.proceed i o (next p.1) p.2
      | _ => none

end Step

end World

/-!
# Histories
-/

section Histories

variable {op result abs : Type} (does : op -> abs -> result -> abs -> Prop)

/-- Whole operations one after the other, each with its result. -/
inductive History (a : abs) : List (op × result) -> abs -> Prop where
  | nil : History a [] a
  | snoc {log : List (op × result)} {b c : abs} {o : op} {r : result}
      (h : History a log b) (hdoes : does o b r c) : History a (log ++ [(o, r)]) c

theorem History.invariant {does : op -> abs -> result -> abs -> Prop} {a b : abs}
    {log : List (op × result)} {Inv : List (op × result) -> abs -> Prop}
    (h : History does a log b) (hinit : Inv [] a)
    (hstep : forall log b o r c, Inv log b -> does o b r c -> Inv (log ++ [(o, r)]) c) :
    Inv log b := by
  induction h with
  | nil => exact hinit
  | snoc _ hdoes ih => exact hstep _ _ _ _ _ ih hdoes

/-- The last operation of a history. -/
theorem History.of_concat {does : op -> abs -> result -> abs -> Prop} {a c : abs}
    {log : List (op × result)} {o : op} {r : result} (h : History does a (log ++ [(o, r)]) c) :
    exists b, History does a log b ∧ does o b r c := by
  generalize hlog : log ++ [(o, r)] = whole at h
  cases h with
  | nil => exact absurd hlog (List.append_ne_nil_of_right_ne_nil log (List.cons_ne_nil _ _))
  | snoc h hdoes =>
      rcases List.append_inj' hlog rfl with ⟨rfl, hlast⟩
      cases hlast
      exact ⟨_, h, hdoes⟩

/-- What a step of an operation does: nothing before its end, and at its end all of it. -/
def Effect (o : op) (a : abs) : Option result -> abs -> Prop
  | none, b => b = a
  | some r, b => does o a r b

end Histories

/-!
# Programs that work at one point
-/

section Atomicity

variable {op state call choice result abs : Type} {answer : call -> Type}
  (serve : state -> choice -> (c : call) -> Option (answer c × state))
  (does : op -> abs -> result -> abs -> Prop) (abstract : state -> abs)

/-- Whatever is asked, by anyone. -/
def served : StepFn state (choice × call) :=
  fun s p => (serve s p.1 p.2).map Prod.snd

/-- The states that the server may be in later. -/
def Later : state -> state -> Prop :=
  StepFn.Reach (served serve) StepFn.Always

/-- From a state on, and whatever is asked by others in between, the program of an operation does
nothing but at its end. -/
def Atomic (o : op) : Program call answer result -> state -> Prop
  | .done _, _ => True
  | .ask c next, s =>
      forall t, Later serve s t -> forall choice answer u,
        serve t choice c = some (answer, u) ->
          Effect does o (abstract t) (next answer).finished (abstract u) ∧
            Atomic o (next answer) u

/-- A program that may already be done. -/
def Proceeds (o : op) (p : Program call answer result) (s : state) : Prop :=
  Effect does o (abstract s) p.finished (abstract s) ∧ Atomic serve does abstract o p s

def Implements (program : op -> Program call answer result) : Prop :=
  forall o s, Proceeds serve does abstract o (program o) s

variable {serve does abstract}

theorem Proceeds.done {o : op} {r : result} {s : state}
    (h : does o (abstract s) r (abstract s)) :
    Proceeds serve does abstract o (.done r : Program call answer result) s :=
  ⟨h, trivial⟩

theorem Proceeds.ask {o : op} {c : call} {next : answer c -> Program call answer result}
    {s : state} (h : Atomic serve does abstract o (.ask c next) s) :
    Proceeds serve does abstract o (.ask c next) s :=
  ⟨rfl, h⟩

theorem Later.refl (s : state) : Later serve s s :=
  StepFn.Reach.refl

theorem Later.trans {s t u : state} (hst : Later serve s t) (htu : Later serve t u) :
    Later serve s u :=
  StepFn.Reach.trans hst htu

theorem Later.of_serve {s t : state} {c : choice} {question : call} {a : answer question}
    (h : serve s c question = some (a, t)) : Later serve s t := by
  apply StepFn.Reach.tail (c, question) StepFn.Reach.refl trivial
  unfold served
  rw [h]
  rfl

/-- What every answer keeps holds later. -/
theorem Later.invariant {s t : state} {Inv : state -> Prop} (h : Later serve s t) (hinit : Inv s)
    (hserve : forall s c question a t, Inv s -> serve s c question = some (a, t) -> Inv t) :
    Inv t := by
  apply StepFn.Reach.invariant h hinit
  intro s p t hs _ hstep
  rcases Option.map_eq_some_iff.mp hstep with ⟨⟨a, t'⟩, hserved, heq⟩
  cases heq
  exact hserve s p.1 p.2 a t' hs hserved

theorem Atomic.later {o : op} {p : Program call answer result} {s t : state}
    (h : Atomic serve does abstract o p s) (hlater : Later serve s t) :
    Atomic serve does abstract o p t := by
  cases p with
  | done r => trivial
  | ask c next =>
      intro u hu
      exact h u (hlater.trans hu)

/-!
# Runs are histories
-/

variable {client : Type} {program : op -> Program call answer result}

/-- A run so far: a history, and programs that work at one point of what is left of them. -/
structure Linear (serve : state -> choice -> (c : call) -> Option (answer c × state))
    (does : op -> abs -> result -> abs -> Prop) (abstract : state -> abs) (a : abs)
    (w : World client op state call answer result) : Prop where
  history : History does a w.log (abstract w.shared)
  running : forall i o p, w.running i = some (o, p) -> Atomic serve does abstract o p w.shared

theorem Linear.new (s : state) :
    Linear serve does abstract (abstract s)
      (World.new s : World client op state call answer result) where
  history := History.nil
  running := by
    intro i o p hrunning
    cases hrunning

variable [DecidableEq client]

theorem Linear.proceed {a : abs} {w : World client op state call answer result} {i : client}
    {o : op} {p : Program call answer result} {s : state}
    (h : Linear serve does abstract a w) (hlater : Later serve w.shared s)
    (heffect : Effect does o (abstract w.shared) p.finished (abstract s))
    (hatomic : Atomic serve does abstract o p s) :
    Linear serve does abstract a (w.proceed i o p s) := by
  have hothers : forall j o' p', j ≠ i -> w.running j = some (o', p') ->
      Atomic serve does abstract o' p' s :=
    fun j o' p' _ hrunning => (h.running j o' p' hrunning).later hlater
  cases p with
  | done r =>
      constructor
      · exact h.history.snoc heffect
      · intro j o' p' hrunning
        by_cases hj : j = i
        · rw [World.proceed, hj] at hrunning
          simp at hrunning
        · simp only [World.proceed, Function.update_of_ne hj] at hrunning
          exact hothers j o' p' hj hrunning
  | ask c next =>
      have hsame : abstract s = abstract w.shared := heffect
      constructor
      · simp only [World.proceed]
        rw [hsame]
        exact h.history
      · intro j o' p' hrunning
        by_cases hj : j = i
        · simp only [World.proceed, hj, Function.update_self, Option.some.injEq,
            Prod.mk.injEq] at hrunning
          rcases hrunning with ⟨rfl, rfl⟩
          exact hatomic
        · simp only [World.proceed, Function.update_of_ne hj] at hrunning
          exact hothers j o' p' hj hrunning

theorem Linear.step {a : abs} {w w' : World client op state call answer result}
    {action : World.Action client op choice} (himplements : Implements serve does abstract program)
    (h : Linear serve does abstract a w)
    (hstep : World.step program serve w action = some w') :
    Linear serve does abstract a w' := by
  cases action with
  | start i o =>
      simp only [World.step] at hstep
      split at hstep
      · cases hstep
      · cases hstep
        have hprogram := himplements o w.shared
        exact h.proceed (Later.refl _) hprogram.1 hprogram.2
  | serve i c =>
      simp only [World.step] at hstep
      split at hstep
      · next o question next hrunning =>
          rcases Option.map_eq_some_iff.mp hstep with ⟨⟨answer, s⟩, hserved, rfl⟩
          have hatomic := h.running i o _ hrunning w.shared (Later.refl _) c answer s hserved
          exact h.proceed (Later.of_serve hserved) hatomic.1 hatomic.2
      · cases hstep

theorem linear_of_reach (himplements : Implements serve does abstract program) {s : state}
    {w : World client op state call answer result}
    (hreach : StepFn.Reach (World.step program serve) StepFn.Always (World.new s) w) :
    Linear serve does abstract (abstract s) w := by
  apply hreach.invariant (Linear.new s)
  intro w action w' h _ hstep
  exact h.step himplements hstep

/-- Every run of clients whose operations are implemented is a history of whole operations. -/
theorem linearizable (himplements : Implements serve does abstract program) {s : state}
    {w : World client op state call answer result}
    (hreach : StepFn.Reach (World.step program serve) StepFn.Always (World.new s) w) :
    History does (abstract s) w.log (abstract w.shared) :=
  (linear_of_reach himplements hreach).history

/-- A step records the one operation that it ends, or changes nothing. -/
def Records (does : op -> abs -> result -> abs -> Prop) (abstract : state -> abs)
    (w w' : World client op state call answer result) : Prop :=
  (w'.log = w.log ∧ abstract w'.shared = abstract w.shared) ∨
    exists o r, w'.log = w.log ++ [(o, r)] ∧ does o (abstract w.shared) r (abstract w'.shared)

theorem records_proceed (w : World client op state call answer result) (i : client) {o : op}
    {p : Program call answer result} {s : state}
    (heffect : Effect does o (abstract w.shared) p.finished (abstract s)) :
    Records does abstract w (w.proceed i o p s) := by
  cases p with
  | done r => exact Or.inr ⟨o, r, rfl, heffect⟩
  | ask c next => exact Or.inl ⟨rfl, heffect⟩

/-- What is recorded is recorded when it takes effect. -/
theorem step_records (himplements : Implements serve does abstract program) {s : state}
    {w w' : World client op state call answer result} {action : World.Action client op choice}
    (hreach : StepFn.Reach (World.step program serve) StepFn.Always (World.new s) w)
    (hstep : World.step program serve w action = some w') : Records does abstract w w' := by
  have h := linear_of_reach himplements hreach
  cases action with
  | start i o =>
      simp only [World.step] at hstep
      split at hstep
      · cases hstep
      · cases hstep
        exact records_proceed w i (himplements o w.shared).1
  | serve i c =>
      simp only [World.step] at hstep
      split at hstep
      · next o question next hrunning =>
          rcases Option.map_eq_some_iff.mp hstep with ⟨⟨answer, s⟩, hserved, rfl⟩
          have hatomic := h.running i o _ hrunning w.shared (Later.refl _) c answer s hserved
          exact records_proceed w i hatomic.1
      · cases hstep

end Atomicity

end Foundation
end CouchbaseSdk
