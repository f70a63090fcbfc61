import CouchbaseSdk.Foundation.Linearizable

/-!
# What a program asks

A program with a loop is cut off after so many rounds, and then it has no result.  A monitor watches
what a program asks and how it is answered.  It says at each point what may be asked, and a program
keeps to it if none of its runs asks anything else.
-/

namespace CouchbaseSdk
namespace Foundation

/-- What was asked, and the answer if there is one yet. -/
structure Asked (call : Type) (answer : call -> Type) where
  question : call
  reply : Option (answer question)

/-- A program that has a result unless it is cut off. -/
abbrev Calls (call : Type) (answer : call -> Type) (result : Type) :=
  Program call answer (Option result)

variable {call : Type} {answer : call -> Type} {alpha beta : Type}

namespace Calls

def give (a : alpha) : Calls call answer alpha :=
  .done (some a)

def cut : Calls call answer alpha :=
  .done none

def request (c : call) : Calls call answer (answer c) :=
  .ask c give

def bind : Calls call answer alpha -> (alpha -> Calls call answer beta) -> Calls call answer beta
  | .done (some a), f => f a
  | .done none, _ => cut
  | .ask c next, f => .ask c fun a => bind (next a) f

/-- The body is run again as long as it gives nothing. -/
def loop (body : Calls call answer (Option alpha)) : Nat -> Calls call answer alpha
  | 0 => cut
  | rounds + 1 => body.bind fun
      | some a => give a
      | none => loop body rounds

/-- The first thing that is given for one of the items, which are tried one after the other. -/
def firstOf {item : Type} (f : item -> Calls call answer (Option alpha)) :
    List item -> Calls call answer (Option alpha)
  | [] => give none
  | i :: rest => (f i).bind fun
      | some a => give (some a)
      | none => firstOf f rest

/-- A program whose questions are asked as others.  It is given up where there is no answer to what
it asked. -/
def embed {call' : Type} {answer' : call' -> Type} (as : call -> call')
    (read : (c : call) -> answer' (as c) -> Option (answer c)) :
    Calls call answer alpha -> Calls call' answer' (Option alpha)
  | .done (some a) => give (some a)
  | .done none => cut
  | .ask c next => .ask (as c) fun a =>
      match read c a with
      | some b => embed as read (next b)
      | none => give none

/-- A program so far: what it asked, and its result if it has come to one. -/
inductive Runs : Calls call answer alpha -> List (Asked call answer) -> Option alpha -> Prop where
  | gave (a : alpha) : Runs (give a) [] (some a)
  | soFar (p : Calls call answer alpha) : Runs p [] none
  | asked (c : call) (next : answer c -> Calls call answer alpha) :
      Runs (.ask c next) [{ question := c, reply := none }] none
  | answered {c : call} {next : answer c -> Calls call answer alpha}
      {trace : List (Asked call answer)} {result : Option alpha} (a : answer c)
      (h : Runs (next a) trace result) :
      Runs (.ask c next) ({ question := c, reply := some a } :: trace) result

/-- Only the last question of a run may be without an answer, and none is once there is a
result. -/
theorem Runs.replied {p : Calls call answer alpha} {trace : List (Asked call answer)}
    {result : Option alpha} (h : p.Runs trace result) :
    (forall asked, asked ∈ trace.dropLast -> asked.reply.isSome = true) ∧
      (result.isSome = true -> forall asked, asked ∈ trace -> asked.reply.isSome = true) := by
  induction h with
  | gave a => exact ⟨nofun, fun _ => nofun⟩
  | soFar p => exact ⟨nofun, nofun⟩
  | asked c next => exact ⟨nofun, nofun⟩
  | @answered c next trace result a h ih =>
      constructor
      · intro asked hasked
        cases trace with
        | nil => cases hasked
        | cons first rest =>
            rw [List.dropLast_cons_of_ne_nil (List.cons_ne_nil first rest)] at hasked
            rcases List.mem_cons.mp hasked with rfl | hrest
            · rfl
            · exact ih.1 asked hrest
      · intro hresult asked hasked
        rcases List.mem_cons.mp hasked with rfl | hrest
        · rfl
        · exact ih.2 hresult asked hrest

end Calls

/-!
# Monitors
-/

structure Monitor (call : Type) (answer : call -> Type) (state : Type) where
  allows : state -> call -> Prop
  after : state -> (c : call) -> answer c -> state

namespace Monitor

variable {state : Type} (m : Monitor call answer state)

def next (s : state) (asked : Asked call answer) : state :=
  asked.reply.elim s (m.after s asked.question)

/-- The state that a trace leads to. -/
def finish (s : state) (trace : List (Asked call answer)) : state :=
  trace.foldl m.next s

def Accepts : state -> List (Asked call answer) -> Prop
  | _, [] => True
  | s, asked :: trace => m.allows s asked.question ∧ Accepts (m.next s asked) trace

theorem finish_append (s : state) (front back : List (Asked call answer)) :
    m.finish s (front ++ back) = m.finish (m.finish s front) back :=
  List.foldl_append

theorem accepts_append (s : state) (front back : List (Asked call answer)) :
    m.Accepts s (front ++ back) <-> m.Accepts s front ∧ m.Accepts (m.finish s front) back := by
  induction front generalizing s with
  | nil =>
      rw [List.nil_append, Accepts, true_and]
      rfl
  | cons asked front ih =>
      rw [List.cons_append, Accepts, Accepts, ih, and_assoc]
      rfl

/-- Everything that is asked in an accepted trace is allowed in some state that has the invariant. -/
theorem Accepts.allowed_of (inv : state -> Prop)
    (hafter : forall s c a, inv s -> inv (m.after s c a)) {s : state}
    {trace : List (Asked call answer)} (hs : inv s) (h : m.Accepts s trace) :
    forall asked, asked ∈ trace -> exists t, inv t ∧ m.allows t asked.question := by
  induction trace generalizing s with
  | nil =>
      intro asked hasked
      cases hasked
  | cons first trace ih =>
      have hnext : inv (m.next s first) := by
        rcases first with ⟨c, reply⟩
        cases reply with
        | none => exact hs
        | some a => exact hafter s c a hs
      intro asked hasked
      rcases List.mem_cons.mp hasked with rfl | hrest
      · exact ⟨s, hs, h.1⟩
      · exact ih hnext h.2 asked hrest

theorem Accepts.allowed {s : state} {trace : List (Asked call answer)} (h : m.Accepts s trace) :
    forall asked, asked ∈ trace -> exists t, m.allows t asked.question := by
  intro asked hasked
  rcases Accepts.allowed_of m (fun _ => True) (fun _ _ _ _ => trivial) trivial h asked hasked with
    ⟨t, _, hallows⟩
  exact ⟨t, hallows⟩

/-- Traces of which each leads from what is kept to what is kept. -/
theorem accepts_flatten (inv : state -> Prop) {traces : List (List (Asked call answer))}
    (h : forall trace, trace ∈ traces -> forall s, inv s ->
      m.Accepts s trace ∧ inv (m.finish s trace)) {s : state} (hs : inv s) :
    m.Accepts s traces.flatten ∧ inv (m.finish s traces.flatten) := by
  induction traces generalizing s with
  | nil => exact ⟨trivial, hs⟩
  | cons trace traces ih =>
      have hfirst := h trace List.mem_cons_self s hs
      have hrest := ih (fun t ht => h t (List.mem_cons_of_mem _ ht)) hfirst.2
      rw [List.flatten_cons, accepts_append, finish_append]
      exact ⟨⟨hfirst.1, hrest.1⟩, hrest.2⟩

/-!
# Keeping to a monitor
-/

/-- From `s` on, only what is allowed is asked, whatever the answers are. -/
def Keeps (post : alpha -> state -> Prop) : Calls call answer alpha -> state -> Prop
  | .done (some a), s => post a s
  | .done none, _ => True
  | .ask c next, s => m.allows s c ∧ forall a, Keeps post (next a) (m.after s c a)

variable {m} {post : alpha -> state -> Prop}

theorem Keeps.give {a : alpha} {s : state} (h : post a s) : m.Keeps post (Calls.give a) s :=
  h

/-- A program that begins with a question. -/
theorem Keeps.asks {c : call} {f : answer c -> Calls call answer alpha} {s : state}
    (hallows : m.allows s c) (h : forall a, m.Keeps post (f a) (m.after s c a)) :
    m.Keeps post ((Calls.request c).bind f) s :=
  ⟨hallows, h⟩

theorem Keeps.bind {p : Calls call answer alpha} {f : alpha -> Calls call answer beta}
    {mid : alpha -> state -> Prop} {post : beta -> state -> Prop} {s : state}
    (h : m.Keeps mid p s) (hnext : forall a t, mid a t -> m.Keeps post (f a) t) :
    m.Keeps post (p.bind f) s := by
  induction p generalizing s with
  | done a =>
      cases a with
      | some a => exact hnext a s h
      | none => trivial
  | ask c next ih => exact ⟨h.1, fun a => ih a (h.2 a)⟩

/-- What is kept by the body of a loop is kept by the loop. -/
theorem Keeps.loop {body : Calls call answer (Option alpha)} (inv : state -> Prop)
    (h : forall s, inv s -> m.Keeps (fun a t => a.elim (inv t) fun a => post a t) body s)
    (rounds : Nat) {s : state} (hs : inv s) : m.Keeps post (Calls.loop body rounds) s := by
  induction rounds generalizing s with
  | zero => trivial
  | succ rounds ih =>
      apply (h s hs).bind
      intro a t ht
      cases a with
      | some a => exact ht
      | none => exact ih ht

/-- Items that are tried one after the other, where `inv` says what is so before the rest of them is
tried. -/
theorem Keeps.firstOf {item : Type} {f : item -> Calls call answer (Option alpha)}
    (inv : List item -> state -> Prop)
    (h : forall i rest s, inv (i :: rest) s ->
      m.Keeps (fun a t => a.elim (inv rest t) fun a => post a t) (f i) s)
    {items : List item} {s : state} (hs : inv items s) :
    m.Keeps (fun a t => a.elim (inv [] t) fun a => post a t) (Calls.firstOf f items) s := by
  induction items generalizing s with
  | nil => exact hs
  | cons i rest ih =>
      apply (h i rest s hs).bind
      intro a t ht
      cases a with
      | some a => exact ht
      | none => exact ih ht

/-- What an embedded program asks is allowed where its own monitor, as `lift` sees it, is part of
the other one. -/
theorem Keeps.embed {call' state' : Type} {answer' : call' -> Type}
    {m' : Monitor call' answer' state'} {as : call -> call'}
    {read : (c : call) -> answer' (as c) -> Option (answer c)}
    {mid : Option alpha -> state' -> Prop} (lift : state -> state')
    (hallows : forall s c, m.allows s c -> m'.allows (lift s) (as c))
    (hafter : forall s c a b, m.allows s c -> read c a = some b ->
      m'.after (lift s) (as c) a = lift (m.after s c b))
    (hgivenUp : forall s c a, m.allows s c -> read c a = none ->
      mid none (m'.after (lift s) (as c) a))
    (hdone : forall a s, post a s -> mid (some a) (lift s))
    {p : Calls call answer alpha} {s : state} (h : m.Keeps post p s) :
    m'.Keeps mid (p.embed as read) (lift s) := by
  induction p generalizing s with
  | done a =>
      cases a with
      | some a => exact hdone a s h
      | none => trivial
  | ask c next ih =>
      unfold Calls.embed
      constructor
      · exact hallows s c h.1
      intro a
      cases hread : read c a with
      | some b =>
          dsimp only
          rw [hafter s c a b h.1 hread, hread]
          exact ih b (h.2 b)
      | none =>
          dsimp only
          rw [hread]
          exact hgivenUp s c a h.1 hread

/-- Every run of a program that keeps to the monitor is accepted. -/
theorem Keeps.accepts {p : Calls call answer alpha} {s : state}
    {trace : List (Asked call answer)} {result : Option alpha} (h : m.Keeps post p s)
    (hruns : p.Runs trace result) :
    m.Accepts s trace ∧ forall a, result = some a -> post a (m.finish s trace) := by
  induction hruns generalizing s with
  | gave a =>
      refine ⟨trivial, ?_⟩
      intro b hb
      cases hb
      exact h
  | soFar p => exact ⟨trivial, nofun⟩
  | asked c next => exact ⟨⟨h.1, trivial⟩, nofun⟩
  | answered a _ ih =>
      have hrest := ih (h.2 a)
      exact ⟨⟨h.1, hrest.1⟩, hrest.2⟩

end Monitor
end Foundation
end CouchbaseSdk
