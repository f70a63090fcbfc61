import CouchbaseSdk.Foundation.Exec
import Mathlib.Data.List.Forall2

/-!
# Incremental decoders

A stream decoder is called on a growing buffer.  Each call takes one item off the
front, asks for more input, or fails.  This module develops the loop around such a
decoder and proves that its output depends on the bytes alone, not on the way
they were cut into chunks.
-/

namespace CouchbaseSdk
namespace Foundation

/-- A decoder together with the three facts the read loop relies on. -/
structure StreamDecoder (alpha error item : Type) where
  decode : List alpha -> Exec error (Option item) × List alpha
  /-- Asking for more input leaves the buffer alone. -/
  keeps : forall {buf rest}, decode buf = (.ok none, rest) -> rest = buf
  /-- An item takes at least one symbol off the buffer. -/
  shrinks : forall {buf rest i},
    decode buf = (.ok (some i), rest) -> rest.length < buf.length
  /-- Once a call has enough input, further input does not change its result. -/
  stable : forall {buf rest r} (more : List alpha),
    decode buf = (r, rest) -> r ≠ .ok none ->
      decode (buf ++ more) = (r, rest ++ more)

namespace StreamDecoder

variable {alpha error item : Type} (D : StreamDecoder alpha error item)

/-!
# Draining a buffer

The items at the front of the buffer, and how the loop stopped: with a residual
buffer that needs more input, with an error, or with a panic.
-/

def drain (buf : List alpha) : List item × Exec error (List alpha) :=
  match h : D.decode buf with
  | (.ok none, rest) => ([], .ok rest)
  | (.ok (some i), rest) =>
      have : rest.length < buf.length := D.shrinks h
      (i :: (drain rest).1, (drain rest).2)
  | (.err e, _) => ([], .err e)
  | (.panic, _) => ([], .panic)
termination_by buf.length

theorem drain_none {buf rest : List alpha} (h : D.decode buf = (.ok none, rest)) :
    D.drain buf = ([], .ok buf) := by
  rw [drain]
  split
  · rename_i rest' h'
    rw [D.keeps h']
  all_goals
    rename_i h'
    rw [h] at h'
    cases h'

theorem drain_some {buf rest : List alpha} {i : item}
    (h : D.decode buf = (.ok (some i), rest)) :
    D.drain buf = (i :: (D.drain rest).1, (D.drain rest).2) := by
  rw [drain]
  split
  · rename_i h'
    rw [h] at h'
    cases h'
  · rename_i i' rest' h'
    rw [h] at h'
    cases h'
    rfl
  all_goals
    rename_i h'
    rw [h] at h'
    cases h'

theorem drain_err {buf rest : List alpha} {e : error}
    (h : D.decode buf = (.err e, rest)) :
    D.drain buf = ([], .err e) := by
  rw [drain]
  split <;> rename_i h' <;> rw [h] at h' <;> cases h'
  rfl

theorem drain_panic {buf rest : List alpha} (h : D.decode buf = (.panic, rest)) :
    D.drain buf = ([], .panic) := by
  rw [drain]
  split <;> rename_i h' <;> rw [h] at h' <;> cases h'

/-- What is left after a drain is a buffer on which the decoder asks for more. -/
theorem drain_rest {buf rest : List alpha} {items : List item}
    (h : D.drain buf = (items, .ok rest)) :
    D.decode rest = (.ok none, rest) := by
  induction hn : buf.length using Nat.strongRecOn generalizing buf items with
  | ind n ih =>
      subst hn
      cases hd : D.decode buf with
      | mk r tail =>
          match r with
          | .ok none =>
              have hkeep := D.keeps hd
              rw [D.drain_none hd] at h
              cases h
              rw [hd, hkeep]
          | .ok (some i) =>
              rw [D.drain_some hd] at h
              have hstop : (D.drain tail).2 = .ok rest := congrArg Prod.snd h
              have htail : D.drain tail = ((D.drain tail).1, .ok rest) :=
                Prod.ext rfl hstop
              exact ih tail.length (D.shrinks hd) htail rfl
          | .err e =>
              rw [D.drain_err hd] at h
              cases h
          | .panic =>
              rw [D.drain_panic hd] at h
              cases h

/-- Continue a drain that stopped for lack of input. -/
def resume (first : List item × Exec error (List alpha))
    (next : List alpha -> List item × Exec error (List alpha)) :
    List item × Exec error (List alpha) :=
  match first with
  | (items, .ok rest) => (items ++ (next rest).1, (next rest).2)
  | (items, .err e) => (items, .err e)
  | (items, .panic) => (items, .panic)

theorem resume_cons (i : item) (first : List item × Exec error (List alpha))
    (next : List alpha -> List item × Exec error (List alpha)) :
    resume (i :: first.1, first.2) next =
      (i :: (resume first next).1, (resume first next).2) := by
  rcases first with ⟨items, stop⟩
  cases stop with
  | ok rest => rfl
  | err e => rfl
  | panic => rfl

theorem drain_append (x y : List alpha) :
    D.drain (x ++ y) = resume (D.drain x) (fun rest => D.drain (rest ++ y)) := by
  induction hn : x.length using Nat.strongRecOn generalizing x with
  | ind n ih =>
      subst hn
      cases hd : D.decode x with
      | mk r tail =>
          match r with
          | .ok none =>
              rw [D.drain_none hd]
              rfl
          | .ok (some i) =>
              have hxy := D.stable y hd (by intro h; cases h)
              rw [D.drain_some hxy, D.drain_some hd, resume_cons,
                ih tail.length (D.shrinks hd) tail rfl]
          | .err e =>
              have hxy := D.stable y hd (by intro h; cases h)
              rw [D.drain_err hxy, D.drain_err hd]
              rfl
          | .panic =>
              have hxy := D.stable y hd (by intro h; cases h)
              rw [D.drain_panic hxy, D.drain_panic hd]
              rfl

/-!
# Feeding chunks

Append a chunk, drain, carry the residual buffer to the next chunk.
-/

def feed : List alpha -> List (List alpha) -> List item × Exec error (List alpha)
  | buf, [] => ([], .ok buf)
  | buf, chunk :: chunks => resume (D.drain (buf ++ chunk)) (fun rest => feed rest chunks)

theorem resume_congr {first : List item × Exec error (List alpha)}
    {next next' : List alpha -> List item × Exec error (List alpha)}
    (h : forall rest, first.2 = .ok rest -> next rest = next' rest) :
    resume first next = resume first next' := by
  rcases first with ⟨items, stop⟩
  cases stop with
  | ok rest => simp only [resume, h rest rfl]
  | err e => rfl
  | panic => rfl

/-- Feeding chunks gives what one drain of the whole input gives. -/
theorem feed_eq_drain {buf : List alpha} (chunks : List (List alpha))
    (h : D.decode buf = (.ok none, buf)) :
    D.feed buf chunks = D.drain (buf ++ chunks.flatten) := by
  induction chunks generalizing buf with
  | nil =>
      rw [List.flatten_nil, List.append_nil, D.drain_none h]
      rfl
  | cons chunk chunks ih =>
      rw [feed, List.flatten_cons, ← List.append_assoc,
        D.drain_append (buf ++ chunk)]
      apply resume_congr
      intro rest hrest
      exact ih (D.drain_rest (Prod.ext rfl hrest))

/-- A string that the decoder takes, whole and alone, as one item. -/
def Decodes (frame : List alpha) (i : item) : Prop :=
  D.decode frame = (.ok (some i), [])

theorem drain_frames {frames : List (List alpha)} {items : List item}
    (hframes : List.Forall₂ D.Decodes frames items) (tail : List alpha) :
    D.drain (frames.flatten ++ tail) =
      (items ++ (D.drain tail).1, (D.drain tail).2) := by
  induction hframes with
  | nil => rfl
  | @cons frame i frames items hframe _ ih =>
      have hdecode := D.stable (frames.flatten ++ tail) hframe (by intro h; cases h)
      rw [List.flatten_cons, List.append_assoc, D.drain_some hdecode]
      simp only [List.nil_append, List.cons_append, ih]

/-- Every cut of a sequence of frames into chunks yields their items, in order. -/
theorem feed_frames {frames chunks : List (List alpha)} {items : List item}
    (hempty : D.decode [] = (.ok none, []))
    (hframes : List.Forall₂ D.Decodes frames items)
    (hchunks : chunks.flatten = frames.flatten) :
    D.feed [] chunks = (items, .ok []) := by
  have hdrain := D.drain_frames hframes []
  rw [D.feed_eq_drain chunks hempty, List.nil_append, hchunks]
  rw [List.append_nil, D.drain_none hempty] at hdrain
  simpa using hdrain

end StreamDecoder
end Foundation
end CouchbaseSdk
