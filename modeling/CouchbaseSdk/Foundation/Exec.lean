import Mathlib.Logic.Basic

/-!
# Executions that return, fail or panic

A fallible function has three ways to end: it returns a value, it returns an
error to its caller, or it aborts.  The last one is kept apart from the second,
because an error is an answer and an abort is not: a proof that a function is
total has to rule out only the abort.
-/

namespace CouchbaseSdk
namespace Foundation

inductive Exec (error value : Type _) where
  | ok (v : value)
  | err (e : error)
  | panic
deriving DecidableEq, Repr

namespace Exec

def bind : Exec error value -> (value -> Exec error result) -> Exec error result
  | ok v, f => f v
  | err e, _ => err e
  | panic, _ => panic

def map (f : value -> result) : Exec error value -> Exec error result
  | ok v => ok (f v)
  | err e => err e
  | panic => panic

instance : Monad (Exec error) where
  pure := ok
  bind := bind

/-- The result of a total fallible function, seen as an execution. -/
def ofExcept : Except error value -> Exec error value
  | .ok v => ok v
  | .error e => err e

/-- The execution came to an end with a value or with an error. -/
def Returns : Exec error value -> Prop
  | ok _ => True
  | err _ => True
  | panic => False

instance decidableReturns (x : Exec error value) : Decidable x.Returns :=
  match x with
  | ok _ => isTrue trivial
  | err _ => isTrue trivial
  | panic => isFalse id

@[simp] theorem returns_ok (v : value) :
    (ok v : Exec error value).Returns := trivial

@[simp] theorem returns_err (e : error) :
    (err e : Exec error value).Returns := trivial

@[simp] theorem not_returns_panic :
    ¬ (panic : Exec error value).Returns := id

@[simp] theorem pure_eq_ok (v : value) :
    (pure v : Exec error value) = ok v := rfl

@[simp] theorem ok_bind (v : value) (f : value -> Exec error result) :
    (ok v >>= f) = f v := rfl

@[simp] theorem err_bind (e : error) (f : value -> Exec error result) :
    (err e >>= f) = err e := rfl

@[simp] theorem panic_bind (f : value -> Exec error result) :
    (panic >>= f) = panic := rfl

@[simp] theorem map_ok (f : value -> result) (v : value) :
    map f (ok v : Exec error value) = ok (f v) := rfl

@[simp] theorem map_err (f : value -> result) (e : error) :
    map f (err e : Exec error value) = err e := rfl

@[simp] theorem map_panic (f : value -> result) :
    map f (panic : Exec error value) = panic := rfl

@[simp] theorem ofExcept_ok (v : value) :
    ofExcept (.ok v : Except error value) = ok v := rfl

@[simp] theorem ofExcept_error (e : error) :
    ofExcept (.error e : Except error value) = err e := rfl

theorem bind_pure_eq_map (x : Exec error value) (f : value -> result) :
    (x >>= fun v => pure (f v)) = x.map f := by
  cases x with
  | ok v => rfl
  | err e => rfl
  | panic => rfl

theorem bind_eq_ok {x : Exec error value} {f : value -> Exec error result} {r : result}
    (h : (x >>= f) = ok r) : exists v, x = ok v ∧ f v = ok r := by
  cases x with
  | ok v => exact ⟨v, rfl, h⟩
  | err e => cases h
  | panic => cases h

theorem returns_map (x : Exec error value) (f : value -> result) :
    (x.map f).Returns <-> x.Returns := by
  cases x with
  | ok v => exact Iff.rfl
  | err e => exact Iff.rfl
  | panic => exact Iff.rfl

theorem map_eq_ok {f : value -> result} {x : Exec error value} {r : result} :
    map f x = ok r <-> exists v, x = ok v ∧ f v = r := by
  cases x with
  | ok v => simp
  | err e => simp
  | panic => simp

end Exec
end Foundation
end CouchbaseSdk
