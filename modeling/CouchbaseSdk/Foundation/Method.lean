import Mathlib.Logic.Basic
import Mathlib.Logic.Function.Iterate

/-!
# Methods

A method works on a receiver that it may change.  It returns a value or an error, and the
receiver stays changed in both cases; or it aborts.  Two methods over different receivers
are compared by a relation of the receivers: they are related when they give the same answer
and leave related receivers behind.
-/

namespace CouchbaseSdk
namespace Foundation

def Method (receiver error value : Type) :=
  receiver -> Option (Except error value × receiver)

namespace Method

variable {receiver inner error value result : Type}

def ret (v : value) : Method receiver error value :=
  fun x => some (.ok v, x)

def fail (e : error) : Method receiver error value :=
  fun x => some (.error e, x)

def abort : Method receiver error value :=
  fun _ => none

def andThen (m : Method receiver error value) (f : value -> Method receiver error result) :
    Method receiver error result :=
  fun x =>
    match m x with
    | some (.ok v, y) => f v y
    | some (.error e, y) => some (.error e, y)
    | none => none

instance : Monad (Method receiver error) where
  pure := ret
  bind := andThen

/-- Look at the receiver. -/
def gets (f : receiver -> value) : Method receiver error value :=
  fun x => some (.ok (f x), x)

/-- Change the receiver. -/
def update (f : receiver -> receiver) : Method receiver error Unit :=
  fun x => some (.ok (), f x)

def ofExcept : Except error value -> Method receiver error value
  | .ok v => ret v
  | .error e => fail e

/-- A method of a part of the receiver. -/
def within (part : receiver -> inner) (put : inner -> receiver -> receiver)
    (m : Method inner error value) : Method receiver error value :=
  fun x =>
    match m (part x) with
    | some (res, y) => some (res, put y x)
    | none => none

/-!
# Running a method
-/

@[simp] theorem pure_apply (v : value) (x : receiver) :
    (pure v : Method receiver error value) x = some (.ok v, x) := rfl

@[simp] theorem gets_apply (f : receiver -> value) (x : receiver) :
    (gets f : Method receiver error value) x = some (.ok (f x), x) := rfl

@[simp] theorem update_apply (f : receiver -> receiver) (x : receiver) :
    (update f : Method receiver error Unit) x = some (.ok (), f x) := rfl

theorem bind_ok {m : Method receiver error value} {x y : receiver} {v : value}
    (f : value -> Method receiver error result) (h : m x = some (.ok v, y)) :
    (m >>= f) x = f v y := by
  change andThen m f x = f v y
  rw [andThen, h]

theorem bind_error {m : Method receiver error value} {x y : receiver} {e : error}
    (f : value -> Method receiver error result) (h : m x = some (.error e, y)) :
    (m >>= f) x = some (.error e, y) := by
  change andThen m f x = some (.error e, y)
  rw [andThen, h]

/-- What a call in two parts came from that has returned. -/
theorem bind_eq_ok {m : Method receiver error value} {f : value -> Method receiver error result}
    {x z : receiver} {w : result} (h : (m >>= f) x = some (.ok w, z)) :
    exists v y, m x = some (.ok v, y) ∧ f v y = some (.ok w, z) := by
  rcases hm : m x with _ | ⟨e | v, y⟩
  · change andThen m f x = _ at h
    rw [andThen, hm] at h
    cases h
  · rw [bind_error f hm] at h
    cases h
  · rw [bind_ok f hm] at h
    exact ⟨v, y, rfl, h⟩

theorem within_some {m : Method inner error value} {part : receiver -> inner} {x : receiver}
    {y : inner} {res : Except error value} (put : inner -> receiver -> receiver)
    (h : m (part x) = some (res, y)) : within part put m x = some (res, put y x) := by
  rw [within, h]

/-!
# Failing
-/

/-- The call comes to an error. -/
def Fails (m : Method receiver error value) (x : receiver) : Prop :=
  exists e y, m x = some (.error e, y)

theorem fails_fail (e : error) (x : receiver) :
    Fails (fail e : Method receiver error value) x := ⟨e, x, rfl⟩

theorem Fails.of_eq {m n : Method receiver error value} {x y : receiver} (heq : m x = n y)
    (h : Fails n y) : Fails m x := by
  unfold Fails
  rw [heq]
  exact h

theorem Fails.bind {m : Method receiver error value} {x : receiver} (h : Fails m x)
    (f : value -> Method receiver error result) : Fails (m >>= f) x := by
  rcases h with ⟨e, y, h⟩
  exact ⟨e, y, bind_error f h⟩

theorem fails_bind {m : Method receiver error value} {x y : receiver} {v : value}
    {f : value -> Method receiver error result} (h : m x = some (.ok v, y))
    (hf : Fails (f v) y) : Fails (m >>= f) x := by
  rcases hf with ⟨e, z, hf⟩
  refine ⟨e, z, ?_⟩
  rw [bind_ok f h, hf]

theorem Fails.within {m : Method inner error value} {part : receiver -> inner} {x : receiver}
    (h : Fails m (part x)) (put : inner -> receiver -> receiver) :
    Fails (Method.within part put m) x := by
  rcases h with ⟨e, y, h⟩
  exact ⟨e, put y x, within_some put h⟩

/-- The call comes to an error and leaves a receiver of `P` behind. -/
def FailsInto (P : receiver -> Prop) (m : Method receiver error value) (x : receiver) : Prop :=
  exists e y, m x = some (.error e, y) ∧ P y

namespace FailsInto

variable {P Q : receiver -> Prop}

theorem fail (e : error) {x : receiver} (h : P x) :
    FailsInto P (Method.fail e : Method receiver error value) x := ⟨e, x, rfl, h⟩

theorem mono {m : Method receiver error value} {x : receiver} (h : FailsInto P m x)
    (hPQ : forall y, P y -> Q y) : FailsInto Q m x := by
  rcases h with ⟨e, y, h, hy⟩
  exact ⟨e, y, h, hPQ y hy⟩

theorem of_eq {m n : Method receiver error value} {x y : receiver} (heq : m x = n y)
    (h : FailsInto P n y) : FailsInto P m x := by
  unfold FailsInto
  rw [heq]
  exact h

theorem bind {m : Method receiver error value} {x : receiver} (h : FailsInto P m x)
    (f : value -> Method receiver error result) : FailsInto P (m >>= f) x := by
  rcases h with ⟨e, y, h, hy⟩
  exact ⟨e, y, bind_error f h, hy⟩

theorem bind_ok {m : Method receiver error value} {x y : receiver} {v : value}
    {f : value -> Method receiver error result} (h : m x = some (.ok v, y))
    (hf : FailsInto P (f v) y) : FailsInto P (m >>= f) x :=
  of_eq (Method.bind_ok f h) hf

theorem within {T : inner -> Prop} {m : Method inner error value} {part : receiver -> inner}
    {put : inner -> receiver -> receiver} {x : receiver} (h : FailsInto T m (part x))
    (hput : forall i, T i -> P (put i x)) : FailsInto P (Method.within part put m) x := by
  rcases h with ⟨e, i, h, hi⟩
  exact ⟨e, put i x, within_some put h, hput i hi⟩

end FailsInto

/-!
# Returning
-/

section Returns

variable (R : receiver -> Prop)

/-- The end of a call: a value, with a receiver of `Q`, or an error, with a receiver of `R`. -/
def EndsWith (Q : value -> receiver -> Prop) : Option (Except error value × receiver) -> Prop
  | some (.ok v, x) => Q v x
  | some (.error _, x) => R x
  | none => False

/-- Called on a receiver of `P`, the method does not abort. -/
def Returns (P : receiver -> Prop) (Q : value -> receiver -> Prop)
    (m : Method receiver error value) : Prop :=
  forall x, P x -> EndsWith R Q (m x)

variable {R} {R' P P' : receiver -> Prop} {Q Q' : value -> receiver -> Prop}

namespace Returns

theorem mono {m : Method receiver error value} (h : Returns R P Q m)
    (hR : forall x, R x -> R' x) (hP : forall x, P' x -> P x)
    (hQ : forall v x, Q v x -> Q' v x) : Returns R' P' Q' m := by
  intro x hx
  have hend := h x (hP x hx)
  match m x, hend with
  | some (.ok v, y), h => exact hQ v y h
  | some (.error e, y), h => exact hR y h

theorem of_pre {m : Method receiver error value} (h : Returns R P Q m)
    (hP : forall x, P' x -> P x) : Returns R P' Q m :=
  h.mono (fun _ h => h) hP fun _ _ h => h

theorem exists_pre {index : Type} {P : index -> receiver -> Prop}
    {m : Method receiver error value} (h : forall i, Returns R (P i) Q m) :
    Returns R (fun x => exists i, P i x) Q m := by
  rintro x ⟨i, hx⟩
  exact h i x hx

theorem pure {v : value} (h : forall x, P x -> Q v x) :
    Returns R P Q (Pure.pure v : Method receiver error value) := h

theorem fail {e : error} (h : forall x, P x -> R x) :
    Returns R P Q (Method.fail e : Method receiver error value) := h

theorem ofExcept {r : Except error value} (hR : forall x, P x -> R x)
    (hQ : forall v x, P x -> Q v x) :
    Returns R P Q (Method.ofExcept r : Method receiver error value) := by
  cases r with
  | ok v => exact hQ v
  | error e => exact hR

theorem gets (f : receiver -> value) :
    Returns R P (fun v x => P x ∧ v = f x) (Method.gets f : Method receiver error value) :=
  fun _ hx => ⟨hx, rfl⟩

theorem update {f : receiver -> receiver} (h : forall x, P x -> P' (f x)) :
    Returns R P (fun _ => P') (Method.update f : Method receiver error Unit) := h

theorem ite {c : Prop} [Decidable c] {m n : Method receiver error value}
    (hm : c -> Returns R P Q m) (hn : ¬ c -> Returns R P Q n) :
    Returns R P Q (if c then m else n) := by
  split
  · next h => exact hm h
  · next h => exact hn h

theorem bind {m : Method receiver error value} {f : value -> Method receiver error result}
    {S : result -> receiver -> Prop} (hm : Returns R P Q m)
    (hf : forall v, Returns R (Q v) S (f v)) : Returns R P S (m >>= f) := by
  intro x hx
  have hend := hm x hx
  change EndsWith R S (andThen m f x)
  unfold andThen
  match m x, hend with
  | some (.ok v, y), h => exact hf v y h
  | some (.error e, y), h => exact h

theorem within {T U : inner -> Prop} {V : value -> inner -> Prop} {m : Method inner error value}
    {part : receiver -> inner} {put : inner -> receiver -> receiver} (hm : Returns T U V m)
    (hpart : forall x, P x -> U (part x))
    (herror : forall x i, P x -> T i -> R (put i x))
    (hput : forall v x i, P x -> V v i -> Q v (put i x)) :
    Returns R P Q (Method.within part put m) := by
  intro x hx
  have hend := hm (part x) (hpart x hx)
  unfold Method.within
  match m (part x), hend with
  | some (.ok v, i), h => exact hput v x i hx h
  | some (.error e, i), h => exact herror x i hx h

end Returns
end Returns

/-!
# Related methods
-/

section Related

variable {other otherInner : Type} (R : receiver -> other -> Prop)

/-- The ends of two calls: the same value, with receivers related by `Q`; the same error, with
receivers related by `R`; or both aborted. -/
def SameEnd (Q : value -> receiver -> other -> Prop) :
    Option (Except error value × receiver) -> Option (Except error value × other) -> Prop
  | some (.ok v, x), some (.ok w, y) => v = w ∧ Q v x y
  | some (.error e, x), some (.error f, y) => e = f ∧ R x y
  | none, none => True
  | _, _ => False

/-- Called on receivers related by `P`, the methods come to the same end. -/
def Related (P : receiver -> other -> Prop) (Q : value -> receiver -> other -> Prop)
    (m : Method receiver error value) (m' : Method other error value) : Prop :=
  forall x y, P x y -> SameEnd R Q (m x) (m' y)

variable {R} {P P' : receiver -> other -> Prop} {Q Q' : value -> receiver -> other -> Prop}

theorem SameEnd.mono {a : Option (Except error value × receiver)}
    {b : Option (Except error value × other)} (h : SameEnd R Q a b)
    (hQ : forall v x y, Q v x y -> Q' v x y) : SameEnd R Q' a b := by
  match a, b, h with
  | some (.ok v, x), some (.ok w, y), h => exact ⟨h.1, hQ v x y h.2⟩
  | some (.error e, x), some (.error f, y), h => exact h
  | none, none, h => exact h

namespace Related

theorem mono {m : Method receiver error value} {m' : Method other error value}
    (h : Related R P Q m m') (hP : forall x y, P' x y -> P x y)
    (hQ : forall v x y, Q v x y -> Q' v x y) : Related R P' Q' m m' := by
  intro x y hxy
  exact (h x y (hP x y hxy)).mono hQ

theorem of_pre {m : Method receiver error value} {m' : Method other error value}
    (h : Related R P Q m m') (hP : forall x y, P' x y -> P x y) : Related R P' Q m m' :=
  h.mono hP fun _ _ _ hQ => hQ

theorem pure {v : value} (h : forall x y, P x y -> Q v x y) :
    Related R P Q (Pure.pure v : Method receiver error value) (Pure.pure v) := by
  intro x y hxy
  exact ⟨rfl, h x y hxy⟩

theorem fail {e : error} (h : forall x y, P x y -> R x y) :
    Related R P Q (Method.fail e : Method receiver error value) (Method.fail e) := by
  intro x y hxy
  exact ⟨rfl, h x y hxy⟩

theorem abort : Related R P Q (Method.abort : Method receiver error value) Method.abort :=
  fun _ _ _ => trivial

theorem ofExcept {r : Except error value} (hR : forall x y, P x y -> R x y)
    (hQ : forall v x y, P x y -> Q v x y) :
    Related R P Q (Method.ofExcept r : Method receiver error value) (Method.ofExcept r) := by
  cases r with
  | ok v => exact pure (hQ v)
  | error e => exact fail hR

theorem gets {f : receiver -> value} {g : other -> value}
    (hfg : forall x y, P x y -> f x = g y) :
    Related R P (fun v x y => P x y ∧ v = f x) (Method.gets f : Method receiver error value)
      (Method.gets g) := by
  intro x y hxy
  exact ⟨hfg x y hxy, hxy, rfl⟩

theorem update {f : receiver -> receiver} {g : other -> other}
    (hfg : forall x y, P x y -> P' (f x) (g y)) :
    Related R P (fun _ => P') (Method.update f : Method receiver error Unit)
      (Method.update g) := by
  intro x y hxy
  exact ⟨rfl, hfg x y hxy⟩

theorem ite {c : Prop} [Decidable c] {m n : Method receiver error value}
    {m' n' : Method other error value} (hm : Related R P Q m m') (hn : Related R P Q n n') :
    Related R P Q (if c then m else n) (if c then m' else n') := by
  split
  · exact hm
  · exact hn

theorem bind {m : Method receiver error value} {m' : Method other error value}
    {f : value -> Method receiver error result} {f' : value -> Method other error result}
    {S : result -> receiver -> other -> Prop} (hm : Related R P Q m m')
    (hf : forall v, Related R (Q v) S (f v) (f' v)) : Related R P S (m >>= f) (m' >>= f') := by
  intro x y hxy
  have hend := hm x y hxy
  change SameEnd R S (andThen m f x) (andThen m' f' y)
  unfold andThen
  match m x, m' y, hend with
  | some (.ok v, _), some (.ok _, _), ⟨rfl, hQ⟩ => exact hf v _ _ hQ
  | some (.error _, _), some (.error _, _), h => exact h
  | none, none, _ => trivial

theorem within {T : inner -> otherInner -> Prop} {U : inner -> otherInner -> Prop}
    {V : value -> inner -> otherInner -> Prop} {m : Method inner error value}
    {m' : Method otherInner error value} {part : receiver -> inner}
    {part' : other -> otherInner} {put : inner -> receiver -> receiver}
    {put' : otherInner -> other -> other} (hm : Related T U V m m')
    (hpart : forall x y, P x y -> U (part x) (part' y))
    (herror : forall x y i j, P x y -> T i j -> R (put i x) (put' j y))
    (hput : forall v x y i j, P x y -> V v i j -> Q v (put i x) (put' j y)) :
    Related R P Q (Method.within part put m) (Method.within part' put' m') := by
  intro x y hxy
  have hend := hm (part x) (part' y) (hpart x y hxy)
  unfold Method.within
  match m (part x), m' (part' y), hend with
  | some (.ok v, i), some (.ok _, j), ⟨rfl, hV⟩ => exact ⟨rfl, hput v x y i j hxy hV⟩
  | some (.error _, i), some (.error _, j), ⟨rfl, hT⟩ => exact ⟨rfl, herror x y i j hxy hT⟩
  | none, none, _ => trivial

end Related
end Related

/-!
# Sizes
-/

section Size

variable {size : receiver -> Nat}

/-- However the call ends, the receiver is no bigger behind it. -/
def NeverGrows (size : receiver -> Nat) (m : Method receiver error value) : Prop :=
  forall x res y, m x = some (res, y) -> size y ≤ size x

/-- However the call on the receiver ends, it is smaller behind it. -/
def Shrinks (size : receiver -> Nat) (m : Method receiver error value) (x : receiver) : Prop :=
  forall res y, m x = some (res, y) -> size y < size x

namespace NeverGrows

theorem pure (v : value) : NeverGrows size (Pure.pure v : Method receiver error value) := by
  intro x res y h
  cases h
  exact Nat.le_refl _

theorem fail (e : error) : NeverGrows size (Method.fail e : Method receiver error value) := by
  intro x res y h
  cases h
  exact Nat.le_refl _

theorem abort : NeverGrows size (Method.abort : Method receiver error value) := by
  intro x res y h
  cases h

theorem gets (f : receiver -> value) :
    NeverGrows size (Method.gets f : Method receiver error value) := by
  intro x res y h
  cases h
  exact Nat.le_refl _

theorem update {f : receiver -> receiver} (hf : forall x, size (f x) ≤ size x) :
    NeverGrows size (Method.update f : Method receiver error Unit) := by
  intro x res y h
  cases h
  exact hf x

theorem ofExcept (r : Except error value) :
    NeverGrows size (Method.ofExcept r : Method receiver error value) := by
  cases r with
  | ok v => exact pure v
  | error e => exact fail e

theorem ite {c : Prop} [Decidable c] {m n : Method receiver error value}
    (hm : NeverGrows size m) (hn : NeverGrows size n) : NeverGrows size (if c then m else n) := by
  split
  · exact hm
  · exact hn

theorem bind {m : Method receiver error value} {f : value -> Method receiver error result}
    (hm : NeverGrows size m) (hf : forall v, NeverGrows size (f v)) :
    NeverGrows size (m >>= f) := by
  intro x res y h
  rcases hend : m x with _ | ⟨v | e, z⟩
  · change andThen m f x = _ at h
    rw [andThen, hend] at h
    cases h
  · rw [bind_error f hend] at h
    cases h
    exact hm x _ _ hend
  · rw [bind_ok f hend] at h
    exact Nat.le_trans (hf _ z res y h) (hm x _ _ hend)

theorem within {sizeInner : inner -> Nat} {m : Method inner error value}
    (hm : NeverGrows sizeInner m) {part : receiver -> inner} {put : inner -> receiver -> receiver}
    (hput : forall x i, sizeInner i ≤ sizeInner (part x) -> size (put i x) ≤ size x) :
    NeverGrows size (Method.within part put m) := by
  intro x res y h
  unfold Method.within at h
  rcases hend : m (part x) with _ | ⟨res', i⟩
  · rw [hend] at h
    cases h
  · rw [hend] at h
    cases h
    exact hput x i (hm _ _ _ hend)

end NeverGrows

namespace Shrinks

theorem of_eq {m : Method receiver error value} {x y : receiver} {res : Except error value}
    (h : m x = some (res, y)) (hlt : size y < size x) : Shrinks size m x := by
  intro res' y' h'
  rw [h, Option.some.injEq, Prod.mk.injEq] at h'
  rw [← h'.2]
  exact hlt

theorem of_call {m n : Method receiver error value} {x y : receiver} (heq : m x = n y)
    (hle : size y ≤ size x) (h : Shrinks size n y) : Shrinks size m x := by
  intro res z hz
  rw [heq] at hz
  exact Nat.lt_of_lt_of_le (h res z hz) hle

/-- The first part of a call makes the receiver smaller. -/
theorem bind {m : Method receiver error value} {x : receiver} (hm : Shrinks size m x)
    {f : value -> Method receiver error result} (hf : forall v, NeverGrows size (f v)) :
    Shrinks size (m >>= f) x := by
  intro res y h
  rcases hend : m x with _ | ⟨v | e, z⟩
  · change andThen m f x = _ at h
    rw [andThen, hend] at h
    cases h
  · rw [bind_error f hend] at h
    cases h
    exact hm _ _ hend
  · rw [bind_ok f hend] at h
    exact Nat.lt_of_le_of_lt (hf _ z res y h) (hm _ _ hend)

/-- The rest of a call makes it smaller. -/
theorem bind_ok {m : Method receiver error value} {x y : receiver} {v : value}
    {f : value -> Method receiver error result} (h : m x = some (.ok v, y))
    (hle : size y ≤ size x) (hf : Shrinks size (f v) y) : Shrinks size (m >>= f) x := by
  intro res z hz
  rw [Method.bind_ok f h] at hz
  exact Nat.lt_of_lt_of_le (hf _ _ hz) hle

theorem within {sizeInner : inner -> Nat} {m : Method inner error value} {part : receiver -> inner}
    {x : receiver} (hm : Shrinks sizeInner m (part x)) {put : inner -> receiver -> receiver}
    (hput : forall i, sizeInner i < sizeInner (part x) -> size (put i x) < size x) :
    Shrinks size (Method.within part put m) x := by
  intro res y h
  unfold Method.within at h
  rcases hend : m (part x) with _ | ⟨res', i⟩
  · rw [hend] at h
    cases h
  · rw [hend] at h
    cases h
    exact hput i (hm _ _ hend)

end Shrinks
end Size

/-!
# Repeated calls
-/

section Repeated

/-- The receiver behind a call, however the call ends. -/
def after (m : Method receiver error value) (x : receiver) : receiver :=
  match m x with
  | some (_, y) => y
  | none => x

theorem after_eq {m : Method receiver error value} {x y : receiver} {res : Except error value}
    (h : m x = some (res, y)) : m.after x = y := by
  rw [after, h]

theorem FailsInto.after {P : receiver -> Prop} {m : Method receiver error value} {x : receiver}
    (h : FailsInto P m x) : P (m.after x) := by
  rcases h with ⟨e, y, h, hy⟩
  rw [after_eq h]
  exact hy

theorem Shrinks.after {size : receiver -> Nat} {m : Method receiver error value} {x : receiver}
    (h : Shrinks size m x) (hreturns : m x ≠ none) : size (m.after x) < size x := by
  rcases hm : m x with _ | ⟨res, y⟩
  · exact absurd hm hreturns
  · rw [after_eq hm]
    exact h res y hm

theorem Returns.after {P : receiver -> Prop} {m : Method receiver error value} {x : receiver}
    (h : Returns P P (fun _ => P) m) (hx : P x) : m x ≠ none ∧ P (m.after x) := by
  have hend := h x hx
  unfold Method.after
  match m x, hend with
  | some (.ok v, y), hy => exact ⟨Option.some_ne_none _, hy⟩
  | some (.error e, y), hy => exact ⟨Option.some_ne_none _, hy⟩

/-- What a call comes to. -/
def answer (m : Method receiver error value) (x : receiver) : Option (Except error value) :=
  (m x).map Prod.fst

/-- Called again and again, the method comes to the end of what it hands out. -/
def Ends (m : Method receiver error (Option value)) (x : receiver) : Prop :=
  exists n, m.answer (m.after^[n] x) = some (.ok none)

section Ends

variable {other : Type} {R : receiver -> other -> Prop}

theorem Related.after {m : Method receiver error value} {m' : Method other error value}
    (h : Related R R (fun _ => R) m m') {x : receiver} {y : other} (hxy : R x y) :
    R (m.after x) (m'.after y) := by
  have hend := h x y hxy
  unfold Method.after
  match m x, m' y, hend with
  | some (.ok v, _), some (.ok _, _), ⟨rfl, hR⟩ => exact hR
  | some (.error e, _), some (.error _, _), ⟨rfl, hR⟩ => exact hR
  | none, none, _ => exact hxy

theorem Related.iterate {m : Method receiver error value} {m' : Method other error value}
    (h : Related R R (fun _ => R) m m') {x : receiver} {y : other} (hxy : R x y) (n : Nat) :
    R (m.after^[n] x) (m'.after^[n] y) := by
  induction n generalizing x y with
  | zero => exact hxy
  | succ n ih => exact ih (h.after hxy)

theorem Related.answer_eq {P : receiver -> other -> Prop} {Q : value -> receiver -> other -> Prop}
    {m : Method receiver error value} {m' : Method other error value} (h : Related R P Q m m')
    {x : receiver} {y : other} (hxy : P x y) : m.answer x = m'.answer y := by
  have hend := h x y hxy
  unfold Method.answer
  match m x, m' y, hend with
  | some (.ok v, _), some (.ok _, _), ⟨rfl, _⟩ => rfl
  | some (.error e, _), some (.error _, _), ⟨rfl, _⟩ => rfl
  | none, none, _ => rfl

/-- Of two methods that give the same answers both come to the end, or neither. -/
theorem Related.ends_iff {m : Method receiver error (Option value)}
    {m' : Method other error (Option value)} (h : Related R R (fun _ => R) m m') {x : receiver}
    {y : other} (hxy : R x y) : m.Ends x ↔ m'.Ends y := by
  apply exists_congr
  intro n
  rw [h.answer_eq (h.iterate hxy n)]

end Ends

/-- Each call finds the receiver done, or blocked for good, or makes it smaller. -/
structure Progresses (m : Method receiver error value) (Inv Done Blocked : receiver -> Prop)
    (size : receiver -> Nat) : Prop where
  keeps : forall x, Inv x -> Inv (m.after x)
  done : forall x, Done x -> Done (m.after x) ∧ ¬ Blocked x
  blocked : forall x, Inv x -> Blocked x -> Blocked (m.after x)
  shrinks : forall x, Inv x -> ¬ Done x -> ¬ Blocked x -> size (m.after x) < size x

namespace Progresses

variable {m : Method receiver error value} {Inv Done Blocked : receiver -> Prop}
  {size : receiver -> Nat}

theorem keeps_later (h : Progresses m Inv Done Blocked size) {x : receiver} (hx : Inv x)
    (n : Nat) : Inv (m.after^[n] x) := by
  induction n generalizing x with
  | zero => exact hx
  | succ n ih => exact ih (h.keeps x hx)

theorem done_later (h : Progresses m Inv Done Blocked size) {x : receiver} (hx : Done x)
    (n : Nat) : Done (m.after^[n] x) := by
  induction n generalizing x with
  | zero => exact hx
  | succ n ih => exact ih (h.done x hx).1

theorem blocked_later (h : Progresses m Inv Done Blocked size) {x : receiver} (hinv : Inv x)
    (hx : Blocked x) (n : Nat) : Blocked (m.after^[n] x) := by
  induction n generalizing x with
  | zero => exact hx
  | succ n ih => exact ih (h.keeps x hinv) (h.blocked x hinv hx)

theorem done_of_unblocked (h : Progresses m Inv Done Blocked size) {x : receiver} (hinv : Inv x)
    (hx : forall n, ¬ Blocked (m.after^[n] x)) : exists n, Done (m.after^[n] x) := by
  induction hsize : size x using Nat.strongRecOn generalizing x with
  | ind k ih =>
      by_cases hdone : Done x
      · exact ⟨0, hdone⟩
      · have hlt := h.shrinks x hinv hdone (hx 0)
        rcases ih _ (hsize ▸ hlt) (h.keeps x hinv) (fun n => hx (n + 1)) rfl with ⟨n, hn⟩
        exact ⟨n + 1, hn⟩

/-- The receiver is done at some time exactly if it is not blocked at any time. -/
theorem done_iff (h : Progresses m Inv Done Blocked size) {x : receiver} (hinv : Inv x) :
    (exists n, Done (m.after^[n] x)) ↔ forall n, ¬ Blocked (m.after^[n] x) := by
  constructor
  · rintro ⟨n, hn⟩ k hk
    have hdone := h.done_later hn k
    have hblocked := h.blocked_later (h.keeps_later hinv k) hk n
    rw [← Function.iterate_add_apply] at hdone hblocked
    rw [Nat.add_comm] at hblocked
    exact (h.done _ hdone).2 hblocked
  · exact h.done_of_unblocked hinv

end Progresses
end Repeated

end Method
end Foundation
end CouchbaseSdk
