import Mathlib.Data.Nat.Digits.Lemmas
import Mathlib.Algebra.Group.Nat.Defs

/-!
# Decimal numbers in texts

Unsigned numbers of a bounded size, as they are read from a text.
-/

namespace CouchbaseSdk
namespace Foundation

/-- The digits behind the value `result`; the value has to stay below `size`. -/
def unsignedDigits (size : Nat) : List Char -> Nat -> Option Nat
  | [], result => some result
  | c :: rest, result =>
      if c.isDigit then
        let next := result * 10 + (c.toNat - '0'.toNat)
        if next < size then unsignedDigits size rest next else none
      else none

/-- `str::parse` for the unsigned integers below `size`. -/
def parseUnsigned (size : Nat) (text : String) : Option Nat :=
  match text.toList with
  | [] => none
  | ['+'] => none
  | '+' :: digits => unsignedDigits size digits 0
  | digits => unsignedDigits size digits 0

theorem le_ofDigitChars (l : List Char) (result : Nat) :
    result ≤ Nat.ofDigitChars 10 l result := by
  rw [Nat.ofDigitChars_eq_ofDigitChars_zero]
  have hpow : 1 ≤ 10 ^ l.length := Nat.one_le_pow _ _ (by decide)
  have hmul : 1 * result ≤ 10 ^ l.length * result := Nat.mul_le_mul_right result hpow
  omega

theorem unsignedDigits_eq {size : Nat} {l : List Char} {result : Nat}
    (hdigits : forall c, c ∈ l -> c.isDigit) (hsize : Nat.ofDigitChars 10 l result < size) :
    unsignedDigits size l result = some (Nat.ofDigitChars 10 l result) := by
  induction l generalizing result with
  | nil => rfl
  | cons c rest ih =>
      have hnext : Nat.ofDigitChars 10 (c :: rest) result =
          Nat.ofDigitChars 10 rest (result * 10 + (c.toNat - '0'.toNat)) := by
        rw [Nat.ofDigitChars_cons, Nat.mul_comm]
      rw [hnext] at hsize ⊢
      unfold unsignedDigits
      rw [if_pos (hdigits c List.mem_cons_self)]
      dsimp only
      rw [if_pos (Nat.lt_of_le_of_lt (le_ofDigitChars rest _) hsize)]
      exact ih (fun d hd => hdigits d (List.mem_cons_of_mem c hd)) hsize

/-- A number is known by its digits. -/
theorem repr_inj {n m : Nat} (h : n.repr = m.repr) : n = m := by
  have hdigits := congrArg (fun s => Nat.ofDigitChars 10 s.toList 0) h
  simpa only [Nat.toList_repr, Nat.ofDigitChars_ten_toDigits] using hdigits

/-- What is written for a number is read as it. -/
theorem parseUnsigned_repr {size n : Nat} (h : n < size) : parseUnsigned size n.repr = some n := by
  have hdigits : forall c, c ∈ Nat.toDigits 10 n -> c.isDigit :=
    fun c hc => Nat.isDigit_of_mem_toDigits (by decide) (by decide) hc
  have hvalue : Nat.ofDigitChars 10 (Nat.toDigits 10 n) 0 = n := Nat.ofDigitChars_ten_toDigits
  have hparse : unsignedDigits size (Nat.toDigits 10 n) 0 = some n := by
    rw [unsignedDigits_eq hdigits (hvalue.symm ▸ h), hvalue]
  have hplus : '+' ∉ Nat.toDigits 10 n := by
    intro hmem
    exact absurd (hdigits '+' hmem) (by decide)
  unfold parseUnsigned
  rw [Nat.toList_repr]
  split
  · next hnil => exact absurd hnil Nat.toDigits_ne_nil
  · next hsign =>
      rw [hsign] at hplus
      exact absurd List.mem_cons_self hplus
  · next hsign =>
      rw [hsign] at hplus
      exact absurd List.mem_cons_self hplus
  · exact hparse

end Foundation
end CouchbaseSdk
