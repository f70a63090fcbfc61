import Mathlib.Algebra.Order.Round
import Mathlib.Data.Rat.Floor

/-!
# Numbers with a floating point

What a computation on integers uses of them: an integer is taken over, and the result is cut off
and kept inside the integers of 64 bits.
-/

namespace CouchbaseSdk
namespace Foundation

structure F64 where
  Number : Type
  ofU64 : Nat -> Number
  mul : Number -> Number -> Number
  div : Number -> Number -> Number
  lt : Number -> Number -> Bool
  toU64 : Number -> Nat
  toU64_lt : forall x, toU64 x < 2 ^ 64

namespace F64

/-- `as u64`, which stops at the largest integer. -/
def saturating (x : ℚ) : Nat :=
  min ⌊x⌋₊ (2 ^ 64 - 1)

theorem saturating_lt (x : ℚ) : saturating x < 2 ^ 64 :=
  lt_of_le_of_lt (Nat.min_le_right _ _) (by decide)

/-- Nothing is rounded. -/
def exact : F64 where
  Number := ℚ
  ofU64 n := (n : ℚ)
  mul x y := x * y
  div x y := x / y
  lt x y := decide (x < y)
  toU64 := saturating
  toU64_lt := saturating_lt

/-- A product of so many factors of ten, as a loop computes it. -/
def powTen (f64 : F64) : Nat -> f64.Number -> f64.Number
  | 0, scale => scale
  | n + 1, scale => powTen f64 n (f64.mul scale (f64.ofU64 10))

end F64
end Foundation
end CouchbaseSdk
