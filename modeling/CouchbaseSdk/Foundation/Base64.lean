import CouchbaseSdk.Foundation.Bytes

/-!
# Base64

The standard alphabet with padding.  Three bytes are four digits of six bits; a last group of
one or two bytes is filled up.  Decoding accepts exactly what encoding produces.
-/

namespace CouchbaseSdk
namespace Foundation
namespace Base64

def pad : UInt8 := 0x3D

def digit (n : Nat) : UInt8 :=
  if n < 26 then UInt8.ofNat (65 + n)
  else if n < 52 then UInt8.ofNat (71 + n)
  else if n < 62 then UInt8.ofNat (n - 4)
  else if n = 62 then 0x2B
  else 0x2F

def value (b : UInt8) : Option Nat :=
  if 65 ≤ b.toNat ∧ b.toNat ≤ 90 then some (b.toNat - 65)
  else if 97 ≤ b.toNat ∧ b.toNat ≤ 122 then some (b.toNat - 71)
  else if 48 ≤ b.toNat ∧ b.toNat ≤ 57 then some (b.toNat + 4)
  else if b = 0x2B then some 62
  else if b = 0x2F then some 63
  else none

def encode : Buffer -> Buffer
  | [] => []
  | [a] => [digit (a.toNat / 4), digit (a.toNat % 4 * 16), pad, pad]
  | [a, b] =>
      [digit (a.toNat / 4), digit (a.toNat % 4 * 16 + b.toNat / 16),
        digit (b.toNat % 16 * 4), pad]
  | a :: b :: c :: rest =>
      digit (a.toNat / 4) :: digit (a.toNat % 4 * 16 + b.toNat / 16) ::
        digit (b.toNat % 16 * 4 + c.toNat / 64) :: digit (c.toNat % 64) :: encode rest

/-- Groups of four digits.  Bits that do not belong to a byte are dropped. -/
def decodeGroups : Buffer -> Option Buffer
  | [] => some []
  | w :: x :: y :: z :: rest => do
      let w ← value w
      let x ← value x
      if y = pad then pure [UInt8.ofNat (w * 4 + x / 16)]
      else
        let y ← value y
        if z = pad then
          pure [UInt8.ofNat (w * 4 + x / 16), UInt8.ofNat (x % 16 * 16 + y / 4)]
        else
          let z ← value z
          let rest ← decodeGroups rest
          pure (UInt8.ofNat (w * 4 + x / 16) :: UInt8.ofNat (x % 16 * 16 + y / 4) ::
            UInt8.ofNat (y % 4 * 64 + z) :: rest)
  | _ => none

def decode (text : Buffer) : Option Buffer :=
  (decodeGroups text).filter fun bytes => encode bytes = text

/-!
# Digits
-/

theorem value_digit {n : Nat} (h : n < 64) : value (digit n) = some n := by
  have hall : forall k : Fin 64, value (digit k) = some k.val := by decide +kernel
  exact hall ⟨n, h⟩

theorem digit_ne {n : Nat} (h : n < 64) : digit n ≠ pad ∧ digit n ≠ 0x2C := by
  have hall : forall k : Fin 64, digit k ≠ pad ∧ digit k ≠ 0x2C := by decide +kernel
  exact hall ⟨n, h⟩

theorem digit_ne_pad {n : Nat} (h : n < 64) : digit n ≠ pad := (digit_ne h).1

/-- No comma among the digits. -/
theorem comma_ne_digit {n : Nat} (h : n < 64) : (0x2C : UInt8) ≠ digit n := (digit_ne h).2.symm

theorem byte_eq {a : UInt8} {n : Nat} (h : n = a.toNat) : UInt8.ofNat n = a := by
  rw [h]
  exact UInt8.ofNat_toNat

/-!
# The round trip
-/

theorem decodeGroups_encode (bytes : Buffer) : decodeGroups (encode bytes) = some bytes := by
  induction bytes using encode.induct with
  | case1 => rfl
  | case2 a =>
      have ha := a.toNat_lt
      simp only [encode, decodeGroups, value_digit (n := a.toNat / 4) (by omega),
        value_digit (n := a.toNat % 4 * 16) (by omega), Option.bind_eq_bind, Option.bind_some,
        if_pos, Option.pure_def]
      rw [byte_eq (a := a) (by omega)]
  | case3 a b =>
      have ha := a.toNat_lt
      have hb := b.toNat_lt
      simp only [encode, decodeGroups, value_digit (n := a.toNat / 4) (by omega),
        value_digit (n := a.toNat % 4 * 16 + b.toNat / 16) (by omega),
        value_digit (n := b.toNat % 16 * 4) (by omega),
        digit_ne_pad (n := b.toNat % 16 * 4) (by omega), Option.bind_eq_bind, Option.bind_some,
        if_pos, if_false, Option.pure_def]
      rw [byte_eq (a := a) (by omega), byte_eq (a := b) (by omega)]
  | case4 a b c rest ih =>
      have ha := a.toNat_lt
      have hb := b.toNat_lt
      have hc := c.toNat_lt
      simp only [encode, decodeGroups, value_digit (n := a.toNat / 4) (by omega),
        value_digit (n := a.toNat % 4 * 16 + b.toNat / 16) (by omega),
        value_digit (n := b.toNat % 16 * 4 + c.toNat / 64) (by omega),
        value_digit (n := c.toNat % 64) (by omega),
        digit_ne_pad (n := b.toNat % 16 * 4 + c.toNat / 64) (by omega),
        digit_ne_pad (n := c.toNat % 64) (by omega), ih, Option.bind_eq_bind, Option.bind_some,
        if_false, Option.pure_def]
      rw [byte_eq (a := a) (by omega), byte_eq (a := b) (by omega), byte_eq (a := c) (by omega)]

theorem decode_encode (bytes : Buffer) : decode (encode bytes) = some bytes := by
  unfold decode
  rw [decodeGroups_encode]
  simp

theorem comma_not_mem_encode (bytes : Buffer) : 0x2C ∉ encode bytes := by
  induction bytes using encode.induct with
  | case1 => nofun
  | case2 a =>
      have ha := a.toNat_lt
      simp only [encode, List.mem_cons, List.not_mem_nil, or_false, not_or]
      exact ⟨comma_ne_digit (by omega), comma_ne_digit (by omega), by decide, by decide⟩
  | case3 a b =>
      have ha := a.toNat_lt
      have hb := b.toNat_lt
      simp only [encode, List.mem_cons, List.not_mem_nil, or_false, not_or]
      exact ⟨comma_ne_digit (by omega), comma_ne_digit (by omega), comma_ne_digit (by omega),
        by decide⟩
  | case4 a b c rest ih =>
      have ha := a.toNat_lt
      have hb := b.toNat_lt
      have hc := c.toNat_lt
      simp only [encode, List.mem_cons, not_or]
      exact ⟨comma_ne_digit (by omega), comma_ne_digit (by omega), comma_ne_digit (by omega),
        comma_ne_digit (by omega), ih⟩

end Base64
end Foundation
end CouchbaseSdk
