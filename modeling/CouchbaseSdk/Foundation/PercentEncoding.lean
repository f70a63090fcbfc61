import CouchbaseSdk.Foundation.Utf8
import Mathlib.Tactic.Attr.Core

/-!
# Percent-encoded texts

A text is written with an escape for each byte that is not an unreserved one.  The reader
takes escapes in upper and in lower case, and everything else as it stands.
-/

namespace CouchbaseSdk
namespace Foundation

/-!
# Writing
-/

/-- Letters, digits and four marks stand for themselves. -/
def isUnreserved (b : UInt8) : Bool :=
  (0x30 ≤ b && b ≤ 0x39) || (0x41 ≤ b && b ≤ 0x5a) || (0x61 ≤ b && b ≤ 0x7a) ||
    b == 0x2d || b == 0x2e || b == 0x5f || b == 0x7e

def hexDigit (n : Nat) : Char :=
  Char.ofNat (if n < 10 then 0x30 + n else 0x37 + n)

def percentByte (b : UInt8) : List Char :=
  if isUnreserved b then [Char.ofNat b.toNat]
  else ['%', hexDigit (b.toNat / 16), hexDigit (b.toNat % 16)]

def percentEncode (text : List Char) : List Char :=
  (utf8Bytes text).flatMap percentByte

/-!
# Reading
-/

def hexByteValue (b : UInt8) : Option Nat :=
  if 0x30 ≤ b ∧ b ≤ 0x39 then some (b.toNat - 0x30)
  else if 0x41 ≤ b ∧ b ≤ 0x46 then some (b.toNat - 0x37)
  else if 0x61 ≤ b ∧ b ≤ 0x66 then some (b.toNat - 0x57)
  else none

/-- The byte of an escape with these three characters. -/
def escape (mark high low : UInt8) : Option UInt8 :=
  if mark = 0x25 then
    match hexByteValue high, hexByteValue low with
    | some h, some l => some (UInt8.ofNat (h * 16 + l))
    | _, _ => none
  else none

def percentDecode : List UInt8 -> List UInt8
  | mark :: high :: low :: rest =>
      match escape mark high low with
      | some b => b :: percentDecode rest
      | none => mark :: percentDecode (high :: low :: rest)
  | bytes => bytes

/-- There is an escape somewhere in the bytes. -/
def hasEscape : List UInt8 -> Bool
  | mark :: high :: low :: rest =>
      (escape mark high low).isSome || hasEscape (high :: low :: rest)
  | _ => false

theorem percentDecode_some {mark high low b : UInt8} (h : escape mark high low = some b)
    (rest : List UInt8) :
    percentDecode (mark :: high :: low :: rest) = b :: percentDecode rest := by
  rw [percentDecode, h]

theorem percentDecode_none {mark high low : UInt8} (h : escape mark high low = none)
    (rest : List UInt8) :
    percentDecode (mark :: high :: low :: rest) = mark :: percentDecode (high :: low :: rest) := by
  rw [percentDecode, h]

theorem percentDecode_cons_ne {b : UInt8} (h : b ≠ 0x25) (rest : List UInt8) :
    percentDecode (b :: rest) = b :: percentDecode rest := by
  match rest with
  | [] => rfl
  | [_] => rfl
  | _ :: _ :: _ => exact percentDecode_none (if_neg h) _

theorem length_percentDecode_le (bytes : List UInt8) :
    (percentDecode bytes).length ≤ bytes.length := by
  induction bytes using percentDecode.induct with
  | case1 mark high low rest b hescape ih =>
      rw [percentDecode_some hescape]
      simp only [List.length_cons]
      omega
  | case2 mark high low rest hescape ih =>
      rw [percentDecode_none hescape]
      simp only [List.length_cons] at ih ⊢
      omega
  | case3 bytes hshort =>
      rw [percentDecode]
      exact hshort

theorem length_percentDecode_lt {bytes : List UInt8} (h : hasEscape bytes = true) :
    (percentDecode bytes).length < bytes.length := by
  induction bytes using percentDecode.induct with
  | case1 mark high low rest b hescape ih =>
      have hle := length_percentDecode_le rest
      rw [percentDecode_some hescape]
      simp only [List.length_cons]
      omega
  | case2 mark high low rest hescape ih =>
      rw [hasEscape, hescape] at h
      have hlt := ih h
      rw [percentDecode_none hescape]
      simp only [List.length_cons] at hlt ⊢
      omega
  | case3 bytes hshort =>
      rw [hasEscape] at h
      · cases h
      · exact hshort

theorem percentDecode_of_not_hasEscape {bytes : List UInt8} (h : hasEscape bytes = false) :
    percentDecode bytes = bytes := by
  induction bytes using percentDecode.induct with
  | case1 mark high low rest b hescape ih =>
      rw [hasEscape, hescape] at h
      cases h
  | case2 mark high low rest hescape ih =>
      rw [hasEscape, hescape] at h
      rw [percentDecode_none hescape, ih h]
  | case3 bytes hshort =>
      rw [percentDecode]
      exact hshort

/-- Bytes are read as they stand exactly if there is no escape among them. -/
theorem percentDecode_eq_self_iff (bytes : List UInt8) :
    percentDecode bytes = bytes <-> hasEscape bytes = false := by
  constructor
  · intro h
    by_contra hescape
    have hlt := length_percentDecode_lt (Bool.not_eq_false _ ▸ hescape)
    rw [h] at hlt
    exact Nat.lt_irrefl _ hlt
  · exact percentDecode_of_not_hasEscape

/-!
# What is written is read
-/

theorem utf8Bytes_append (text more : List Char) :
    utf8Bytes (text ++ more) = utf8Bytes text ++ utf8Bytes more := List.flatMap_append

theorem byte_forall {P : UInt8 -> Prop} (h : forall n : Fin 256, P (UInt8.ofNat n)) (b : UInt8) :
    P b := by
  have hb := h ⟨b.toNat, b.toNat_lt⟩
  rwa [show UInt8.ofNat (⟨b.toNat, b.toNat_lt⟩ : Fin 256) = b from UInt8.ofNat_toNat] at hb

/-- The bytes of what is written for a byte: itself, or an escape of it. -/
theorem utf8Bytes_percentByte (b : UInt8) :
    (utf8Bytes (percentByte b) = [b] ∧ b ≠ 0x25) ∨
      exists high low, utf8Bytes (percentByte b) = [0x25, high, low] ∧
        escape 0x25 high low = some b := by
  have hall : (utf8Bytes (percentByte b) = [b] ∧ b ≠ 0x25) ∨
      (utf8Bytes (percentByte b) = 0x25 :: (utf8Bytes (percentByte b)).tail ∧
        (utf8Bytes (percentByte b)).length = 3 ∧
        escape 0x25 ((utf8Bytes (percentByte b)).getD 1 0)
          ((utf8Bytes (percentByte b)).getD 2 0) = some b) :=
    byte_forall (P := fun b => (utf8Bytes (percentByte b) = [b] ∧ b ≠ 0x25) ∨
      (utf8Bytes (percentByte b) = 0x25 :: (utf8Bytes (percentByte b)).tail ∧
        (utf8Bytes (percentByte b)).length = 3 ∧
        escape 0x25 ((utf8Bytes (percentByte b)).getD 1 0)
          ((utf8Bytes (percentByte b)).getD 2 0) = some b)) (by decide +kernel) b
  rcases hall with hself | ⟨hmark, hlength, hescape⟩
  · exact Or.inl hself
  · right
    match hbytes : utf8Bytes (percentByte b), hlength with
    | [mark, high, low], _ =>
        rw [hbytes] at hmark hescape
        cases hmark
        exact ⟨high, low, rfl, hescape⟩

theorem percentDecode_percentByte (b : UInt8) (rest : List UInt8) :
    percentDecode (utf8Bytes (percentByte b) ++ rest) = b :: percentDecode rest := by
  rcases utf8Bytes_percentByte b with ⟨hself, hne⟩ | ⟨high, low, hbytes, hescape⟩
  · rw [hself]
    exact percentDecode_cons_ne hne rest
  · rw [hbytes]
    exact percentDecode_some hescape rest

theorem percentDecode_flatMap (bytes : List UInt8) :
    percentDecode (utf8Bytes (bytes.flatMap percentByte)) = bytes := by
  induction bytes with
  | nil => rfl
  | cons b rest ih =>
      rw [List.flatMap_cons, utf8Bytes_append, percentDecode_percentByte, ih]

theorem percentDecode_percentEncode (text : List Char) :
    percentDecode (utf8Bytes (percentEncode text)) = utf8Bytes text :=
  percentDecode_flatMap (utf8Bytes text)

/-- Only unreserved characters and the marks of escapes are written. -/
theorem mem_percentEncode {c : Char} {text : List Char} (h : c ∈ percentEncode text) :
    c = '%' ∨ (c.toNat < 0x80 ∧ isUnreserved (UInt8.ofNat c.toNat) = true) := by
  rcases List.mem_flatMap.mp h with ⟨b, _, hmem⟩
  have hall := byte_forall (P := fun b => (percentByte b).all
    (fun c => c == '%' || (decide (c.toNat < 0x80) && isUnreserved (UInt8.ofNat c.toNat))) = true)
    (by decide +kernel) b
  have hc := List.all_eq_true.mp hall c hmem
  rw [Bool.or_eq_true, Bool.and_eq_true, beq_iff_eq, decide_eq_true_iff] at hc
  exact hc

end Foundation
end CouchbaseSdk
