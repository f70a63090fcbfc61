import CouchbaseSdk.Foundation.Exec
import Mathlib.Algebra.GroupWithZero.Nat

/-!
# Byte buffers

Big-endian numerals over bytes, and the reads of a consuming cursor.  A cursor
read past the end of the buffer panics; it never returns a short value.
-/

namespace CouchbaseSdk
namespace Foundation

abbrev Buffer := List UInt8

/-!
# Big-endian numerals
-/

/-- The low `width` bytes of `n`, most significant first. -/
def beBytes : Nat -> Nat -> Buffer
  | 0, _ => []
  | width + 1, n => UInt8.ofNat (n / 256 ^ width) :: beBytes width n

/-- The number a byte string denotes, most significant byte first. -/
def beNat : Buffer -> Nat
  | [] => 0
  | b :: rest => b.toNat * 256 ^ rest.length + beNat rest

@[simp] theorem length_beBytes (width n : Nat) :
    (beBytes width n).length = width := by
  induction width with
  | zero => rfl
  | succ width ih => simp [beBytes, ih]

theorem beNat_lt (bs : Buffer) : beNat bs < 256 ^ bs.length := by
  induction bs with
  | nil => simp [beNat]
  | cons b rest ih =>
      have hb : b.toNat + 1 ≤ 256 := b.toNat_lt
      have hmul : (b.toNat + 1) * 256 ^ rest.length ≤ 256 * 256 ^ rest.length :=
        Nat.mul_le_mul_right _ hb
      rw [Nat.add_mul, Nat.one_mul] at hmul
      rw [beNat, List.length_cons, Nat.pow_succ]
      omega

theorem beNat_beBytes (width n : Nat) :
    beNat (beBytes width n) = n % 256 ^ width := by
  induction width with
  | zero => simp [beBytes, beNat, Nat.mod_one]
  | succ width ih =>
      rw [beBytes, beNat, length_beBytes, ih, Nat.pow_succ, Nat.mod_mul]
      simp only [UInt8.toNat_ofNat']
      rw [Nat.mul_comm, Nat.add_comm]

/-- A byte depends on the number only up to its residue. -/
theorem beBytes_one_congr {m n : Nat} (h : m % 256 = n % 256) :
    beBytes 1 m = beBytes 1 n := by
  have hbyte : UInt8.ofNat m = UInt8.ofNat n := by
    rw [← UInt8.ofNat_mod_size, ← @UInt8.ofNat_mod_size n]
    exact congrArg UInt8.ofNat h
  simp [beBytes, hbyte]

theorem beBytes_two (n : Nat) :
    beBytes 2 n = beBytes 1 (n / 256) ++ beBytes 1 n := by
  simp [beBytes]

/-- The number in the `width` bytes at offset `off`. -/
def beField (off width : Nat) (buf : Buffer) : Nat :=
  beNat ((buf.drop off).take width)

theorem beField_append {off width : Nat} {buf : Buffer} (more : Buffer)
    (h : off + width ≤ buf.length) :
    beField off width (buf ++ more) = beField off width buf := by
  have hdrop : off ≤ buf.length := by omega
  have htake : width ≤ (buf.drop off).length := by
    rw [List.length_drop]
    omega
  rw [beField, beField, List.drop_append_of_le_length hdrop,
    List.take_append_of_le_length htake]

theorem beField_lt (off width : Nat) (buf : Buffer) :
    beField off width buf < 256 ^ width := by
  have hlen : ((buf.drop off).take width).length ≤ width := List.length_take_le _ _
  exact Nat.lt_of_lt_of_le (beNat_lt _) (Nat.pow_le_pow_right (by decide) hlen)

/-!
# Cursor reads
-/

namespace Cursor

variable {error : Type}

/-- Consume the first `n` bytes of the buffer. -/
def splitTo (n : Nat) (buf : Buffer) : Exec error (Buffer × Buffer) :=
  if n ≤ buf.length then .ok (buf.take n, buf.drop n) else .panic

/-- Consume a big-endian number of the given width. -/
def getUint (width : Nat) (buf : Buffer) : Exec error (Nat × Buffer) :=
  (splitTo width buf).map fun p => (beNat p.1, p.2)

def getU8 (buf : Buffer) : Exec error (UInt8 × Buffer) :=
  (getUint 1 buf).map fun p => (UInt8.ofNat p.1, p.2)

def getU16 (buf : Buffer) : Exec error (UInt16 × Buffer) :=
  (getUint 2 buf).map fun p => (UInt16.ofNat p.1, p.2)

def getU32 (buf : Buffer) : Exec error (UInt32 × Buffer) :=
  (getUint 4 buf).map fun p => (UInt32.ofNat p.1, p.2)

def getU64 (buf : Buffer) : Exec error (UInt64 × Buffer) :=
  (getUint 8 buf).map fun p => (UInt64.ofNat p.1, p.2)

theorem splitTo_append (bs rest : Buffer) :
    (splitTo bs.length (bs ++ rest) : Exec error _) = .ok (bs, rest) := by
  simp [splitTo]

theorem splitTo_panic {n : Nat} {buf : Buffer} (h : buf.length < n) :
    (splitTo n buf : Exec error _) = .panic := by
  rw [splitTo, if_neg (Nat.not_le.mpr h)]

theorem splitTo_of_le {n : Nat} {buf : Buffer} (h : n ≤ buf.length) :
    (splitTo n buf : Exec error _) = .ok (buf.take n, buf.drop n) := by
  rw [splitTo, if_pos h]

/-!
A read of an encoded numeral gives the numeral back, cut to the width.
-/

theorem getUint_beBytes (width n : Nat) (rest : Buffer) :
    (getUint width (beBytes width n ++ rest) : Exec error _) =
      .ok (n % 256 ^ width, rest) := by
  have hsplit : (splitTo (beBytes width n).length (beBytes width n ++ rest) : Exec error _) =
      .ok (beBytes width n, rest) := splitTo_append (beBytes width n) rest
  rw [length_beBytes] at hsplit
  rw [getUint, hsplit, Exec.map_ok, beNat_beBytes]

@[simp] theorem getU8_beBytes (n : Nat) (rest : Buffer) :
    (getU8 (beBytes 1 n ++ rest) : Exec error _) = .ok (UInt8.ofNat n, rest) := by
  rw [getU8, getUint_beBytes, Exec.map_ok]
  exact congrArg (fun v => Exec.ok (v, rest)) UInt8.ofNat_mod_size

@[simp] theorem getU16_beBytes (n : Nat) (rest : Buffer) :
    (getU16 (beBytes 2 n ++ rest) : Exec error _) = .ok (UInt16.ofNat n, rest) := by
  rw [getU16, getUint_beBytes, Exec.map_ok]
  exact congrArg (fun v => Exec.ok (v, rest)) UInt16.ofNat_mod_size

@[simp] theorem getU32_beBytes (n : Nat) (rest : Buffer) :
    (getU32 (beBytes 4 n ++ rest) : Exec error _) = .ok (UInt32.ofNat n, rest) := by
  rw [getU32, getUint_beBytes, Exec.map_ok]
  exact congrArg (fun v => Exec.ok (v, rest)) UInt32.ofNat_mod_size

@[simp] theorem getU64_beBytes (n : Nat) (rest : Buffer) :
    (getU64 (beBytes 8 n ++ rest) : Exec error _) = .ok (UInt64.ofNat n, rest) := by
  rw [getU64, getUint_beBytes, Exec.map_ok]
  exact congrArg (fun v => Exec.ok (v, rest)) UInt64.ofNat_mod_size

/-!
A read at an offset with enough bytes left never panics.
-/

theorem getUint_drop {buf : Buffer} {off width : Nat} (h : off + width ≤ buf.length) :
    (getUint width (buf.drop off) : Exec error _) =
      .ok (beField off width buf, buf.drop (off + width)) := by
  have hlen : width ≤ (buf.drop off).length := by
    rw [List.length_drop]
    omega
  rw [getUint, splitTo_of_le hlen, Exec.map_ok, List.drop_drop]
  rfl

theorem getU8_drop {buf : Buffer} {off : Nat} (h : off + 1 ≤ buf.length) :
    (getU8 (buf.drop off) : Exec error _) =
      .ok (UInt8.ofNat (beField off 1 buf), buf.drop (off + 1)) := by
  rw [getU8, getUint_drop h, Exec.map_ok]

theorem getU16_drop {buf : Buffer} {off : Nat} (h : off + 2 ≤ buf.length) :
    (getU16 (buf.drop off) : Exec error _) =
      .ok (UInt16.ofNat (beField off 2 buf), buf.drop (off + 2)) := by
  rw [getU16, getUint_drop h, Exec.map_ok]

theorem getU32_drop {buf : Buffer} {off : Nat} (h : off + 4 ≤ buf.length) :
    (getU32 (buf.drop off) : Exec error _) =
      .ok (UInt32.ofNat (beField off 4 buf), buf.drop (off + 4)) := by
  rw [getU32, getUint_drop h, Exec.map_ok]

theorem getU64_drop {buf : Buffer} {off : Nat} (h : off + 8 ≤ buf.length) :
    (getU64 (buf.drop off) : Exec error _) =
      .ok (UInt64.ofNat (beField off 8 buf), buf.drop (off + 8)) := by
  rw [getU64, getUint_drop h, Exec.map_ok]

end Cursor
end Foundation
end CouchbaseSdk

/-!
# Writing into a buffer

A buffer of a fixed length is filled from the front.  A write that does not fit panics.
-/

namespace CouchbaseSdk
namespace Foundation
namespace Slice

variable {error : Type}

/-- Replace the bytes from `start` on. -/
def write (start : Nat) (bytes : Buffer) (buf : Buffer) : Exec error Buffer :=
  if start + bytes.length ≤ buf.length then
    .ok (buf.take start ++ bytes ++ buf.drop (start + bytes.length))
  else .panic

theorem write_append {bytes tail : Buffer} (pre : Buffer) (h : bytes.length ≤ tail.length) :
    (write pre.length bytes (pre ++ tail) : Exec error Buffer) =
      .ok (pre ++ bytes ++ tail.drop bytes.length) := by
  have hroom : pre.length + bytes.length ≤ (pre ++ tail).length := by
    rw [List.length_append]
    exact Nat.add_le_add_left h _
  rw [write, if_pos hroom, List.take_left, List.drop_length_add_append]

/-- Copy one byte after the other. -/
def copy : Nat -> Buffer -> Buffer -> Exec error Buffer
  | _, [], buf => .ok buf
  | start, b :: bytes, buf => write start [b] buf >>= copy (start + 1) bytes

theorem copy_append {bytes tail : Buffer} (pre : Buffer) (h : bytes.length ≤ tail.length) :
    (copy pre.length bytes (pre ++ tail) : Exec error Buffer) =
      .ok (pre ++ bytes ++ tail.drop bytes.length) := by
  induction bytes generalizing pre tail with
  | nil => simp [copy]
  | cons b bytes ih =>
      cases tail with
      | nil => cases h
      | cons x tail =>
          have hwrite : (write pre.length [b] (pre ++ x :: tail) : Exec error Buffer) =
              .ok (pre ++ [b] ++ tail) := write_append pre (Nat.succ_le_succ (Nat.zero_le _))
          have hlength : pre.length + 1 = (pre ++ [b]).length := by simp
          rw [copy, hwrite, Exec.ok_bind, hlength, ih (pre ++ [b]) (Nat.le_of_succ_le_succ h)]
          simp

/-- Write one part behind the other. -/
def writeParts : Nat -> List Buffer -> Buffer -> Exec error Buffer
  | _, [], buf => .ok buf
  | start, part :: parts, buf => write start part buf >>= writeParts (start + part.length) parts

theorem write_bind_ok (start : Nat) (bytes buf : Buffer) :
    (write start bytes buf >>= fun buf => (.ok buf : Exec error Buffer)) =
      write start bytes buf := by
  cases (write start bytes buf : Exec error Buffer) with
  | ok buf => rfl
  | err e => rfl
  | panic => rfl

theorem writeParts_append {parts : List Buffer} {tail : Buffer} (pre : Buffer)
    (h : parts.flatten.length ≤ tail.length) :
    (writeParts pre.length parts (pre ++ tail) : Exec error Buffer) =
      .ok (pre ++ parts.flatten ++ tail.drop parts.flatten.length) := by
  induction parts generalizing pre tail with
  | nil => simp [writeParts]
  | cons part parts ih =>
      rw [List.flatten_cons, List.length_append] at h
      have hpart : part.length ≤ tail.length := by omega
      have hrest : parts.flatten.length ≤ (tail.drop part.length).length := by
        rw [List.length_drop]
        omega
      have hlength : pre.length + part.length = (pre ++ part).length := by simp
      rw [writeParts, write_append pre hpart, Exec.ok_bind, hlength, ih (pre ++ part) hrest,
        List.drop_drop]
      simp

end Slice

/-!
# Numbers of variable length

A number as bytes of seven bits each, the lowest first; all but the last have their high bit
set.
-/

namespace Leb128

def encode (n : Nat) : Buffer :=
  if n < 128 then [UInt8.ofNat n] else UInt8.ofNat (n % 128 + 128) :: encode (n / 128)
termination_by n
decreasing_by omega

/-- The number at the front, and the bytes behind it. -/
def decode : Buffer -> Option (Nat × Buffer)
  | [] => none
  | b :: rest =>
      if b.toNat < 128 then some (b.toNat, rest)
      else (decode rest).map fun p => (b.toNat - 128 + 128 * p.1, p.2)

theorem encode_of_lt {n : Nat} (h : n < 128) : encode n = [UInt8.ofNat n] := by
  rw [encode, if_pos h]

theorem encode_of_le {n : Nat} (h : 128 ≤ n) :
    encode n = UInt8.ofNat (n % 128 + 128) :: encode (n / 128) := by
  rw [encode, if_neg (Nat.not_lt.mpr h)]

theorem decode_encode (n : Nat) (rest : Buffer) :
    decode (encode n ++ rest) = some (n, rest) := by
  induction n using Nat.strongRecOn with
  | ind n ih =>
      rcases Nat.lt_or_ge n 128 with hlt | hle
      · have hbyte : (UInt8.ofNat n).toNat = n := by
          rw [UInt8.toNat_ofNat', Nat.mod_eq_of_lt (by omega)]
        rw [encode_of_lt hlt, List.singleton_append, decode, hbyte, if_pos hlt]
      · have hbyte : (UInt8.ofNat (n % 128 + 128)).toNat = n % 128 + 128 := by
          rw [UInt8.toNat_ofNat', Nat.mod_eq_of_lt (by omega)]
        rw [encode_of_le hle, List.cons_append, decode, hbyte, if_neg (by omega),
          ih (n / 128) (by omega), Option.map_some, Nat.add_sub_cancel, Nat.mod_add_div]

theorem encode_append_inj {m n : Nat} {s t : Buffer} (h : encode m ++ s = encode n ++ t) :
    m = n ∧ s = t := by
  have hdecode := congrArg decode h
  rw [decode_encode, decode_encode] at hdecode
  cases hdecode
  exact ⟨rfl, rfl⟩

theorem length_encode_le (k : Nat) {n : Nat} (h : n < 128 ^ (k + 1)) :
    (encode n).length ≤ k + 1 := by
  induction k generalizing n with
  | zero =>
      rw [encode_of_lt (by omega)]
      exact Nat.le_refl _
  | succ k ih =>
      rcases Nat.lt_or_ge n 128 with hlt | hle
      · rw [encode_of_lt hlt]
        exact Nat.succ_le_succ (Nat.zero_le _)
      · have hdiv : n / 128 < 128 ^ (k + 1) := by
          rw [Nat.div_lt_iff_lt_mul (by decide), ← Nat.pow_succ]
          exact h
        rw [encode_of_le hle, List.length_cons]
        exact Nat.succ_le_succ (ih hdiv)

end Leb128
end Foundation
end CouchbaseSdk
