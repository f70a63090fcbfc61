import Mathlib.Data.UInt

/-!
# Texts in bytes

Bytes are read as a text also where they are none: every longest start of a sequence that could
have gone on is replaced by one character.
-/

namespace CouchbaseSdk
namespace Foundation

def utf8Bytes (text : List Char) : List UInt8 :=
  text.flatMap String.utf8EncodeChar

/-- The length of the sequence that a byte starts. -/
def sequenceLength (first : UInt8) : Nat :=
  if first < 0x80 then 1
  else if 0xC2 ≤ first ∧ first ≤ 0xDF then 2
  else if 0xE0 ≤ first ∧ first ≤ 0xEF then 3
  else if 0xF0 ≤ first ∧ first ≤ 0xF4 then 4
  else 0

def continues (b : UInt8) : Bool :=
  0x80 ≤ b && b ≤ 0xBF

/-- Whether a byte goes on behind the first one of three or four. -/
def secondContinues (first second : UInt8) : Bool :=
  if first = 0xE0 then 0xA0 ≤ second && second ≤ 0xBF
  else if first = 0xED then 0x80 ≤ second && second ≤ 0x9F
  else if first = 0xF0 then 0x90 ≤ second && second ≤ 0xBF
  else if first = 0xF4 then 0x80 ≤ second && second ≤ 0x8F
  else continues second

/-- How many bytes are replaced together where no character starts. -/
def invalidLength : List UInt8 -> Nat
  | first :: second :: third :: _ =>
      if 3 ≤ sequenceLength first ∧ secondContinues first second = true then
        if sequenceLength first = 4 ∧ continues third = true then 3 else 2
      else 1
  | [first, second] =>
      if 3 ≤ sequenceLength first ∧ secondContinues first second = true then 2 else 1
  | _ => 1

theorem invalidLength_pos (bytes : List UInt8) : 0 < invalidLength bytes := by
  unfold invalidLength
  split
  · split
    · split <;> decide
    · decide
  · split <;> decide
  · decide

/-- `String::from_utf8_lossy` -/
def fromUtf8Lossy (bytes : List UInt8) : List Char :=
  match bytes with
  | [] => []
  | b :: rest =>
      match (b :: rest).toByteArray.utf8DecodeChar? 0 with
      | some c => c :: fromUtf8Lossy ((b :: rest).drop c.utf8Size)
      | none => '\ufffd' :: fromUtf8Lossy ((b :: rest).drop (invalidLength (b :: rest)))
termination_by bytes.length
decreasing_by
  · have hpos := c.utf8Size_pos
    rw [List.length_drop, List.length_cons]
    omega
  · have hpos := invalidLength_pos (b :: rest)
    rw [List.length_drop, List.length_cons]
    omega

@[simp] theorem utf8Bytes_nil : utf8Bytes [] = [] := rfl

theorem utf8Bytes_cons (c : Char) (text : List Char) :
    utf8Bytes (c :: text) = String.utf8EncodeChar c ++ utf8Bytes text := rfl

/-- What is written as bytes is read as it was. -/
theorem fromUtf8Lossy_utf8Bytes (text : List Char) : fromUtf8Lossy (utf8Bytes text) = text := by
  induction text with
  | nil => rw [utf8Bytes_nil, fromUtf8Lossy]
  | cons c text ih =>
      have hsize := String.length_utf8EncodeChar c
      have hpos := c.utf8Size_pos
      have hread : (utf8Bytes (c :: text)).toByteArray.utf8DecodeChar? 0 = some c := by
        rw [utf8Bytes_cons, List.toByteArray_append]
        exact ByteArray.utf8DecodeChar?_utf8EncodeChar_append
      have hdrop : (utf8Bytes (c :: text)).drop c.utf8Size = utf8Bytes text := by
        rw [utf8Bytes_cons, ← hsize, List.drop_left]
      cases hbytes : utf8Bytes (c :: text) with
      | nil =>
          rw [utf8Bytes_cons, List.append_eq_nil_iff] at hbytes
          rw [hbytes.1, List.length_nil] at hsize
          omega
      | cons b rest =>
          rw [hbytes] at hread hdrop
          rw [fromUtf8Lossy, hread]
          dsimp only
          rw [hdrop, ih]

end Foundation
end CouchbaseSdk
