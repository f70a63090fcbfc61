import CouchbaseSdk.Foundation.Bytes
import CouchbaseSdk.Memdx.Wire
import Mathlib.Data.UInt

/-!
# Keys with a collection

Where collections are enabled, a key is sent behind the id of its collection.
-/

namespace CouchbaseSdk
namespace Memdx

open Foundation

def MAX_KEY_SIZE : Nat := 250

def MAX_KEY_SIZE_USING_COLLECTIONS : Nat := 246

structure OpsCrud where
  collectionsEnabled : Bool
  durabilityEnabled : Bool
  preserveExpiryEnabled : Bool
  extFramesEnabled : Bool
deriving DecidableEq

/-- The bytes of the id from `count` on.  Only the last one has no high bit, where nothing is
left of the id. -/
def makeUleb128From (cid : UInt32) (count : Nat) (buf : Buffer) : Exec Error (Nat × Buffer) :=
  let c := (cid &&& 0x7f).toUInt8
  let next := cid >>> 7
  if _ : next = 0 then do
    let buf <- Slice.write count [c] buf
    pure (count + 1, buf)
  else do
    let buf <- Slice.write count [c ||| 0x80] buf
    makeUleb128From next (count + 1) buf
termination_by cid.toNat
decreasing_by
  rename_i hnext
  have hshift : (cid >>> 7).toNat = cid.toNat / 128 := by
    rw [UInt32.toNat_shiftRight, Nat.shiftRight_eq_div_pow]
    rfl
  have hpos : (cid >>> 7).toNat ≠ 0 := fun h => hnext (UInt32.toNat_inj.mp h)
  omega

def makeUleb128_32 (collectionId : UInt32) (buf : Buffer) : Exec Error (Nat × Buffer) :=
  makeUleb128From collectionId 0 buf

def keyTooLong (maxKeySize keyLen : Nat) (suffix : String) : Error :=
  .invalidArgument ("key too long, " ++ maxKeySize.repr ++ " bytes max but is " ++
    keyLen.repr ++ " bytes" ++ suffix) (some "key")

def maxKeySize (collectionId : UInt32) : Nat :=
  if collectionId = 0 then MAX_KEY_SIZE else MAX_KEY_SIZE_USING_COLLECTIONS

/-- `buf` is what the caller has reserved for the key. -/
def encodeCollectionAndKey (ops : OpsCrud) (collectionId : UInt32) (key buf : Buffer) :
    Exec Error Buffer :=
  if ¬ ops.collectionsEnabled then
    if MAX_KEY_SIZE < key.length then .err (keyTooLong MAX_KEY_SIZE key.length "")
    else if collectionId ≠ 0 then
      .err (.invalidArgument "collections not enabled" (some "collection_id"))
    else .ok key
  else do
    let (encodedSize, buf) <- makeUleb128_32 collectionId buf
    if maxKeySize collectionId < key.length then
      .err (keyTooLong (maxKeySize collectionId) key.length " including collection prefix")
    else do
      let buf <- Slice.copy encodedSize key buf
      pure (buf.take (key.length + encodedSize))

/-- The buffer of the callers. -/
def keyBuf : Buffer := List.replicate 251 0

/-!
# The id
-/

theorem lowSeptet (cid : UInt32) : (cid &&& 0x7f).toUInt8 = UInt8.ofNat (cid.toNat % 128) := by
  apply UInt8.toNat_inj.mp
  have hmask : cid.toNat &&& 127 = cid.toNat % 128 := Nat.and_two_pow_sub_one_eq_mod cid.toNat 7
  have hand : (cid &&& 0x7f).toNat = cid.toNat % 128 := by
    rw [UInt32.toNat_and]
    exact hmask
  rw [UInt32.toNat_toUInt8, hand, UInt8.toNat_ofNat']

theorem septet_or (k : Fin 128) : UInt8.ofNat k ||| 0x80 = UInt8.ofNat (k + 128) := by
  revert k
  decide +kernel

theorem toNat_shift (cid : UInt32) : (cid >>> 7).toNat = cid.toNat / 128 := by
  rw [UInt32.toNat_shiftRight, Nat.shiftRight_eq_div_pow]
  rfl

theorem makeUleb128From_ok (cid : UInt32) {pre tail : Buffer}
    (h : (Leb128.encode cid.toNat).length ≤ tail.length) :
    makeUleb128From cid pre.length (pre ++ tail) =
      .ok (pre.length + (Leb128.encode cid.toNat).length,
        pre ++ Leb128.encode cid.toNat ++ tail.drop (Leb128.encode cid.toNat).length) := by
  generalize hn : cid.toNat = n at h
  induction n using Nat.strongRecOn generalizing cid pre tail with
  | ind n ih =>
      have hshift := toNat_shift cid
      rw [hn] at hshift
      rw [makeUleb128From, lowSeptet, hn]
      by_cases hnext : cid >>> 7 = 0
      · rw [hnext] at hshift
        have hlt : n < 128 := by
          have hzero : n / 128 = 0 := hshift.symm
          omega
        rw [Leb128.encode_of_lt hlt] at h ⊢
        rw [dif_pos hnext, Nat.mod_eq_of_lt hlt, Slice.write_append pre h]
        rfl
      · have hle : 128 ≤ n := by
          by_contra hlt
          refine hnext (UInt32.toNat_inj.mp ?_)
          rw [hshift, Nat.div_eq_of_lt (Nat.lt_of_not_le hlt)]
          rfl
        have hbyte : UInt8.ofNat (n % 128) ||| 0x80 = UInt8.ofNat (n % 128 + 128) :=
          septet_or ⟨n % 128, Nat.mod_lt _ (by decide)⟩
        rw [Leb128.encode_of_le hle] at h ⊢
        cases tail with
        | nil => cases h
        | cons x tail =>
            have hwrite : (Slice.write pre.length [UInt8.ofNat (n % 128 + 128)]
                (pre ++ x :: tail) : Exec Error Buffer) =
                .ok (pre ++ [UInt8.ofNat (n % 128 + 128)] ++ tail) :=
              Slice.write_append pre (Nat.succ_le_succ (Nat.zero_le _))
            have hlength : pre.length + 1 = (pre ++ [UInt8.ofNat (n % 128 + 128)]).length := by
              simp
            rw [dif_neg hnext, hbyte, hwrite, Exec.ok_bind, hlength,
              ih (n / 128) (by omega) (cid >>> 7) hshift (Nat.le_of_succ_le_succ h)]
            simp only [List.length_append, List.length_cons, List.length_nil, List.append_assoc,
              List.cons_append, List.nil_append, List.drop_succ_cons]
            rw [Nat.add_assoc, Nat.zero_add, Nat.add_comm 1]

theorem length_encode_id (collectionId : UInt32) :
    (Leb128.encode collectionId.toNat).length ≤ 5 := by
  have hlt : collectionId.toNat < 2 ^ 32 := collectionId.toNat_lt
  exact Leb128.length_encode_le 4 (by omega)

theorem length_encode_default : (Leb128.encode (0 : UInt32).toNat).length = 1 := by
  rw [show (0 : UInt32).toNat = 0 from rfl, Leb128.encode_of_lt (by decide)]
  rfl

theorem makeUleb128_32_ok (collectionId : UInt32) {buf : Buffer}
    (h : (Leb128.encode collectionId.toNat).length ≤ buf.length) :
    makeUleb128_32 collectionId buf =
      .ok ((Leb128.encode collectionId.toNat).length,
        Leb128.encode collectionId.toNat ++
          buf.drop (Leb128.encode collectionId.toNat).length) := by
  have hfrom := @makeUleb128From_ok collectionId [] buf h
  rw [List.length_nil, Nat.zero_add, List.nil_append] at hfrom
  exact hfrom

/-!
# The key
-/

variable {ops : OpsCrud} {collectionId : UInt32} {key : Buffer}

/-- The two limits leave room for the longest id that comes with them. -/
theorem fits_keyBuf (h : key.length ≤ maxKeySize collectionId) :
    (Leb128.encode collectionId.toNat).length + key.length ≤ keyBuf.length := by
  have hbuf : keyBuf.length = 251 := List.length_replicate
  have hid := length_encode_id collectionId
  unfold maxKeySize MAX_KEY_SIZE MAX_KEY_SIZE_USING_COLLECTIONS at h
  rw [hbuf]
  split at h
  · rename_i hzero
    rw [hzero, length_encode_default]
    omega
  · omega

theorem encodeCollectionAndKey_ok (hops : ops.collectionsEnabled = true)
    (h : key.length ≤ maxKeySize collectionId) :
    encodeCollectionAndKey ops collectionId key keyBuf =
      .ok (Leb128.encode collectionId.toNat ++ key) := by
  have hfits := fits_keyBuf h
  have hroom : key.length ≤
      (keyBuf.drop (Leb128.encode collectionId.toNat).length).length := by
    rw [List.length_drop]
    omega
  have hcopy : (Slice.copy (Leb128.encode collectionId.toNat).length key
      (Leb128.encode collectionId.toNat ++
        keyBuf.drop (Leb128.encode collectionId.toNat).length) : Exec Error Buffer) = _ :=
    Slice.copy_append (Leb128.encode collectionId.toNat) hroom
  have hlength : key.length + (Leb128.encode collectionId.toNat).length =
      (Leb128.encode collectionId.toNat ++ key).length := by
    rw [List.length_append, Nat.add_comm]
  rw [encodeCollectionAndKey, if_neg (not_not_intro hops),
    makeUleb128_32_ok collectionId (by omega)]
  simp only [Exec.ok_bind, if_neg (Nat.not_lt.mpr h), hcopy]
  rw [hlength, List.take_left]
  rfl

theorem encodeCollectionAndKey_long (hops : ops.collectionsEnabled = true)
    (h : maxKeySize collectionId < key.length) :
    encodeCollectionAndKey ops collectionId key keyBuf =
      .err (keyTooLong (maxKeySize collectionId) key.length " including collection prefix") := by
  have hbuf : keyBuf.length = 251 := List.length_replicate
  have hid := length_encode_id collectionId
  rw [encodeCollectionAndKey, if_neg (not_not_intro hops),
    makeUleb128_32_ok collectionId (by omega)]
  simp only [Exec.ok_bind, if_pos h]

theorem encodeCollectionAndKey_plain (hops : ops.collectionsEnabled = false)
    (hid : collectionId = 0) (h : key.length ≤ 250) (buf : Buffer) :
    encodeCollectionAndKey ops collectionId key buf = .ok key := by
  have hshort : ¬ MAX_KEY_SIZE < key.length := Nat.not_lt.mpr h
  rw [encodeCollectionAndKey, hops, if_pos Bool.false_ne_true, if_neg hshort,
    if_neg (not_not_intro hid)]

theorem encodeCollectionAndKey_refused (hops : ops.collectionsEnabled = false)
    (h : ¬ (collectionId = 0 ∧ key.length ≤ 250)) (buf : Buffer) :
    exists e, encodeCollectionAndKey ops collectionId key buf = .err e := by
  rw [encodeCollectionAndKey, hops, if_pos Bool.false_ne_true]
  rcases Nat.lt_or_ge MAX_KEY_SIZE key.length with hlong | hshort
  · rw [if_pos hlong]
    exact ⟨_, rfl⟩
  · rw [if_neg (Nat.not_lt.mpr hshort), if_pos fun hid => h ⟨hid, hshort⟩]
    exact ⟨_, rfl⟩

theorem encodeCollectionAndKey_ok_iff (hops : ops.collectionsEnabled = true) {bytes : Buffer} :
    encodeCollectionAndKey ops collectionId key keyBuf = .ok bytes <->
      key.length ≤ maxKeySize collectionId ∧ bytes = Leb128.encode collectionId.toNat ++ key := by
  rcases Nat.lt_or_ge (maxKeySize collectionId) key.length with hlong | hshort
  · rw [encodeCollectionAndKey_long hops hlong]
    exact iff_of_false nofun fun h => Nat.not_lt.mpr h.1 hlong
  · rw [encodeCollectionAndKey_ok hops hshort, Exec.ok.injEq]
    exact ⟨fun h => ⟨hshort, h.symm⟩, fun h => h.2.symm⟩

theorem encodeCollectionAndKey_returns (ops : OpsCrud) (collectionId : UInt32) (key : Buffer) :
    (encodeCollectionAndKey ops collectionId key keyBuf).Returns := by
  cases hops : ops.collectionsEnabled with
  | false =>
      by_cases h : collectionId = 0 ∧ key.length ≤ 250
      · rw [encodeCollectionAndKey_plain hops h.1 h.2]
        trivial
      · rcases encodeCollectionAndKey_refused hops h keyBuf with ⟨e, he⟩
        rw [he]
        trivial
  | true =>
      rcases Nat.lt_or_ge (maxKeySize collectionId) key.length with hlong | hshort
      · rw [encodeCollectionAndKey_long hops hlong]
        trivial
      · rw [encodeCollectionAndKey_ok hops hshort]
        trivial

/-- The encoder keeps within its buffer, refuses the keys that are too long and only these, and
what it returns is the id followed by the key, which can be told apart again. -/
theorem collection_key_reads_back (ops : OpsCrud) (collectionId : UInt32) (key : Buffer) :
    (encodeCollectionAndKey ops collectionId key keyBuf).Returns ∧
    (ops.collectionsEnabled = true ->
      ((exists bytes, encodeCollectionAndKey ops collectionId key keyBuf = .ok bytes) <->
        key.length ≤ if collectionId = 0 then 250 else 246) ∧
      (forall bytes, encodeCollectionAndKey ops collectionId key keyBuf = .ok bytes ->
        bytes = Leb128.encode collectionId.toNat ++ key ∧
          Leb128.decode bytes = some (collectionId.toNat, key)) ∧
      (forall otherId otherKey bytes,
        encodeCollectionAndKey ops collectionId key keyBuf = .ok bytes ->
          encodeCollectionAndKey ops otherId otherKey keyBuf = .ok bytes ->
            otherId = collectionId ∧ otherKey = key)) ∧
    (ops.collectionsEnabled = false ->
      (encodeCollectionAndKey ops collectionId key keyBuf = .ok key <->
        collectionId = 0 ∧ key.length ≤ 250) ∧
      (¬ (collectionId = 0 ∧ key.length ≤ 250) ->
        exists e, encodeCollectionAndKey ops collectionId key keyBuf = .err e)) := by
  refine ⟨encodeCollectionAndKey_returns ops collectionId key, ?_, ?_⟩
  · intro hops
    refine ⟨?_, ?_, ?_⟩
    · simp only [encodeCollectionAndKey_ok_iff hops]
      exact ⟨fun ⟨_, h, _⟩ => h, fun h => ⟨_, h, rfl⟩⟩
    · intro bytes hok
      rcases (encodeCollectionAndKey_ok_iff hops).mp hok with ⟨-, rfl⟩
      exact ⟨rfl, Leb128.decode_encode _ _⟩
    · intro otherId otherKey bytes hok hother
      rcases (encodeCollectionAndKey_ok_iff hops).mp hok with ⟨-, rfl⟩
      rcases (encodeCollectionAndKey_ok_iff hops).mp hother with ⟨-, hsame⟩
      rcases Leb128.encode_append_inj hsame with ⟨hid, hkey⟩
      exact ⟨UInt32.toNat_inj.mp hid.symm, hkey.symm⟩
  · intro hops
    refine ⟨⟨?_, ?_⟩, ?_⟩
    · intro hok
      by_contra h
      rcases encodeCollectionAndKey_refused hops h keyBuf with ⟨e, he⟩
      rw [he] at hok
      cases hok
    · intro h
      exact encodeCollectionAndKey_plain hops h.1 h.2 keyBuf
    · intro h
      exact encodeCollectionAndKey_refused hops h keyBuf

def collectionsOps (enabled : Bool) : OpsCrud :=
  { collectionsEnabled := enabled
    durabilityEnabled := true
    preserveExpiryEnabled := true
    extFramesEnabled := true }

theorem collection_key_reads_back_short :
    (exists bytes, encodeCollectionAndKey (collectionsOps true) 200 [0x6B] keyBuf = .ok bytes) ∧
      encodeCollectionAndKey (collectionsOps false) 0 [0x6B] keyBuf = .ok [0x6B] :=
  ⟨((collection_key_reads_back (collectionsOps true) 200 [0x6B]).2.1 rfl).1.mpr (by decide),
    ((collection_key_reads_back (collectionsOps false) 0 [0x6B]).2.2 rfl).1.mpr (by decide)⟩

end Memdx
end CouchbaseSdk
