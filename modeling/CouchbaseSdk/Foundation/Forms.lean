import CouchbaseSdk.Foundation.PercentEncoding
import Mathlib.Algebra.Order.BigOperators.Group.List
import Mathlib.Algebra.Order.Group.Nat
import Mathlib.Data.List.TakeWhile

/-!
# Forms

The pairs of a form stand between `&`, and the first `=` ends the name of one.  Escapes are read,
and a `+` is a space.  A form that is written without escapes is read as it was exactly if there
is nothing in it that the reader takes for something else.
-/

namespace CouchbaseSdk
namespace Foundation

namespace Forms

/-!
# Reading
-/

def replacePlus (text : List Char) : List Char :=
  text.map fun c => if c = '+' then ' ' else c

def decode (text : List Char) : List Char :=
  fromUtf8Lossy (percentDecode (utf8Bytes (replacePlus text)))

def decodePair (sequence : List Char) : List Char × List Char :=
  (decode (sequence.takeWhile (· != '=')), decode (sequence.dropWhile (· != '=')).tail)

/-- `form_urlencoded::parse` -/
def parse (input : List Char) : List (List Char × List Char) :=
  ((input.splitOn '&').filter (· ≠ [])).map decodePair

end Forms

/-!
# How many characters are read

The bytes of a text are counted in units: the bytes of a character that takes several, or any
single byte.  No character that is read comes from less than a unit, and an escape takes three.
-/

/-- The first byte of a character tells it from the ones behind it. -/
theorem utf8EncodeChar_cons (c : Char) :
    exists first more, String.utf8EncodeChar c = first :: more ∧ more.all continues = true ∧
      ((first < 0x80 ∧ c.toNat < 0x80 ∧ more = []) ∨ (0xC0 ≤ first ∧ 0x80 ≤ c.toNat)) := by
  have hbyte : forall {n : Nat}, n < 256 -> (UInt8.ofNat n).toNat = n := fun h =>
    UInt8.toNat_ofNat_of_lt' h
  have hcontinues : forall n, continues (UInt8.ofNat (n % 0x40 + 0x80)) = true := by
    intro n
    have hlt : n % 0x40 < 0x40 := Nat.mod_lt n (by decide)
    rw [continues, Bool.and_eq_true, decide_eq_true_iff, decide_eq_true_iff,
      UInt8.le_iff_toNat_le, UInt8.le_iff_toNat_le, hbyte (by omega)]
    exact ⟨Nat.le_add_left _ _, Nat.add_le_add_right (Nat.le_of_lt_succ hlt) 0x80⟩
  have hstarts : forall {n : Nat}, 0xC0 ≤ n -> n < 256 -> 0xC0 ≤ UInt8.ofNat n := by
    intro n hle hlt
    rw [UInt8.le_iff_toNat_le, hbyte hlt]
    exact hle
  unfold String.utf8EncodeChar
  dsimp only
  split
  · next h =>
      have hlt : c.val.toNat < 0x80 := Nat.lt_succ_of_le h
      refine ⟨_, [], rfl, rfl, Or.inl ⟨?_, hlt, rfl⟩⟩
      rw [UInt8.lt_iff_toNat_lt, hbyte (Nat.lt_trans hlt (by decide))]
      exact hlt
  · next h =>
      have hle : 0x80 ≤ c.toNat := Nat.lt_of_not_le h
      split
      · refine ⟨_, _, rfl, ?_, Or.inr ⟨hstarts (Nat.le_add_left _ _) ?_, hle⟩⟩
        · simp only [List.all_cons, List.all_nil, hcontinues, Bool.and_self]
        · omega
      · split
        · refine ⟨_, _, rfl, ?_, Or.inr ⟨hstarts (by omega) ?_, hle⟩⟩
          · simp only [List.all_cons, List.all_nil, hcontinues, Bool.and_self]
          · omega
        · refine ⟨_, _, rfl, ?_, Or.inr ⟨hstarts (by omega) ?_, hle⟩⟩
          · simp only [List.all_cons, List.all_nil, hcontinues, Bool.and_self]
          · omega

/-- So many units make the bytes. -/
inductive Units : Nat -> List UInt8 -> Prop where
  | nil : Units 0 []
  | byte {n : Nat} {bytes : List UInt8} (b : UInt8) : Units n bytes -> Units (n + 1) (b :: bytes)
  | char {n : Nat} {bytes : List UInt8} (c : Char) : 0x80 ≤ c.toNat -> Units n bytes ->
      Units (n + 1) (String.utf8EncodeChar c ++ bytes)

namespace Units

variable {n : Nat} {bytes : List UInt8}

theorem of_utf8Bytes (text : List Char) : Units text.length (utf8Bytes text) := by
  induction text with
  | nil => exact nil
  | cons c text ih =>
      rw [utf8Bytes_cons, List.length_cons]
      rcases utf8EncodeChar_cons c with ⟨first, more, hchar, _, ⟨_, _, rfl⟩ | ⟨_, hc⟩⟩
      · rw [hchar]
        exact byte first ih
      · exact char c hc ih

/-- The first unit is one byte, or the bytes of a character. -/
theorem cons_cases {b : UInt8} (h : Units n (b :: bytes)) :
    exists m, n = m + 1 ∧
      (Units m bytes ∨ exists c rest, 0x80 ≤ c.toNat ∧ Units m rest ∧
        b :: bytes = String.utf8EncodeChar c ++ rest) := by
  generalize hall : b :: bytes = all at h
  cases h with
  | nil => cases hall
  | @byte m bytes' b' h =>
      rcases List.cons.inj hall with ⟨rfl, rfl⟩
      exact ⟨m, rfl, Or.inl h⟩
  | @char m bytes' c hc h => exact ⟨m, rfl, Or.inr ⟨c, bytes', hc, h, rfl⟩⟩

/-- A byte that starts no longer character is a unit of its own. -/
theorem tail_of_lt {b : UInt8} (h : Units n (b :: bytes)) (hb : b < 0xC0) :
    exists m, n = m + 1 ∧ Units m bytes := by
  rcases h.cons_cases with ⟨m, hn, h | ⟨c, rest, hc, _, hbytes⟩⟩
  · exact ⟨m, hn, h⟩
  · rcases utf8EncodeChar_cons c with ⟨first, more, hchar, _, ⟨_, hlt, _⟩ | ⟨hfirst, _⟩⟩
    · exact absurd hc (Nat.not_le.mpr hlt)
    · rw [hchar, List.cons_append] at hbytes
      rw [(List.cons.inj hbytes).1] at hb
      exact absurd hfirst (UInt8.not_le.mpr hb)

theorem drop_continuing {more rest : List UInt8} (h : Units n (more ++ rest))
    (hmore : more.all continues = true) : exists m, m ≤ n ∧ Units m rest := by
  induction more generalizing n with
  | nil => exact ⟨n, Nat.le_refl n, h⟩
  | cons b more ih =>
      rw [List.all_cons, Bool.and_eq_true] at hmore
      have hb : b < 0xC0 := by
        have hle := hmore.1
        rw [continues, Bool.and_eq_true, decide_eq_true_iff, decide_eq_true_iff] at hle
        exact UInt8.lt_of_le_of_lt hle.2 (by decide)
      rcases tail_of_lt (List.cons_append ▸ h) hb with ⟨m, rfl, htail⟩
      rcases ih htail hmore.2 with ⟨m', hm', hrest⟩
      exact ⟨m', Nat.le_succ_of_le hm', hrest⟩

/-- Behind the bytes of a character are fewer units. -/
theorem drop_char {c : Char} {rest : List UInt8}
    (h : Units n (String.utf8EncodeChar c ++ rest)) : exists m, m < n ∧ Units m rest := by
  rcases utf8EncodeChar_cons c with ⟨first, more, hchar, hmore, _⟩
  have hcons : Units n (first :: (more ++ rest)) := by
    rw [← List.cons_append, ← hchar]
    exact h
  rcases hcons.cons_cases with ⟨m, rfl, htail | ⟨c', rest', _, hunits, hbytes⟩⟩
  · rcases htail.drop_continuing hmore with ⟨m', hm', hrest⟩
    exact ⟨m', Nat.lt_succ_of_le hm', hrest⟩
  · rw [← List.cons_append, ← hchar] at hbytes
    have hread := congrArg (fun l => l.toByteArray.utf8DecodeChar? 0) hbytes
    rw [List.toByteArray_append, List.toByteArray_append,
      ByteArray.utf8DecodeChar?_utf8EncodeChar_append,
      ByteArray.utf8DecodeChar?_utf8EncodeChar_append] at hread
    cases hread
    rw [List.append_cancel_left hbytes]
    exact ⟨m, Nat.lt_succ_self m, hunits⟩

end Units

/-- Only bytes that go on are replaced with the one before them. -/
theorem replaced_continues (b : UInt8) (rest : List UInt8) :
    exists more back, rest = more ++ back ∧ more.all continues = true ∧
      (b :: rest).drop (invalidLength (b :: rest)) = back := by
  have hsecond : forall second, secondContinues b second = true -> continues second = true := by
    intro second h
    have hbounds : 0x80 ≤ second ∧ second ≤ 0xBF := by
      unfold secondContinues at h
      split at h
      · rw [Bool.and_eq_true, decide_eq_true_iff, decide_eq_true_iff] at h
        exact ⟨UInt8.le_trans (by decide) h.1, h.2⟩
      · split at h
        · rw [Bool.and_eq_true, decide_eq_true_iff, decide_eq_true_iff] at h
          exact ⟨h.1, UInt8.le_trans h.2 (by decide)⟩
        · split at h
          · rw [Bool.and_eq_true, decide_eq_true_iff, decide_eq_true_iff] at h
            exact ⟨UInt8.le_trans (by decide) h.1, h.2⟩
          · split at h
            · rw [Bool.and_eq_true, decide_eq_true_iff, decide_eq_true_iff] at h
              exact ⟨h.1, UInt8.le_trans h.2 (by decide)⟩
            · rw [continues, Bool.and_eq_true, decide_eq_true_iff, decide_eq_true_iff] at h
              exact h
    rw [continues, Bool.and_eq_true, decide_eq_true_iff, decide_eq_true_iff]
    exact hbounds
  cases rest with
  | nil => exact ⟨[], [], rfl, rfl, rfl⟩
  | cons second rest =>
      cases rest with
      | nil =>
          rw [invalidLength]
          split
          · next h =>
              refine ⟨[second], [], rfl, ?_, rfl⟩
              rw [List.all_cons, hsecond second h.2]
              rfl
          · exact ⟨[], [second], rfl, rfl, rfl⟩
      | cons third rest =>
          rw [invalidLength]
          split
          · next h =>
              split
              · next hthird =>
                  refine ⟨[second, third], rest, rfl, ?_, rfl⟩
                  rw [List.all_cons, List.all_cons, hsecond second h.2, hthird.2]
                  rfl
              · refine ⟨[second], third :: rest, rfl, ?_, rfl⟩
                rw [List.all_cons, hsecond second h.2]
                rfl
          · exact ⟨[], second :: third :: rest, rfl, rfl, rfl⟩

/-- At the bytes of a character, it is read; else one character stands for what is replaced. -/
theorem fromUtf8Lossy_cons (b : UInt8) (rest : List UInt8) :
    (exists c back, b :: rest = String.utf8EncodeChar c ++ back ∧
      fromUtf8Lossy (b :: rest) = c :: fromUtf8Lossy back) ∨
    ((forall c back, b :: rest ≠ String.utf8EncodeChar c ++ back) ∧
      exists more back, rest = more ++ back ∧ more.all continues = true ∧
        fromUtf8Lossy (b :: rest) = '\ufffd' :: fromUtf8Lossy back) := by
  rw [fromUtf8Lossy]
  cases hread : (b :: rest).toByteArray.utf8DecodeChar? 0 with
  | some c =>
      left
      rcases ByteArray.exists_of_utf8DecodeChar?_eq_some hread with ⟨back, hback⟩
      have hbytes : b :: rest = String.utf8EncodeChar c ++ back.data.toList := by
        rw [← List.toByteArray_inj, hback, List.toByteArray_append]
        congr 1
        exact ByteArray.ext (by rw [List.data_toByteArray, Array.toArray_toList])
      refine ⟨c, back.data.toList, hbytes, ?_⟩
      dsimp only
      rw [hbytes, ← String.length_utf8EncodeChar c, List.drop_left]
  | none =>
      right
      constructor
      · intro c back hbytes
        rw [hbytes, List.toByteArray_append, ByteArray.utf8DecodeChar?_utf8EncodeChar_append]
          at hread
        cases hread
      · rcases replaced_continues b rest with ⟨more, back, hrest, hmore, hdrop⟩
        exact ⟨more, back, hrest, hmore, by rw [← hdrop]⟩

namespace Units

variable {n : Nat} {bytes : List UInt8}

theorem length_fromUtf8Lossy (h : Units n bytes) : (fromUtf8Lossy bytes).length ≤ n := by
  induction n using Nat.strongRecOn generalizing bytes with
  | ind n ih =>
      cases bytes with
      | nil =>
          rw [fromUtf8Lossy]
          exact Nat.zero_le n
      | cons b rest =>
          rcases fromUtf8Lossy_cons b rest with
            ⟨c, back, hbytes, hread⟩ | ⟨hnone, more, back, hrest, hmore, hread⟩
          · rw [hbytes] at h
            rcases h.drop_char with ⟨m, hm, hunits⟩
            rw [hread, List.length_cons]
            exact Nat.succ_le_of_lt (Nat.lt_of_le_of_lt (ih m hm hunits) hm)
          · rcases h.cons_cases with ⟨m, rfl, htail | ⟨c, back', _, _, hbytes⟩⟩
            · rw [hrest] at htail
              rcases htail.drop_continuing hmore with ⟨m', hm', hunits⟩
              rw [hread, List.length_cons]
              exact Nat.succ_le_succ
                (Nat.le_trans (ih m' (Nat.lt_succ_of_le hm') hunits) hm')
            · exact absurd hbytes (hnone c back')

end Units

theorem hexByteValue_lt {b : UInt8} {n : Nat} (h : hexByteValue b = some n) : b < 0xC0 := by
  unfold hexByteValue at h
  split at h
  · next hb => exact UInt8.lt_of_le_of_lt hb.2 (by decide)
  · split at h
    · next hb => exact UInt8.lt_of_le_of_lt hb.2 (by decide)
    · split at h
      · next hb => exact UInt8.lt_of_le_of_lt hb.2 (by decide)
      · cases h

theorem escape_lt {mark high low b : UInt8} (h : escape mark high low = some b) :
    mark < 0xC0 ∧ high < 0xC0 ∧ low < 0xC0 := by
  unfold escape at h
  split at h
  · next hmark =>
      refine ⟨by rw [hmark]; decide, ?_⟩
      split at h
      · next hh hl => exact ⟨hexByteValue_lt hh, hexByteValue_lt hl⟩
      · cases h
  · cases h

theorem hasEscape_cons_ne {b : UInt8} (h : b ≠ 0x25) (rest : List UInt8) :
    hasEscape (b :: rest) = hasEscape rest := by
  cases rest with
  | nil => rfl
  | cons high rest =>
      cases rest with
      | nil => rfl
      | cons low rest =>
          have hnone : escape b high low = none := if_neg h
          rw [hasEscape, hnone]
          rfl

/-- No byte of a longer character starts an escape. -/
theorem percentDecode_append {front : List UInt8} (h : forall b, b ∈ front -> b ≠ 0x25)
    (rest : List UInt8) :
    percentDecode (front ++ rest) = front ++ percentDecode rest ∧
      hasEscape (front ++ rest) = hasEscape rest := by
  induction front with
  | nil => exact ⟨rfl, rfl⟩
  | cons b front ih =>
      have hb := h b List.mem_cons_self
      have hrest := ih fun b' hb' => h b' (List.mem_cons_of_mem b hb')
      rw [List.cons_append, percentDecode_cons_ne hb, hasEscape_cons_ne hb, hrest.1, hrest.2]
      exact ⟨rfl, rfl⟩

theorem ne_mark_of_mem {c : Char} (hc : 0x80 ≤ c.toNat) {b : UInt8}
    (hb : b ∈ String.utf8EncodeChar c) : b ≠ 0x25 := by
  intro heq
  rcases utf8EncodeChar_cons c with ⟨first, more, hchar, hmore, ⟨_, hlt, _⟩ | ⟨hfirst, _⟩⟩
  · exact absurd hc (Nat.not_le.mpr hlt)
  · rw [hchar, heq] at hb
    rcases List.mem_cons.mp hb with hb | hb
    · rw [← hb] at hfirst
      exact absurd hfirst (by decide)
    · exact absurd (List.all_eq_true.mp hmore _ hb) (by decide)

/-- Escapes are read from more units than they leave. -/
theorem Units.percentDecode {n : Nat} {bytes : List UInt8} (h : Units n bytes) :
    exists m, m ≤ n ∧ (hasEscape bytes = true -> m < n) ∧
      Units m (Foundation.percentDecode bytes) := by
  induction n using Nat.strongRecOn generalizing bytes with
  | ind n ih =>
      cases bytes with
      | nil => exact ⟨n, Nat.le_refl n, fun hescape => (by cases hescape), h⟩
      | cons mark rest =>
          rcases h.cons_cases with ⟨m, rfl, htail | ⟨c, back, hc, hunits, hbytes⟩⟩
          · cases rest with
            | nil => exact ⟨m + 1, Nat.le_refl _, fun hescape => (by cases hescape), h⟩
            | cons high rest =>
                cases rest with
                | nil => exact ⟨m + 1, Nat.le_refl _, fun hescape => (by cases hescape), h⟩
                | cons low rest =>
                    cases hescape : escape mark high low with
                    | some b =>
                        have hlt := escape_lt hescape
                        rcases htail.tail_of_lt hlt.2.1 with ⟨m', rfl, htail'⟩
                        rcases htail'.tail_of_lt hlt.2.2 with ⟨k, rfl, hrest⟩
                        rcases ih k (by omega) hrest with ⟨k', hk', _, hdecoded⟩
                        refine ⟨k' + 1, by omega, fun _ => by omega, ?_⟩
                        rw [percentDecode_some hescape]
                        exact byte b hdecoded
                    | none =>
                        rcases ih m (Nat.lt_succ_self m) htail with
                          ⟨m', hm', hstrict, hdecoded⟩
                        refine ⟨m' + 1, Nat.succ_le_succ hm', ?_, ?_⟩
                        · intro hany
                          rw [hasEscape, hescape] at hany
                          exact Nat.succ_lt_succ (hstrict hany)
                        · rw [percentDecode_none hescape]
                          exact byte mark hdecoded
          · have happend := percentDecode_append (fun b hb => ne_mark_of_mem hc hb) back
            rw [hbytes, happend.1, happend.2]
            rcases ih m (Nat.lt_succ_self m) hunits with ⟨m', hm', hstrict, hdecoded⟩
            exact ⟨m' + 1, Nat.succ_le_succ hm', fun hany => Nat.succ_lt_succ (hstrict hany),
              char c hc hdecoded⟩

namespace Forms

theorem length_replacePlus (text : List Char) : (replacePlus text).length = text.length :=
  List.length_map _

theorem length_decode_le (text : List Char) : (decode text).length ≤ text.length := by
  rcases (Units.of_utf8Bytes (replacePlus text)).percentDecode with ⟨m, hm, _, hunits⟩
  rw [length_replacePlus] at hm
  exact Nat.le_trans hunits.length_fromUtf8Lossy hm

theorem length_decode_lt {text : List Char} (h : hasEscape (utf8Bytes (replacePlus text)) = true) :
    (decode text).length < text.length := by
  rcases (Units.of_utf8Bytes (replacePlus text)).percentDecode with ⟨m, _, hstrict, hunits⟩
  have hm := hstrict h
  rw [length_replacePlus] at hm
  exact Nat.lt_of_le_of_lt hunits.length_fromUtf8Lossy hm

end Forms

/-!
# Writing
-/

namespace Forms

def writePair (e : List Char × List Char) : List Char :=
  e.1 ++ '=' :: e.2

/-- Each pair as it stands. -/
def write (pairs : List (List Char × List Char)) : List Char :=
  ['&'].intercalate (pairs.map writePair)

/-- Nothing in the pair is taken for something else, or ends a line. -/
structure Clean (e : List Char × List Char) : Prop where
  key : forall c, c ∈ ['&', '=', '+', '\n'] -> c ∉ e.1
  value : forall c, c ∈ ['&', '+', '\n'] -> c ∉ e.2
  keyEscape : hasEscape (utf8Bytes e.1) = false
  valueEscape : hasEscape (utf8Bytes e.2) = false

variable {text : List Char}

theorem replacePlus_of_notMem (h : '+' ∉ text) : replacePlus text = text := by
  have hsame : forall c, c ∈ text -> (if c = '+' then ' ' else c) = id c := by
    intro c hc
    exact if_neg fun (heq : c = '+') => h (heq ▸ hc)
  rw [replacePlus, List.map_congr_left hsame, List.map_id]

theorem plus_notMem_replacePlus (text : List Char) : '+' ∉ replacePlus text := by
  intro h
  rcases List.mem_map.mp h with ⟨c, _, hc⟩
  split at hc
  · cases hc
  · next hne => exact hne hc

theorem decode_of_not_hasEscape (h : hasEscape (utf8Bytes (replacePlus text)) = false) :
    decode text = replacePlus text := by
  rw [decode, percentDecode_of_not_hasEscape h, fromUtf8Lossy_utf8Bytes]

theorem writePair_ne_nil (e : List Char × List Char) : writePair e ≠ [] :=
  List.append_ne_nil_of_right_ne_nil _ (List.cons_ne_nil _ _)

theorem write_cons (e : List Char × List Char) {pairs : List (List Char × List Char)}
    (h : pairs ≠ []) : write (e :: pairs) = writePair e ++ '&' :: write pairs := by
  have hne : pairs.map writePair ≠ [] := fun hnil => h (List.map_eq_nil_iff.mp hnil)
  rw [write, List.map_cons, List.intercalate_cons_of_ne_nil hne, List.append_assoc]
  rfl

theorem write_singleton (e : List Char × List Char) : write [e] = writePair e :=
  List.intercalate_singleton

theorem write_append {pairs more : List (List Char × List Char)} (h : pairs ≠ [])
    (hmore : more ≠ []) : write (pairs ++ more) = write pairs ++ '&' :: write more := by
  induction pairs with
  | nil => exact absurd rfl h
  | cons e pairs ih =>
      by_cases hnil : pairs = []
      · rw [hnil, List.singleton_append, write_cons e hmore, write_singleton]
      · rw [List.cons_append, write_cons e (List.append_ne_nil_of_left_ne_nil hnil more),
          write_cons e hnil, ih hnil, List.append_assoc, List.cons_append]

theorem write_ne_nil {pairs : List (List Char × List Char)} (h : pairs ≠ []) :
    write pairs ≠ [] := by
  cases pairs with
  | nil => exact absurd rfl h
  | cons e pairs =>
      by_cases hnil : pairs = []
      · rw [hnil, write_singleton]
        exact writePair_ne_nil e
      · rw [write_cons e hnil]
        exact List.append_ne_nil_of_left_ne_nil (writePair_ne_nil e) _

/-- Pairs without `&` are the pieces of what is written. -/
theorem parse_write {pairs : List (List Char × List Char)}
    (h : forall e, e ∈ pairs -> '&' ∉ writePair e) :
    parse (write pairs) = pairs.map fun e => decodePair (writePair e) := by
  cases pairs with
  | nil => rfl
  | cons e pairs =>
      have hpieces : forall p, p ∈ (e :: pairs).map writePair -> '&' ∉ p := by
        intro p hp
        rcases List.mem_map.mp hp with ⟨e', he', rfl⟩
        exact h e' he'
      have hfull : forall p, p ∈ (e :: pairs).map writePair -> decide (p ≠ []) = true := by
        intro p hp
        rcases List.mem_map.mp hp with ⟨e', _, rfl⟩
        exact decide_eq_true (writePair_ne_nil e')
      rw [parse, write, List.splitOn_intercalate '&' hpieces (List.cons_ne_nil _ _),
        List.filter_eq_self.mpr hfull, List.map_map]
      rfl

theorem decodePair_writePair {e : List Char × List Char} (h : '=' ∉ e.1) :
    decodePair (writePair e) = (decode e.1, decode e.2) := by
  have hall : forall c, c ∈ e.1 -> (c != '=') = true := by
    intro c hc
    rw [bne_iff_ne]
    exact fun heq => h (heq ▸ hc)
  have hstop : (('=' : Char) != '=') = false := rfl
  rw [decodePair, writePair, List.takeWhile_append_of_pos hall, List.dropWhile_append_of_pos hall,
    List.takeWhile_cons, List.dropWhile_cons, hstop]
  simp

namespace Clean

variable {e : List Char × List Char}

theorem decodePair (h : Clean e) : decodePair (writePair e) = e := by
  have hkey : '+' ∉ e.1 := h.key '+' (by decide)
  have hvalue : '+' ∉ e.2 := h.value '+' (by decide)
  rw [decodePair_writePair (h.key '=' (by decide)),
    decode_of_not_hasEscape (by rw [replacePlus_of_notMem hkey]; exact h.keyEscape),
    decode_of_not_hasEscape (by rw [replacePlus_of_notMem hvalue]; exact h.valueEscape),
    replacePlus_of_notMem hkey, replacePlus_of_notMem hvalue]

theorem notMem_writePair (h : Clean e) {c : Char} (hc : c = '&' ∨ c = '\n') :
    c ∉ writePair e := by
  intro hmem
  rcases List.mem_append.mp hmem with hmem | hmem
  · rcases hc with rfl | rfl
    · exact h.key '&' (by decide) hmem
    · exact h.key '\n' (by decide) hmem
  · rcases List.mem_cons.mp hmem with heq | hmem
    · rcases hc with rfl | rfl <;> cases heq
    · rcases hc with rfl | rfl
      · exact h.value '&' (by decide) hmem
      · exact h.value '\n' (by decide) hmem

end Clean

theorem notMem_write {pairs : List (List Char × List Char)} {c : Char} (hc : c ≠ '&')
    (h : forall e, e ∈ pairs -> c ∉ writePair e) : c ∉ write pairs := by
  induction pairs with
  | nil => exact List.not_mem_nil
  | cons e pairs ih =>
      have hrest := ih fun e' he' => h e' (List.mem_cons_of_mem e he')
      by_cases hnil : pairs = []
      · rw [hnil, write_singleton]
        exact h e List.mem_cons_self
      · rw [write_cons e hnil]
        intro hmem
        rcases List.mem_append.mp hmem with hmem | hmem
        · exact h e List.mem_cons_self hmem
        · rcases List.mem_cons.mp hmem with heq | hmem
          · exact hc heq
          · exact hrest hmem

/-- The first line is everything if no line ends. -/
theorem takeWhile_line (h : '\n' ∉ text) : text.takeWhile (· != '\n') = text := by
  rw [List.takeWhile_eq_self_iff]
  intro c hc
  rw [bne_iff_ne]
  exact fun heq => h (heq ▸ hc)

/-- Clean pairs are read as they are. -/
theorem parse_line_write {pairs : List (List Char × List Char)}
    (h : forall e, e ∈ pairs -> Clean e) :
    parse ((write pairs).takeWhile (· != '\n')) = pairs := by
  have hline : '\n' ∉ write pairs :=
    notMem_write (by decide) fun e he => (h e he).notMem_writePair (Or.inr rfl)
  have hsame : forall e, e ∈ pairs -> decodePair (writePair e) = id e :=
    fun e he => (h e he).decodePair
  rw [takeWhile_line hline, parse_write fun e he => (h e he).notMem_writePair (Or.inl rfl),
    List.map_congr_left hsame, List.map_id]

/-- A word stands before or behind a character that is not in it. -/
theorem infix_append_cons {word front back : List Char} {c : Char} (hc : c ∉ word) :
    word <:+: front ++ c :: back <-> word <:+: front ∨ word <:+: back := by
  constructor
  · intro ⟨before, behind, htext⟩
    rcases List.append_eq_append_iff.mp htext with ⟨rest, hfront, _⟩ | ⟨rest, hword, hback⟩
    · exact Or.inl ⟨before, rest, hfront.symm⟩
    · cases rest with
      | nil =>
          left
          refine ⟨before, [], ?_⟩
          rw [hword, List.append_nil, List.append_nil]
      | cons d rest =>
          rcases List.cons.inj hback with ⟨rfl, hrest⟩
          rcases List.append_eq_append_iff.mp hword with ⟨more, _, htail⟩ | ⟨more, _, htail⟩
          · exact absurd (htail ▸ List.mem_append_right more List.mem_cons_self) hc
          · cases more with
            | nil =>
                have hword' : c :: rest = word := htail
                exact absurd (hword' ▸ List.mem_cons_self) hc
            | cons d more =>
                have htail' : rest = more ++ word := (List.cons.inj htail).2
                rw [htail'] at hrest
                exact Or.inr ⟨more, behind, hrest.symm⟩
  · intro h
    rcases h with ⟨before, behind, rfl⟩ | ⟨before, behind, rfl⟩
    · exact ⟨before, behind ++ c :: back, by simp only [List.append_assoc]⟩
    · exact ⟨front ++ c :: before, behind, by simp only [List.append_assoc, List.cons_append]⟩

/-- A word without the marks between them stands in a name or in a value. -/
theorem infix_write {word : List Char} (hne : word ≠ []) (hamp : '&' ∉ word) (hmark : '=' ∉ word)
    {pairs : List (List Char × List Char)} :
    word <:+: write pairs <-> exists e, e ∈ pairs ∧ (word <:+: e.1 ∨ word <:+: e.2) := by
  have hpair : forall e, word <:+: writePair e <-> word <:+: e.1 ∨ word <:+: e.2 := fun _ =>
    infix_append_cons hmark
  induction pairs with
  | nil =>
      constructor
      · intro h
        exact absurd (List.infix_nil.mp h) hne
      · intro ⟨_, he, _⟩
        cases he
  | cons e pairs ih =>
      have hexists : (exists e', e' ∈ e :: pairs ∧ (word <:+: e'.1 ∨ word <:+: e'.2)) <->
          word <:+: writePair e ∨ word <:+: write pairs := by
        rw [hpair e]
        simp only [List.mem_cons, exists_eq_or_imp]
        exact or_congr_right ih.symm
      rw [hexists]
      by_cases hnil : pairs = []
      · rw [hnil, write_singleton]
        constructor
        · exact Or.inl
        · intro h
          rcases h with h | h
          · exact h
          · exact absurd (List.infix_nil.mp h) hne
      · rw [write_cons e hnil, infix_append_cons hamp]

/-!
# How much is read

The characters of a form are counted without those that end a name or a pair.  No more can be read
from it, and pairs that are written have no more than they hold.
-/

/-- Without the `&`, and the first `=` between them. -/
def weight : Bool -> List Char -> Nat
  | _, [] => 0
  | named, c :: text =>
      if c = '&' then weight false text
      else if c = '=' ∧ named = false then weight true text
      else weight named text + 1

def payload (pairs : List (List Char × List Char)) : Nat :=
  (pairs.map fun e => e.1.length + e.2.length).sum

theorem weight_append (named : Bool) (text more : List Char) :
    weight named (text ++ '&' :: more) = weight named text + weight false more := by
  induction text generalizing named with
  | nil =>
      have hend : weight named ('&' :: more) = weight false more := if_pos rfl
      rw [List.nil_append, hend, weight, Nat.zero_add]
  | cons c text ih =>
      rw [List.cons_append, weight, weight, ih, ih, ih]
      split
      · rfl
      · split
        · rfl
        · exact Nat.add_right_comm _ _ _

theorem weight_takeWhile (named : Bool) (text : List Char) :
    weight named (text.takeWhile (· != '\n')) ≤ weight named text ∧
      ('\n' ∈ text -> weight named (text.takeWhile (· != '\n')) < weight named text) := by
  induction text generalizing named with
  | nil => exact ⟨Nat.le_refl _, fun h => (by cases h)⟩
  | cons c text ih =>
      by_cases hc : c = '\n'
      · have hstop : ('\n' != '\n') = false := rfl
        have hpos : 0 < weight named ('\n' :: text) := by
          rw [weight, if_neg (by decide), if_neg (fun h => absurd h.1 (by decide))]
          exact Nat.succ_pos _
        rw [hc, List.takeWhile_cons, hstop, if_neg Bool.false_ne_true]
        exact ⟨Nat.zero_le _, fun _ => hpos⟩
      · have hgo : (c != '\n') = true := bne_iff_ne.mpr hc
        have hmem : '\n' ∈ c :: text -> '\n' ∈ text := by
          intro h
          rcases List.mem_cons.mp h with heq | h
          · exact absurd heq.symm hc
          · exact h
        rw [List.takeWhile_cons, if_pos hgo, weight, weight]
        split
        · exact ⟨(ih false).1, fun h => (ih false).2 (hmem h)⟩
        · split
          · exact ⟨(ih true).1, fun h => (ih true).2 (hmem h)⟩
          · exact ⟨Nat.succ_le_succ (ih named).1, fun h => Nat.succ_lt_succ ((ih named).2 (hmem h))⟩

theorem weight_named (h : '&' ∉ text) : weight true text = text.length := by
  induction text with
  | nil => rfl
  | cons c text ih =>
      rw [List.mem_cons, not_or] at h
      rw [weight, if_neg fun heq => h.1 heq.symm, if_neg fun heq => (by cases heq.2), ih h.2,
        List.length_cons]

/-- One piece counts as much as its name and its value. -/
theorem weight_piece (h : '&' ∉ text) :
    weight false text =
      (text.takeWhile (· != '=')).length + (text.dropWhile (· != '=')).tail.length := by
  induction text with
  | nil => rfl
  | cons c text ih =>
      rw [List.mem_cons, not_or] at h
      rw [weight, if_neg fun heq => h.1 heq.symm, List.takeWhile_cons, List.dropWhile_cons]
      by_cases hc : c = '='
      · have hstop : (c != '=') = false := by rw [hc]; rfl
        rw [if_pos ⟨hc, rfl⟩, hstop, if_neg Bool.false_ne_true, if_neg Bool.false_ne_true,
          List.length_nil, Nat.zero_add, List.tail_cons, weight_named h.2]
      · have hgo : (c != '=') = true := bne_iff_ne.mpr hc
        rw [if_neg fun heq => hc heq.1, if_pos hgo, if_pos hgo, ih h.2, List.length_cons]
        exact Nat.add_right_comm _ _ _

/-- A text is taken piece by piece. -/
theorem pieces_induction {P : List Char -> Prop} (last : forall p, '&' ∉ p -> P p)
    (more : forall p rest, '&' ∉ p -> P rest -> P (p ++ '&' :: rest)) (text : List Char) :
    P text := by
  induction hn : text.length using Nat.strongRecOn generalizing text with
  | ind n ih =>
      by_cases h : '&' ∈ text
      · rcases List.eq_append_cons_of_mem h with ⟨p, rest, rfl, hp⟩
        refine more p rest hp (ih rest.length ?_ rest rfl)
        rw [← hn, List.length_append, List.length_cons]
        exact Nat.lt_of_lt_of_le (Nat.lt_succ_self _) (Nat.le_add_left _ _)
      · exact last text h

theorem parse_append {p : List Char} (h : '&' ∉ p) (rest : List Char) :
    parse (p ++ '&' :: rest) = parse p ++ parse rest := by
  rw [parse, parse, parse, List.splitOn_append_cons_self_of_not_mem h,
    List.splitOn_eq_singleton h, List.filter_cons, List.filter_cons]
  split
  · rfl
  · rfl

theorem parse_piece {p : List Char} (h : '&' ∉ p) :
    parse p = if p = [] then [] else [decodePair p] := by
  rw [parse, List.splitOn_eq_singleton h, List.filter_cons]
  split
  · next hne =>
      rw [if_neg (of_decide_eq_true hne)]
      rfl
  · next hnil =>
      rw [if_pos (Decidable.not_not.mp fun hne => hnil (decide_eq_true hne))]
      rfl

theorem payload_append (pairs more : List (List Char × List Char)) :
    payload (pairs ++ more) = payload pairs + payload more := by
  rw [payload, List.map_append, List.sum_append]
  rfl

/-- No more is read than there is. -/
theorem payload_parse_le (text : List Char) : payload (parse text) ≤ weight false text := by
  have hpiece : forall p, '&' ∉ p -> payload (parse p) ≤ weight false p := by
    intro p hp
    rw [parse_piece hp, weight_piece hp]
    split
    · exact Nat.zero_le _
    · rw [payload, List.map_singleton, List.sum_singleton]
      exact Nat.add_le_add (length_decode_le _) (length_decode_le _)
  induction text using pieces_induction with
  | last p hp => exact hpiece p hp
  | more p rest hp ih =>
      rw [parse_append hp, payload_append, weight_append]
      exact Nat.add_le_add (hpiece p hp) ih

theorem weight_count (named : Bool) (text : List Char) :
    weight named text + text.count '&' + (if named = false ∧ '=' ∈ text then 1 else 0) ≤
      text.length := by
  induction text generalizing named with
  | nil =>
      rw [if_neg fun h => (by cases h.2)]
      exact Nat.le_refl _
  | cons c text ih =>
      have hmem : '=' ∈ c :: text -> c ≠ '=' -> '=' ∈ text := by
        intro h hc
        rcases List.mem_cons.mp h with heq | h
        · exact absurd heq.symm hc
        · exact h
      rw [weight, List.length_cons]
      split
      · next hc =>
          have hrest := ih false
          have hne : c ≠ '=' := by
            rw [hc]
            decide
          have hone : (c :: text).count '&' = text.count '&' + 1 := by
            rw [hc, List.count_cons_self]
          rw [hone]
          split
          · next h =>
              rw [if_pos ⟨rfl, hmem h.2 hne⟩] at hrest
              omega
          · omega
      · next hc =>
          rw [List.count_cons_of_ne hc]
          split
          · have hrest := ih true
            split <;> omega
          · next hnamed =>
              have hrest := ih named
              split
              · next h =>
                  rw [if_pos ⟨h.1, hmem h.2 fun heq => hnamed ⟨heq, h.1⟩⟩] at hrest
                  omega
              · omega

/-- A `&` in a pair is lost. -/
theorem weight_writePair (e : List Char × List Char) :
    weight false (writePair e) + (writePair e).count '&' ≤ e.1.length + e.2.length := by
  have hmem : '=' ∈ writePair e := List.mem_append_right _ List.mem_cons_self
  have hle := weight_count false (writePair e)
  rw [if_pos ⟨rfl, hmem⟩] at hle
  have hlength : (writePair e).length = e.1.length + e.2.length + 1 := List.length_append
  omega

theorem weight_write (pairs : List (List Char × List Char)) :
    weight false (write pairs) + (pairs.map fun e => (writePair e).count '&').sum ≤
      payload pairs := by
  induction pairs with
  | nil => exact Nat.le_refl _
  | cons e pairs ih =>
      have he := weight_writePair e
      rw [payload, List.map_cons, List.sum_cons, List.map_cons, List.sum_cons, ← payload]
      by_cases hnil : pairs = []
      · rw [hnil, write_singleton, List.map_nil, List.sum_nil]
        omega
      · rw [write_cons e hnil, weight_append]
        omega

theorem eq_of_sum_le {alpha : Type} {f g : alpha -> Nat} {l : List alpha}
    (hle : forall a, a ∈ l -> f a ≤ g a) (hsum : (l.map g).sum ≤ (l.map f).sum) :
    forall a, a ∈ l -> f a = g a := by
  intro a ha
  by_contra hne
  have hlt : f a < g a := Nat.lt_of_le_of_ne (hle a ha) hne
  exact absurd hsum (Nat.not_le.mpr (List.sum_lt_sum f g hle ⟨a, ha, hlt⟩))

/-- A name is cut at the first `=` in it. -/
theorem length_name (e : List Char × List Char) :
    ((writePair e).takeWhile (· != '=')).length ≤ e.1.length ∧
      ('=' ∈ e.1 -> ((writePair e).takeWhile (· != '=')).length < e.1.length) := by
  have hcut : forall front back : List Char, '=' ∉ front ->
      (front ++ '=' :: back).takeWhile (· != '=') = front := by
    intro front back hfront
    have hall : forall c, c ∈ front -> (c != '=') = true := by
      intro c hc
      rw [bne_iff_ne]
      exact fun heq => hfront (heq ▸ hc)
    rw [List.takeWhile_append_of_pos hall, List.takeWhile_cons_of_neg (by decide),
      List.append_nil]
  by_cases hmem : '=' ∈ e.1
  · rcases List.eq_append_cons_of_mem hmem with ⟨front, back, hkey, hfront⟩
    have hlt : ((writePair e).takeWhile (· != '=')).length < e.1.length := by
      rw [writePair, hkey, List.append_assoc, List.cons_append, hcut front _ hfront,
        List.length_append, List.length_cons]
      exact Nat.lt_add_of_pos_right (Nat.succ_pos _)
    exact ⟨Nat.le_of_lt hlt, fun _ => hlt⟩
  · rw [writePair, hcut e.1 e.2 hmem]
    exact ⟨Nat.le_refl _, fun h => absurd h hmem⟩

theorem mem_write {pairs : List (List Char × List Char)} {e : List Char × List Char}
    (he : e ∈ pairs) {c : Char} (hc : c ∈ writePair e) : c ∈ write pairs := by
  induction pairs with
  | nil => cases he
  | cons e' pairs ih =>
      by_cases hnil : pairs = []
      · rw [hnil, List.mem_singleton] at he
        rw [hnil, write_singleton, ← he]
        exact hc
      · rw [write_cons e' hnil]
        rcases List.mem_cons.mp he with rfl | he
        · exact List.mem_append_left _ hc
        · exact List.mem_append_right _ (List.mem_cons_of_mem _ (ih he))

theorem not_hasEscape_of_length (h : (decode text).length = text.length) :
    hasEscape (utf8Bytes (replacePlus text)) = false := by
  cases hescape : hasEscape (utf8Bytes (replacePlus text)) with
  | false => rfl
  | true => exact absurd h (Nat.ne_of_lt (length_decode_lt hescape))

/-- Names and values that are read from the pairs, in whatever order, are of the same length. -/
theorem lengths_of_perm {pairs : List (List Char × List Char)}
    (h : (pairs.map fun e => decodePair (writePair e)).Perm pairs) :
    forall e, e ∈ pairs -> '=' ∉ e.1 ∧ (decode e.1).length = e.1.length ∧
      (decode e.2).length = e.2.length := by
  have hkeys : forall e, e ∈ pairs ->
      (decode ((writePair e).takeWhile (· != '='))).length = e.1.length := by
    refine eq_of_sum_le ?_ ?_
    · intro e _
      exact Nat.le_trans (length_decode_le _) (length_name e).1
    · have hsum := (h.map fun e => e.1.length).sum_eq
      rw [List.map_map] at hsum
      exact Nat.le_of_eq hsum.symm
  have hnamed : forall e, e ∈ pairs -> '=' ∉ e.1 := by
    intro e he hmem
    have hlt := (length_name e).2 hmem
    rw [← hkeys e he] at hlt
    exact absurd (length_decode_le _) (Nat.not_le.mpr hlt)
  have hvalues : forall e, e ∈ pairs -> (decode e.2).length = e.2.length := by
    refine eq_of_sum_le ?_ ?_
    · intro e _
      exact length_decode_le _
    · have hsum := (h.map fun e => e.2.length).sum_eq
      have hsame : forall e, e ∈ pairs ->
          ((fun e => e.2.length) ∘ fun e => decodePair (writePair e)) e =
            (decode e.2).length := by
        intro e he
        rw [Function.comp_apply, decodePair_writePair (hnamed e he)]
      rw [List.map_map, List.map_congr_left hsame] at hsum
      exact Nat.le_of_eq hsum.symm
  intro e he
  have hkey := hkeys e he
  have hread : decode ((writePair e).takeWhile (· != '=')) = decode e.1 :=
    congrArg Prod.fst (decodePair_writePair (hnamed e he))
  rw [hread] at hkey
  exact ⟨hnamed e he, hkey, hvalues e he⟩

/-- What is read as it was, in whatever order, was clean. -/
theorem clean_of_perm {pairs : List (List Char × List Char)}
    (h : (parse ((write pairs).takeWhile (· != '\n'))).Perm pairs) :
    forall e, e ∈ pairs -> Clean e := by
  have hpayload : payload (parse ((write pairs).takeWhile (· != '\n'))) = payload pairs :=
    (h.map _).sum_eq
  have hread := payload_parse_le ((write pairs).takeWhile (· != '\n'))
  have hwritten := weight_write pairs
  have hline := weight_takeWhile false (write pairs)
  have hend : '\n' ∉ write pairs := by
    intro hmem
    have hlt := hline.2 hmem
    omega
  have hamp : forall e, e ∈ pairs -> '&' ∉ writePair e := by
    have hsum : (pairs.map fun e => (writePair e).count '&').sum = 0 := by omega
    intro e he
    rw [List.sum_eq_zero_iff] at hsum
    exact List.count_eq_zero.mp (hsum _ (List.mem_map.mpr ⟨e, he, rfl⟩))
  rw [takeWhile_line hend, parse_write hamp] at h
  have hlengths := lengths_of_perm h
  have hplus : forall e, e ∈ pairs -> '+' ∉ e.1 ∧ '+' ∉ e.2 := by
    intro e he
    rcases List.mem_map.mp (h.mem_iff.mpr he) with ⟨e', he', heq⟩
    rcases hlengths e' he' with ⟨hnamed, hkey, hvalue⟩
    rw [decodePair_writePair hnamed, decode_of_not_hasEscape (not_hasEscape_of_length hkey),
      decode_of_not_hasEscape (not_hasEscape_of_length hvalue)] at heq
    rw [← heq]
    exact ⟨plus_notMem_replacePlus _, plus_notMem_replacePlus _⟩
  intro e he
  rcases hlengths e he with ⟨hnamed, hkey, hvalue⟩
  have hkeyEscape := not_hasEscape_of_length hkey
  have hvalueEscape := not_hasEscape_of_length hvalue
  rw [replacePlus_of_notMem (hplus e he).1] at hkeyEscape
  rw [replacePlus_of_notMem (hplus e he).2] at hvalueEscape
  have hin : forall c, c ∈ e.2 -> c ∈ writePair e := fun c hc =>
    List.mem_append_right _ (List.mem_cons_of_mem _ hc)
  have hin' : forall c, c ∈ e.1 -> c ∈ writePair e := fun c hc => List.mem_append_left _ hc
  refine { key := ?_, value := ?_, keyEscape := hkeyEscape, valueEscape := hvalueEscape }
  · intro c hc hmem
    simp only [List.mem_cons, List.not_mem_nil, or_false] at hc
    rcases hc with rfl | rfl | rfl | rfl
    · exact hamp e he (hin' _ hmem)
    · exact hnamed hmem
    · exact (hplus e he).1 hmem
    · exact hend (mem_write he (hin' _ hmem))
  · intro c hc hmem
    simp only [List.mem_cons, List.not_mem_nil, or_false] at hc
    rcases hc with rfl | rfl | rfl
    · exact hamp e he (hin _ hmem)
    · exact (hplus e he).2 hmem
    · exact hend (mem_write he (hin _ hmem))

/-- Pairs are read as they were written, in whatever order, exactly if they are clean. -/
theorem parse_line_write_perm_iff {pairs : List (List Char × List Char)} :
    (parse ((write pairs).takeWhile (· != '\n'))).Perm pairs <->
      forall e, e ∈ pairs -> Clean e := by
  constructor
  · exact clean_of_perm
  · intro h
    rw [parse_line_write h]

end Forms

end Foundation
end CouchbaseSdk
