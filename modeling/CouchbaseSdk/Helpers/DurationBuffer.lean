import CouchbaseSdk.Foundation.Exec
import CouchbaseSdk.Foundation.Utf8
import CouchbaseSdk.Helpers.Durations

/-!
# The buffer of a duration that is written

The buffer has 32 bytes and is filled from its end on.  A byte in front of the first one is no
place in it, and ends the program.
-/

namespace CouchbaseSdk
namespace Helpers
namespace DurationBuffer

open Foundation

/-- The bytes that are written so far, from the last place on. -/
structure Buffer where
  bytes : List UInt8
  fits : bytes.length ≤ 32

def put (buf : Buffer) (b : UInt8) : Exec Empty Buffer :=
  if h : buf.bytes.length < 32 then .ok ⟨b :: buf.bytes, h⟩ else .panic

def digitByte (digit : Nat) : UInt8 :=
  UInt8.ofNat digit + 48

def fracLoop : Nat -> Nat -> Bool -> Buffer -> Exec Empty (Nat × Bool × Buffer)
  | 0, v, print, buf => .ok (v, print, buf)
  | prec + 1, v, print, buf =>
      let digit := v % 10
      let print := print || digit != 0
      (if print then put buf (digitByte digit) else .ok buf) >>= fun buf =>
        fracLoop prec (v / 10) print buf

def fmtFrac (buf : Buffer) (v prec : Nat) : Exec Empty (Buffer × Nat) :=
  fracLoop prec v false buf >>= fun (v, print, buf) =>
    (if print then put buf 46 else .ok buf) >>= fun buf => .ok (buf, v)

/-- A number of 64 bits has no more than 20 digits. -/
def intLoop : Nat -> Nat -> Buffer -> Exec Empty Buffer
  | 0, _, buf => .ok buf
  | n + 1, v, buf =>
      if 0 < v then put buf (digitByte (v % 10)) >>= fun buf => intLoop n (v / 10) buf
      else .ok buf

def fmtInt (buf : Buffer) (v : Nat) : Exec Empty Buffer :=
  if v = 0 then put buf 48 else intLoop 20 v buf

/-- The letters of a unit below a second, and the digits of its fraction. -/
def putUnit (buf : Buffer) (u : Nat) : Exec Empty (Buffer × Nat) :=
  if u < 1000 then put buf 110 >>= fun buf => .ok (buf, 0)
  else if u < 1000000 then
    put buf 0xB5 >>= fun buf => put buf 0xC2 >>= fun buf => .ok (buf, 3)
  else put buf 109 >>= fun buf => .ok (buf, 6)

/-- The minutes and the hours of so many seconds. -/
def fmtMinutes (buf : Buffer) (u : Nat) : Exec Empty Buffer :=
  fmtInt buf (u % 60) >>= fun buf =>
    let u := u / 60
    if 0 < u then
      put buf 109 >>= fun buf => fmtInt buf (u % 60) >>= fun buf =>
        let u := u / 60
        if 0 < u then put buf 104 >>= fun buf => fmtInt buf u else .ok buf
    else .ok buf

def fill (u : Nat) : Exec Empty Buffer :=
  put ⟨[], Nat.zero_le 32⟩ 115 >>= fun buf =>
    if u < 1000000000 then
      if u = 0 then put buf 48
      else
        putUnit buf u >>= fun (buf, prec) =>
          fmtFrac buf u prec >>= fun (buf, u) => fmtInt buf u
    else fmtFrac buf u 9 >>= fun (buf, u) => fmtMinutes buf u

def durationToGolangString (duration : Duration) : Exec Empty String :=
  (fill (duration.asNanos % 2 ^ 64)).map fun buf => String.ofList (fromUtf8Lossy buf.bytes)

/-!
# What is in the buffer
-/

/-- The buffer holds the text, of no more than `n` bytes. -/
structure Holds (buf : Buffer) (text : List Char) (n : Nat) : Prop where
  bytes : buf.bytes = utf8Bytes text
  length : buf.bytes.length ≤ n

/-- The step leaves a text of no more than `n` bytes in the buffer. -/
def Leaves (x : Exec Empty Buffer) (text : List Char) (n : Nat) : Prop :=
  exists buf, x = .ok buf ∧ Holds buf text n

theorem put_leaves {buf : Buffer} {text : List Char} {n : Nat} {b : UInt8} {c : Char}
    (h : Holds buf text n) (hn : n < 32) (hb : String.utf8EncodeChar c = [b]) :
    Leaves (put buf b) (c :: text) (n + 1) := by
  have hroom : buf.bytes.length < 32 := lt_of_le_of_lt h.length hn
  refine ⟨⟨b :: buf.bytes, hroom⟩, dif_pos hroom, ?_, ?_⟩
  · rw [utf8Bytes_cons, hb, ← h.bytes]
    rfl
  · exact Nat.succ_le_succ h.length

theorem utf8EncodeChar_digitChar {d : Nat} (hd : d < 10) :
    String.utf8EncodeChar d.digitChar = [digitByte d] := by
  have hall : forall d, d < 10 -> String.utf8EncodeChar d.digitChar = [digitByte d] := by decide
  exact hall d hd

theorem putDigit_leaves {buf : Buffer} {text : List Char} {n v : Nat} (h : Holds buf text n)
    (hn : n < 32) :
    Leaves (put buf (digitByte (v % 10))) ((v % 10).digitChar :: text) (n + 1) :=
  put_leaves h hn (utf8EncodeChar_digitChar (Nat.mod_lt v (by decide)))

theorem fracLoop_leaves (prec : Nat) : forall (v : Nat) (print : Bool) (buf : Buffer)
    (text : List Char) (n : Nat), Holds buf text n -> n + prec ≤ 32 ->
      exists buf', fracLoop prec v print buf =
          .ok ((Helpers.fracLoop prec v print text).1,
            (Helpers.fracLoop prec v print text).2.1, buf') ∧
        Holds buf' (Helpers.fracLoop prec v print text).2.2 (n + prec) := by
  induction prec with
  | zero =>
      intro v print buf text n h _
      exact ⟨buf, rfl, h⟩
  | succ prec ih =>
      intro v print buf text n h hn
      unfold fracLoop Helpers.fracLoop
      dsimp only
      by_cases hprint : (print || v % 10 != 0) = true
      · rw [hprint, if_pos rfl, if_pos rfl]
        rcases @putDigit_leaves buf text n v h (by omega) with ⟨buf', hput, hholds⟩
        rw [hput, Exec.ok_bind]
        have hmore := ih (v / 10) true buf' _ (n + 1) hholds (by omega)
        rwa [show n + 1 + prec = n + (prec + 1) by omega] at hmore
      · have hfalse := Bool.eq_false_iff.mpr hprint
        rw [hfalse, if_neg Bool.false_ne_true, if_neg Bool.false_ne_true, Exec.ok_bind]
        rcases ih (v / 10) false buf text n h (by omega) with ⟨buf', hloop, hholds⟩
        exact ⟨buf', hloop, hholds.bytes, le_trans hholds.length (by omega)⟩

theorem fmtFrac_leaves {buf : Buffer} {text : List Char} {n : Nat} (v prec : Nat)
    (h : Holds buf text n) (hn : n + prec < 32) :
    exists buf', fmtFrac buf v prec = .ok (buf', v / 10 ^ prec) ∧
      Holds buf' (Helpers.fmtFrac text v prec).1 (n + prec + 1) := by
  rcases fracLoop_leaves prec v false buf text n h (by omega) with ⟨buf', hloop, hholds⟩
  have hleft := fmtFrac_left text v prec
  unfold fmtFrac
  unfold Helpers.fmtFrac at hleft ⊢
  dsimp only at hleft ⊢
  rw [hloop, Exec.ok_bind, hleft]
  dsimp only
  by_cases hprint : (Helpers.fracLoop prec v false text).2.1 = true
  · rw [if_pos hprint, if_pos hprint]
    rcases @put_leaves buf' _ _ 46 '.' hholds hn rfl with ⟨buf'', hput, hpoint⟩
    rw [hput, Exec.ok_bind]
    exact ⟨buf'', rfl, hpoint⟩
  · rw [if_neg hprint, if_neg hprint, Exec.ok_bind]
    exact ⟨buf', rfl, hholds.bytes, le_trans hholds.length (Nat.le_succ _)⟩

/-- A number of `k` digits needs `k` bytes. -/
theorem intLoop_leaves (m : Nat) : forall (k v : Nat) (buf : Buffer) (text : List Char) (n : Nat),
    k ≤ m -> v < 10 ^ k -> Holds buf text n -> n + k ≤ 32 ->
      Leaves (intLoop m v buf) (Helpers.intLoop m v text) (n + k) := by
  induction m with
  | zero =>
      intro k v buf text n _ _ h _
      exact ⟨buf, rfl, h.bytes, le_trans h.length (Nat.le_add_right n k)⟩
  | succ m ih =>
      intro k v buf text n hk hv h hn
      unfold intLoop Helpers.intLoop
      by_cases hpos : 0 < v
      · rw [if_pos hpos, if_pos hpos]
        cases k with
        | zero =>
            rw [Nat.pow_zero] at hv
            omega
        | succ k =>
            rcases @putDigit_leaves buf text n v h (by omega) with ⟨buf', hput, hholds⟩
            rw [hput, Exec.ok_bind]
            have hless : v / 10 < 10 ^ k := by
              rw [Nat.pow_succ] at hv
              exact Nat.div_lt_of_lt_mul (by rwa [Nat.mul_comm])
            have hmore := ih k (v / 10) buf' _ (n + 1) (by omega) hless hholds (by omega)
            rwa [show n + 1 + k = n + (k + 1) by omega] at hmore
      · rw [if_neg hpos, if_neg hpos]
        exact ⟨buf, rfl, h.bytes, le_trans h.length (Nat.le_add_right n k)⟩

theorem fmtInt_leaves {buf : Buffer} {text : List Char} {n k v : Nat} (h : Holds buf text n)
    (hk : 0 < k ∧ k ≤ 20) (hv : v < 10 ^ k) (hn : n + k ≤ 32) :
    Leaves (fmtInt buf v) (Helpers.fmtInt text v) (n + k) := by
  unfold fmtInt Helpers.fmtInt
  by_cases hzero : v = 0
  · rw [if_pos hzero, if_pos hzero]
    rcases @put_leaves buf _ _ 48 '0' h (by omega) rfl with ⟨buf', hput, hholds⟩
    exact ⟨buf', hput, hholds.bytes, le_trans hholds.length (by omega)⟩
  · rw [if_neg hzero, if_neg hzero]
    exact intLoop_leaves 20 k v buf text n hk.2 hv h hn

/-- A character of two bytes is put from its last byte on. -/
theorem put_two_leaves {buf : Buffer} {text : List Char} {n : Nat} {b b' : UInt8} {c : Char}
    (h : Holds buf text n) (hn : n + 1 < 32) (hb : String.utf8EncodeChar c = [b', b]) :
    exists half buf', put buf b = .ok half ∧ put half b' = .ok buf' ∧
      Holds buf' (c :: text) (n + 2) := by
  have hroom : buf.bytes.length < 32 := lt_of_le_of_lt h.length (by omega)
  have hmore : (b :: buf.bytes).length < 32 := lt_of_le_of_lt (Nat.succ_le_succ h.length) hn
  refine ⟨⟨b :: buf.bytes, hroom⟩, ⟨b' :: b :: buf.bytes, hmore⟩, dif_pos hroom, dif_pos hmore,
    ?_, ?_⟩
  · rw [utf8Bytes_cons, hb, ← h.bytes]
    rfl
  · exact Nat.succ_le_succ (Nat.succ_le_succ h.length)

theorem putUnit_leaves {buf : Buffer} {text : List Char} {n : Nat} (u : Nat)
    (h : Holds buf text n) (hn : n + 1 < 32) :
    let unit := if u < 1000 then ('n', 0) else if u < 1000000 then ('\u00b5', 3) else ('m', 6)
    exists buf', putUnit buf u = .ok (buf', unit.2) ∧ Holds buf' (unit.1 :: text) (n + 2) := by
  unfold putUnit
  by_cases hnanos : u < 1000
  · simp only [if_pos hnanos]
    rcases @put_leaves buf _ _ 110 'n' h (by omega) rfl with ⟨buf', hput, hholds⟩
    rw [hput, Exec.ok_bind]
    exact ⟨buf', rfl, hholds.bytes, le_trans hholds.length (by omega)⟩
  · by_cases hmicros : u < 1000000
    · simp only [if_neg hnanos, if_pos hmicros]
      rcases @put_two_leaves buf _ _ 0xB5 0xC2 '\u00b5' h hn (by decide) with
        ⟨half, buf', hhalf, hput, hholds⟩
      rw [hhalf, Exec.ok_bind, hput, Exec.ok_bind]
      exact ⟨buf', rfl, hholds⟩
    · simp only [if_neg hnanos, if_neg hmicros]
      rcases @put_leaves buf _ _ 109 'm' h (by omega) rfl with ⟨buf', hput, hholds⟩
      rw [hput, Exec.ok_bind]
      exact ⟨buf', rfl, hholds.bytes, le_trans hholds.length (by omega)⟩

/-!
# Whole durations
-/

/-- Seconds, minutes and hours of 64 bits of nanoseconds. -/
theorem fmtMinutes_leaves {buf : Buffer} {text : List Char} {u : Nat} (h : Holds buf text 11)
    (hu : u < 2 ^ 64 / 10 ^ 9 + 1) :
    Leaves (fmtMinutes buf u)
      (let buf := Helpers.fmtInt text (u % 60)
      let u := u / 60
      if 0 < u then
        let buf := Helpers.fmtInt ('m' :: buf) (u % 60)
        let u := u / 60
        if 0 < u then Helpers.fmtInt ('h' :: buf) u else buf
      else buf) 32 := by
  have hseconds : u % 60 < 10 ^ 2 := lt_trans (Nat.mod_lt u (by decide)) (by decide)
  have hminutes : u / 60 % 60 < 10 ^ 2 := lt_trans (Nat.mod_lt _ (by decide)) (by decide)
  have hhours : u / 60 / 60 < 10 ^ 7 := by omega
  unfold fmtMinutes
  dsimp only
  rcases @fmtInt_leaves buf text 11 2 (u % 60) h (by decide) hseconds (by decide) with
    ⟨buf₁, hfmt, hholds₁⟩
  rw [hfmt, Exec.ok_bind]
  by_cases hminute : 0 < u / 60
  · rw [if_pos hminute, if_pos hminute]
    rcases @put_leaves buf₁ _ _ 109 'm' hholds₁ (by decide) rfl with ⟨buf₂, hput, hholds₂⟩
    rcases @fmtInt_leaves buf₂ _ _ 2 (u / 60 % 60) hholds₂ (by decide) hminutes (by decide) with
      ⟨buf₃, hfmt', hholds₃⟩
    rw [hput, Exec.ok_bind, hfmt', Exec.ok_bind]
    by_cases hhour : 0 < u / 60 / 60
    · rw [if_pos hhour, if_pos hhour]
      rcases @put_leaves buf₃ _ _ 104 'h' hholds₃ (by decide) rfl with ⟨buf₄, hput', hholds₄⟩
      rcases @fmtInt_leaves buf₄ _ _ 7 (u / 60 / 60) hholds₄ (by decide) hhours (by decide) with
        ⟨buf₅, hfmt'', hholds₅⟩
      rw [hput', Exec.ok_bind, hfmt'']
      exact ⟨buf₅, rfl, hholds₅.bytes, le_trans hholds₅.length (by decide)⟩
    · rw [if_neg hhour, if_neg hhour]
      exact ⟨buf₃, rfl, hholds₃.bytes, le_trans hholds₃.length (by decide)⟩
  · rw [if_neg hminute, if_neg hminute]
    exact ⟨buf₁, rfl, hholds₁.bytes, le_trans hholds₁.length (by decide)⟩

/-- The buffer has room for every duration, and holds its text. -/
theorem fill_leaves {u : Nat} (hu : u < 2 ^ 64) : Leaves (fill u) (durationChars u) 32 := by
  have hempty : Holds ⟨[], Nat.zero_le 32⟩ [] 0 := ⟨rfl, le_rfl⟩
  rcases @put_leaves _ _ _ 115 's' hempty (by decide) rfl with ⟨buf, hput, hholds⟩
  unfold fill durationChars
  rw [hput, Exec.ok_bind]
  by_cases hunits : u < 1000000000
  · rw [if_pos hunits, if_pos hunits]
    by_cases hzero : u = 0
    · rw [if_pos hzero, if_pos hzero]
      rcases @put_leaves buf _ _ 48 '0' hholds (by decide) rfl with ⟨buf', hput', hholds'⟩
      exact ⟨buf', hput', hholds'.bytes, le_trans hholds'.length (by decide)⟩
    · rw [if_neg hzero, if_neg hzero]
      have hunit := putUnit_leaves u hholds (by decide)
      dsimp only at hunit ⊢
      generalize hpair : (if u < 1000 then ('n', 0) else if u < 1000000 then ('\u00b5', 3)
        else ('m', 6) : Char × Nat) = unit at hunit ⊢
      have hprec : unit.2 ≤ 6 := by
        rw [← hpair]
        split_ifs <;> decide
      rcases hunit with ⟨buf₁, hput₁, hholds₁⟩
      rcases fmtFrac_leaves u unit.2 hholds₁ (by omega) with ⟨buf₂, hfrac, hholds₂⟩
      have hless : u / 10 ^ unit.2 < 10 ^ 9 :=
        lt_of_le_of_lt (Nat.div_le_self u _) (lt_of_lt_of_le hunits (by decide))
      rcases @fmtInt_leaves buf₂ _ _ 9 _ hholds₂ (by decide) hless (by omega) with
        ⟨buf₃, hint, hholds₃⟩
      rw [hput₁, Exec.ok_bind]
      dsimp only
      rw [hfrac, Exec.ok_bind]
      dsimp only
      rw [hint, fmtFrac_left]
      exact ⟨buf₃, rfl, hholds₃.bytes, le_trans hholds₃.length (by omega)⟩
  · rw [if_neg hunits, if_neg hunits]
    rcases fmtFrac_leaves u 9 hholds (by decide) with ⟨buf₁, hfrac, hholds₁⟩
    rw [hfrac, Exec.ok_bind]
    dsimp only
    rw [fmtFrac_left]
    exact fmtMinutes_leaves hholds₁ (by omega)

/-- No byte is missing, and the text is the one of the duration. -/
theorem durationToGolangString_eq (d : Duration) :
    durationToGolangString d = .ok (Helpers.durationToGolangString d) := by
  rcases fill_leaves (Nat.mod_lt d.asNanos (by decide : 0 < 2 ^ 64)) with ⟨buf, hfill, hholds⟩
  unfold durationToGolangString Helpers.durationToGolangString
  rw [hfill, Exec.map_ok, hholds.bytes, fromUtf8Lossy_utf8Bytes]

end DurationBuffer
end Helpers
end CouchbaseSdk
