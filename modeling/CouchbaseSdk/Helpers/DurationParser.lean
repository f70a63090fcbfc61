import CouchbaseSdk.Foundation.Decimal
import CouchbaseSdk.Foundation.Duration
import CouchbaseSdk.Foundation.Exec
import CouchbaseSdk.Foundation.Floating
import CouchbaseSdk.Foundation.GoNotation
import Mathlib.Algebra.Group.Nat.Defs

/-!
# Reading durations

The text of a duration is read in rounds, one for each number with its unit.  An addition that
does not fit into 64 bits, and is not checked, ends the program.
-/

namespace CouchbaseSdk
namespace Helpers

open Foundation

def unitMap : List (String × Nat) :=
  [("ns", 1),
    ("us", 1000),
    ("\u00b5s", 1000),
    ("\u03bcs", 1000),
    ("ms", 1000000),
    ("s", 1000000000),
    ("m", 60000000000),
    ("h", 3600000000000)]

def quote (s : String) : String :=
  "\"" ++ s ++ "\""

def invalidDuration (orig : String) : String :=
  "invalid duration " ++ quote orig

def leadingInt : List Char -> Nat -> Exec String (Nat × List Char)
  | [], x => .ok (x, [])
  | c :: rest, x =>
      if c.isDigit then
        if (2 ^ 64 - 1) / 10 < x then .err "bad [0-9]*"
        else
          let x := x * 10 + (c.toNat - '0'.toNat)
          if x < 2 ^ 64 then leadingInt rest x else .panic
      else .ok (x, c :: rest)

/-- Digits that the value has no room for are skipped. -/
def leadingFraction (f64 : F64) :
    List Char -> Nat -> f64.Number -> Bool -> Exec String (Nat × f64.Number × List Char)
  | [], x, scale, _ => .ok (x, scale, [])
  | c :: rest, x, scale, overflow =>
      if c.isDigit then
        if overflow then leadingFraction f64 rest x scale true
        else if (2 ^ 64 - 1 - 1) / 10 < x then leadingFraction f64 rest x scale true
        else
          let y := x * 10 + (c.toNat - '0'.toNat)
          if y < 2 ^ 64 then leadingFraction f64 rest y (f64.mul scale (f64.ofU64 10)) false
          else .panic
      else .ok (x, scale, c :: rest)

/-- A point with the digits behind it, and whether there were any. -/
def optionalFraction (f64 : F64) :
    List Char -> Exec String (Nat × f64.Number × Bool × List Char)
  | '.' :: s =>
      leadingFraction f64 s 0 (f64.ofU64 1) false >>= fun (f, scale, left) =>
        .ok (f, scale, left.length != s.length, left)
  | s => .ok (0, f64.ofU64 1, false, s)

def startsNumber (c : Char) : Bool :=
  c == '.' || c.isDigit

/-- The nanoseconds of a number in a unit. -/
def inUnit (f64 : F64) (orig : String) (v f : Nat) (scale : f64.Number) (unit : Nat) :
    Exec String Nat :=
  if (2 ^ 64 - 1) / unit < v then .err (invalidDuration orig)
  else if 0 < f then
    let vf := f64.mul (f64.ofU64 f) (f64.div (f64.ofU64 unit) scale)
    if f64.lt (f64.ofU64 (2 ^ 64 - 1)) vf then .err (invalidDuration orig)
    else if v * unit + f64.toU64 vf < 2 ^ 64 then .ok (v * unit + f64.toU64 vf)
    else .panic
  else .ok (v * unit)

/-- The unit behind a number: the nanoseconds of both, and the text behind. -/
def consumeUnit (f64 : F64) (orig : String) (v f : Nat) (scale : f64.Number) (s : List Char) :
    Exec String (Nat × List Char) :=
  let u := s.takeWhile fun c => ! startsNumber c
  if u.isEmpty then .err ("missing unit in duration " ++ quote orig)
  else
    match unitMap.lookup (String.ofList u) with
    | none =>
        .err ("unknown unit " ++ quote (String.ofList u) ++ " in duration " ++ quote orig)
    | some unit =>
        (inUnit f64 orig v f scale unit).map fun v =>
          (v, s.dropWhile fun c => ! startsNumber c)

/-- One round: the nanoseconds of a number with its unit, and the text behind it. -/
def parseTerm (f64 : F64) (orig : String) (s : List Char) : Exec String (Nat × List Char) :=
  if ! s.head?.any startsNumber then .err (invalidDuration orig)
  else
    leadingInt s 0 >>= fun (v, behind) =>
      let pre := behind.length != s.length
      optionalFraction f64 behind >>= fun (f, scale, post, s) =>
        if ! pre && ! post then .err (invalidDuration orig)
        else consumeUnit f64 orig v f scale s

/-!
# Digits
-/

/-- The digits behind the value `x` have a start that is larger than 64 bits by no more than a
digit can make it. -/
def Spills (x : Nat) (ds : List Char) : Prop :=
  exists p, p <+: ds ∧ 2 ^ 64 ≤ Nat.ofDigitChars 10 p x ∧ Nat.ofDigitChars 10 p x < 2 ^ 64 + 4

/-- As many of the digits behind the value `x` as fit into 64 bits. -/
def fitting : Nat -> List Char -> List Char
  | _, [] => []
  | x, c :: rest =>
      if Nat.ofDigitChars 10 [c] x < 2 ^ 64 then c :: fitting (Nat.ofDigitChars 10 [c] x) rest
      else []

theorem digit_le {c : Char} (h : c.isDigit = true) : c.toNat - '0'.toNat ≤ 9 := by
  have hrange := Char.isDigit_iff_toNat.mp h
  have hzero : '0'.toNat = 48 := rfl
  have hnine : '9'.toNat = 57 := rfl
  omega

theorem ofDigitChars_digit (c : Char) (x : Nat) :
    Nat.ofDigitChars 10 [c] x = x * 10 + (c.toNat - '0'.toNat) := by
  rw [Nat.ofDigitChars_cons, Nat.ofDigitChars_nil, Nat.mul_comm]

theorem ofDigitChars_more (c : Char) (rest : List Char) (x : Nat) :
    Nat.ofDigitChars 10 (c :: rest) x =
      Nat.ofDigitChars 10 rest (Nat.ofDigitChars 10 [c] x) := by
  rw [Nat.ofDigitChars_cons, Nat.ofDigitChars_cons, Nat.ofDigitChars_nil]

theorem not_spills_nil {x : Nat} (hx : x < 2 ^ 64) : ¬ Spills x [] := by
  rintro ⟨p, hp, hlarge, _⟩
  rw [List.prefix_nil.mp hp, Nat.ofDigitChars_nil] at hlarge
  omega

theorem spills_cons {x : Nat} (hx : x < 2 ^ 64) (c : Char) (rest : List Char) :
    Spills x (c :: rest) <-> Spills (Nat.ofDigitChars 10 [c] x) rest := by
  constructor
  · rintro ⟨p, hp, hlarge, hless⟩
    cases p with
    | nil =>
        rw [Nat.ofDigitChars_nil] at hlarge
        omega
    | cons d p =>
        rcases List.cons_prefix_cons.mp hp with ⟨rfl, hrest⟩
        rw [ofDigitChars_more] at hlarge hless
        exact ⟨p, hrest, hlarge, hless⟩
  · rintro ⟨p, hp, hlarge, hless⟩
    refine ⟨c :: p, List.cons_prefix_cons.mpr ⟨rfl, hp⟩, ?_, ?_⟩
    · rw [ofDigitChars_more]
      exact hlarge
    · rw [ofDigitChars_more]
      exact hless

/-- A value that is much too large stays so. -/
theorem not_spills_of_large {x : Nat} (hx : 2 ^ 64 + 4 ≤ x) (ds : List Char) : ¬ Spills x ds := by
  rintro ⟨p, _, _, hless⟩
  have hle := le_ofDigitChars p x
  omega

theorem spills_of_over {x : Nat} (hlarge : 2 ^ 64 ≤ x) (hless : x < 2 ^ 64 + 4)
    (ds : List Char) : Spills x ds :=
  ⟨[], List.nil_prefix, hlarge, hless⟩

/-- A number is read, or too large for 64 bits, or the addition of a digit goes wrong. -/
theorem leadingInt_cases (s : List Char) : forall x, x < 2 ^ 64 ->
    Spills x (s.takeWhile Char.isDigit) ∧ leadingInt s x = .panic ∨
      ¬ Spills x (s.takeWhile Char.isDigit) ∧
          Nat.ofDigitChars 10 (s.takeWhile Char.isDigit) x < 2 ^ 64 ∧
          leadingInt s x = .ok (Nat.ofDigitChars 10 (s.takeWhile Char.isDigit) x,
            s.dropWhile Char.isDigit) ∨
      ¬ Spills x (s.takeWhile Char.isDigit) ∧
          2 ^ 64 ≤ Nat.ofDigitChars 10 (s.takeWhile Char.isDigit) x ∧
          leadingInt s x = .err "bad [0-9]*" := by
  induction s with
  | nil =>
      intro x hx
      exact Or.inr (Or.inl ⟨not_spills_nil hx, hx, rfl⟩)
  | cons c rest ih =>
      intro x hx
      by_cases hc : c.isDigit = true
      · rw [List.takeWhile_cons_of_pos hc, List.dropWhile_cons_of_pos hc, spills_cons hx,
          ofDigitChars_more c (rest.takeWhile Char.isDigit)]
        have hdigit := digit_le hc
        have hnext := ofDigitChars_digit c x
        unfold leadingInt
        rw [if_pos hc, ← hnext]
        by_cases hguard : (2 ^ 64 - 1) / 10 < x
        · rw [if_pos hguard]
          have hlarge : 2 ^ 64 + 4 ≤ Nat.ofDigitChars 10 [c] x := by omega
          have hle := le_ofDigitChars (rest.takeWhile Char.isDigit) (Nat.ofDigitChars 10 [c] x)
          exact Or.inr (Or.inr ⟨not_spills_of_large hlarge _, by omega, rfl⟩)
        · rw [if_neg hguard]
          by_cases hfits : Nat.ofDigitChars 10 [c] x < 2 ^ 64
          · rw [if_pos hfits]
            exact ih _ hfits
          · rw [if_neg hfits]
            exact Or.inl ⟨spills_of_over (by omega) (by omega) _, rfl⟩
      · rw [List.takeWhile_cons_of_neg hc, List.dropWhile_cons_of_neg hc]
        unfold leadingInt
        rw [if_neg hc]
        exact Or.inr (Or.inl ⟨not_spills_nil hx, hx, rfl⟩)

theorem leadingFraction_overflow (f64 : F64) (s : List Char) (x : Nat) (scale : f64.Number) :
    leadingFraction f64 s x scale true = .ok (x, scale, s.dropWhile Char.isDigit) := by
  induction s with
  | nil => rfl
  | cons c rest ih =>
      unfold leadingFraction
      by_cases hc : c.isDigit = true
      · rw [if_pos hc, if_pos rfl, List.dropWhile_cons_of_pos hc]
        exact ih
      · rw [if_neg hc, List.dropWhile_cons_of_neg hc]

/-- A fraction is read as far as it fits, or the addition of a digit goes wrong. -/
theorem leadingFraction_cases (f64 : F64) (s : List Char) : forall x scale, x < 2 ^ 64 ->
    Spills x (s.takeWhile Char.isDigit) ∧ leadingFraction f64 s x scale false = .panic ∨
      ¬ Spills x (s.takeWhile Char.isDigit) ∧
        leadingFraction f64 s x scale false =
          .ok (Nat.ofDigitChars 10 (fitting x (s.takeWhile Char.isDigit)) x,
            f64.powTen (fitting x (s.takeWhile Char.isDigit)).length scale,
            s.dropWhile Char.isDigit) := by
  induction s with
  | nil =>
      intro x scale hx
      exact Or.inr ⟨not_spills_nil hx, rfl⟩
  | cons c rest ih =>
      intro x scale hx
      by_cases hc : c.isDigit = true
      · rw [List.takeWhile_cons_of_pos hc, List.dropWhile_cons_of_pos hc, spills_cons hx]
        have hdigit := digit_le hc
        have hnext := ofDigitChars_digit c x
        unfold leadingFraction fitting
        rw [if_pos hc, if_neg Bool.false_ne_true, ← hnext]
        by_cases hguard : (2 ^ 64 - 1 - 1) / 10 < x
        · have hlarge : 2 ^ 64 + 4 ≤ Nat.ofDigitChars 10 [c] x := by omega
          rw [if_pos hguard, if_neg (by omega), leadingFraction_overflow]
          exact Or.inr ⟨not_spills_of_large hlarge _, rfl⟩
        · rw [if_neg hguard]
          by_cases hfits : Nat.ofDigitChars 10 [c] x < 2 ^ 64
          · rw [if_pos hfits, if_pos hfits, ofDigitChars_more]
            exact ih _ _ hfits
          · rw [if_neg hfits]
            exact Or.inl ⟨spills_of_over (by omega) (by omega) _, rfl⟩
      · rw [List.takeWhile_cons_of_neg hc, List.dropWhile_cons_of_neg hc]
        unfold leadingFraction
        rw [if_neg hc]
        exact Or.inr ⟨not_spills_nil hx, rfl⟩

theorem isEmpty_takeWhile (p : Char -> Bool) (s : List Char) :
    ((s.dropWhile p).length != s.length) = ! (s.takeWhile p).isEmpty := by
  have hsplit := congrArg List.length (List.takeWhile_append_dropWhile (p := p) (l := s))
  rw [List.length_append] at hsplit
  cases hdigits : s.takeWhile p with
  | nil =>
      rw [hdigits, List.length_nil, Nat.zero_add] at hsplit
      simp [hsplit]
  | cons c rest =>
      rw [hdigits, List.length_cons] at hsplit
      have hne : (s.dropWhile p).length ≠ s.length := by omega
      simpa using hne

theorem optionalFraction_cases (f64 : F64) (s : List Char) :
    Spills 0 (goFraction s).1 ∧ optionalFraction f64 s = .panic ∨
      ¬ Spills 0 (goFraction s).1 ∧
        optionalFraction f64 s =
          .ok (digitsValue (fitting 0 (goFraction s).1),
            f64.powTen (fitting 0 (goFraction s).1).length (f64.ofU64 1),
            ! (goFraction s).1.isEmpty, (goFraction s).2) := by
  unfold goFraction
  split
  · next rest =>
      rcases leadingFraction_cases f64 rest 0 (f64.ofU64 1) (by decide) with hcase | hcase
      · rcases hcase with ⟨hspills, hread⟩
        refine Or.inl ⟨hspills, ?_⟩
        simp only [optionalFraction, hread, Exec.panic_bind]
      · rcases hcase with ⟨hspills, hread⟩
        refine Or.inr ⟨hspills, ?_⟩
        simp only [optionalFraction, hread, Exec.ok_bind, isEmpty_takeWhile]
        rfl
  · next hpoint =>
      refine Or.inr ⟨not_spills_nil (by decide), ?_⟩
      unfold optionalFraction
      split
      · exact absurd rfl (hpoint _)
      · rfl

/-!
# Terms
-/

/-- The parts of a number with its unit. -/
structure Term where
  whole : List Char
  fraction : List Char
  unit : List Char

def firstTerm (s : List Char) : Term where
  whole := s.takeWhile Char.isDigit
  fraction := (goFraction (s.dropWhile Char.isDigit)).1
  unit := (goFraction (s.dropWhile Char.isDigit)).2.takeWhile fun c => ! startsNumber c

/-- The text behind the first number and its unit. -/
def behindTerm (s : List Char) : List Char :=
  (goFraction (s.dropWhile Char.isDigit)).2.dropWhile fun c => ! startsNumber c

namespace Term

/-- The nanoseconds of the unit. -/
def factor (t : Term) : Option Nat :=
  unitMap.lookup (String.ofList t.unit)

/-- The digits of the fraction that are used. -/
def kept (t : Term) : List Char :=
  fitting 0 t.fraction

/-- The fraction of so many nanoseconds. -/
def fractionOf (f64 : F64) (t : Term) (unit : Nat) : f64.Number :=
  f64.mul (f64.ofU64 (digitsValue t.kept))
    (f64.div (f64.ofU64 unit) (f64.powTen t.kept.length (f64.ofU64 1)))

def nanosIn (f64 : F64) (t : Term) (unit : Nat) : Nat :=
  digitsValue t.whole * unit +
    if 0 < digitsValue t.kept then f64.toU64 (t.fractionOf f64 unit) else 0

def nanos (f64 : F64) (t : Term) : Nat :=
  (t.factor.map (t.nanosIn f64)).getD 0

/-- A term with digits and a unit, of which neither the whole number nor the fraction is too
large. -/
def Readable (f64 : F64) (t : Term) : Prop :=
  (t.whole ≠ [] ∨ t.fraction ≠ []) ∧
    exists unit, t.factor = some unit ∧ digitsValue t.whole * unit < 2 ^ 64 ∧
      (0 < digitsValue t.kept ->
        f64.lt (f64.ofU64 (2 ^ 64 - 1)) (t.fractionOf f64 unit) = false)

/-- A term with an addition that is larger than 64 bits: of a digit, or of the fraction to the
whole number. -/
def Overflows (f64 : F64) (t : Term) : Prop :=
  Spills 0 t.whole ∨ digitsValue t.whole < 2 ^ 64 ∧ Spills 0 t.fraction ∨
    t.Readable f64 ∧ 2 ^ 64 ≤ t.nanos f64

end Term

/-!
# One round
-/

theorem factor_pos {t : Term} {unit : Nat} (h : t.factor = some unit) : 0 < unit := by
  have hall : forall entry, entry ∈ unitMap -> 0 < entry.2 := by decide
  rcases List.lookup_eq_some_iff.mp h with ⟨before, after, hentries, _⟩
  have hmem : (String.ofList t.unit, unit) ∈ unitMap := by
    rw [hentries]
    exact List.mem_append_right _ List.mem_cons_self
  exact hall _ hmem

theorem guard_iff {v unit : Nat} (hunit : 0 < unit) :
    (2 ^ 64 - 1) / unit < v <-> ¬ v * unit < 2 ^ 64 := by
  rw [Nat.div_lt_iff_lt_mul hunit]
  omega

theorem whole_le {t : Term} {unit : Nat} (h : t.factor = some unit) :
    digitsValue t.whole ≤ digitsValue t.whole * unit :=
  Nat.le_mul_of_pos_right _ (factor_pos h)

theorem not_readable_of_large {f64 : F64} {t : Term} (h : 2 ^ 64 ≤ digitsValue t.whole) :
    ¬ t.Readable f64 := by
  rintro ⟨_, unit, hunit, hless, _⟩
  have hle := whole_le hunit
  omega

theorem nanos_of_factor {f64 : F64} {t : Term} {unit : Nat} (h : t.factor = some unit) :
    t.nanos f64 = t.nanosIn f64 unit := by
  unfold Term.nanos
  rw [h]
  rfl

/-- What becomes of the digits and the unit of a term. -/
theorem inUnit_cases (f64 : F64) (orig : String) {t : Term} {unit : Nat}
    (hdigits : t.whole ≠ [] ∨ t.fraction ≠ []) (hunit : t.factor = some unit) :
    t.Readable f64 ∧ 2 ^ 64 ≤ t.nanos f64 ∧
        inUnit f64 orig (digitsValue t.whole) (digitsValue t.kept)
          (f64.powTen t.kept.length (f64.ofU64 1)) unit = .panic ∨
      t.Readable f64 ∧ t.nanos f64 < 2 ^ 64 ∧
        inUnit f64 orig (digitsValue t.whole) (digitsValue t.kept)
          (f64.powTen t.kept.length (f64.ofU64 1)) unit = .ok (t.nanos f64) ∨
      ¬ t.Readable f64 ∧
        inUnit f64 orig (digitsValue t.whole) (digitsValue t.kept)
          (f64.powTen t.kept.length (f64.ofU64 1)) unit = .err (invalidDuration orig) := by
  rw [nanos_of_factor hunit]
  unfold inUnit Term.nanosIn
  by_cases hwhole : digitsValue t.whole * unit < 2 ^ 64
  · rw [if_neg (fun hguard => (guard_iff (factor_pos hunit)).mp hguard hwhole)]
    by_cases hpos : 0 < digitsValue t.kept
    · rw [if_pos hpos, if_pos hpos]
      by_cases hover : f64.lt (f64.ofU64 (2 ^ 64 - 1)) (t.fractionOf f64 unit) = true
      · refine Or.inr (Or.inr ⟨?_, if_pos hover⟩)
        rintro ⟨_, unit', hunit', _, hfraction⟩
        rw [hunit] at hunit'
        injection hunit' with heq
        rw [← heq, hover] at hfraction
        exact Bool.noConfusion (hfraction hpos)
      · have hreadable : t.Readable f64 :=
          ⟨hdigits, unit, hunit, hwhole, fun _ => Bool.eq_false_iff.mpr hover⟩
        by_cases hfits : digitsValue t.whole * unit + f64.toU64 (t.fractionOf f64 unit) < 2 ^ 64
        · exact Or.inr (Or.inl ⟨hreadable, hfits, (if_neg hover).trans (if_pos hfits)⟩)
        · exact Or.inl ⟨hreadable, Nat.le_of_not_lt hfits, (if_neg hover).trans (if_neg hfits)⟩
    · rw [if_neg hpos, if_neg hpos]
      have hreadable : t.Readable f64 :=
        ⟨hdigits, unit, hunit, hwhole, fun h => absurd h hpos⟩
      exact Or.inr (Or.inl ⟨hreadable, hwhole, rfl⟩)
  · rw [if_pos ((guard_iff (factor_pos hunit)).mpr hwhole)]
    refine Or.inr (Or.inr ⟨?_, rfl⟩)
    rintro ⟨_, unit', hunit', hless, _⟩
    rw [hunit] at hunit'
    injection hunit' with heq
    rw [← heq] at hless
    exact hwhole hless

/-- What becomes of a term whose digits are read. -/
theorem consumeUnit_cases (f64 : F64) (orig : String) (s : List Char)
    (hdigits : (firstTerm s).whole ≠ [] ∨ (firstTerm s).fraction ≠ []) :
    let x := consumeUnit f64 orig (digitsValue (firstTerm s).whole)
      (digitsValue (firstTerm s).kept) (f64.powTen (firstTerm s).kept.length (f64.ofU64 1))
      (goFraction (s.dropWhile Char.isDigit)).2
    (firstTerm s).Readable f64 ∧ 2 ^ 64 ≤ (firstTerm s).nanos f64 ∧ x = .panic ∨
      (firstTerm s).Readable f64 ∧ (firstTerm s).nanos f64 < 2 ^ 64 ∧
          x = .ok ((firstTerm s).nanos f64, behindTerm s) ∨
      ¬ (firstTerm s).Readable f64 ∧ exists e, x = .err e := by
  dsimp only
  unfold consumeUnit
  dsimp only
  by_cases hempty : ((goFraction (s.dropWhile Char.isDigit)).2.takeWhile
      fun c => ! startsNumber c).isEmpty = true
  · have hnone : (firstTerm s).factor = none := by
      unfold Term.factor firstTerm
      rw [List.isEmpty_iff.mp hempty]
      rfl
    rw [if_pos hempty]
    refine Or.inr (Or.inr ⟨?_, _, rfl⟩)
    rintro ⟨_, unit, hunit, _⟩
    rw [hnone] at hunit
    cases hunit
  · rw [if_neg hempty]
    cases hfactor : unitMap.lookup (String.ofList
        ((goFraction (s.dropWhile Char.isDigit)).2.takeWhile fun c => ! startsNumber c)) with
    | none =>
        refine Or.inr (Or.inr ⟨?_, _, rfl⟩)
        rintro ⟨_, unit, hunit, _⟩
        unfold Term.factor firstTerm at hunit
        rw [hfactor] at hunit
        cases hunit
    | some unit =>
        dsimp only
        rcases inUnit_cases f64 orig hdigits hfactor with hcase | hcase | hcase
        · rcases hcase with ⟨hreadable, hlarge, hread⟩
          rw [hread]
          exact Or.inl ⟨hreadable, hlarge, rfl⟩
        · rcases hcase with ⟨hreadable, hfits, hread⟩
          rw [hread]
          exact Or.inr (Or.inl ⟨hreadable, hfits, rfl⟩)
        · rcases hcase with ⟨hreadable, hread⟩
          rw [hread]
          exact Or.inr (Or.inr ⟨hreadable, _, rfl⟩)

theorem goFraction_other {c : Char} (hc : c ≠ '.') (rest : List Char) :
    goFraction (c :: rest) = ([], c :: rest) := by
  unfold goFraction
  split
  · next heq =>
      injection heq with hhead _
      exact absurd hhead hc
  · rfl

/-- What does not start with a digit or a point has no digits. -/
theorem firstTerm_of_not_startsNumber {s : List Char} (h : s.head?.any startsNumber = false) :
    (firstTerm s).whole = [] ∧ (firstTerm s).fraction = [] := by
  unfold firstTerm
  cases s with
  | nil => exact ⟨rfl, rfl⟩
  | cons c rest =>
      have hparts : ¬ c = '.' ∧ c.isDigit = false := by simpa [startsNumber] using h
      have hdigit : ¬ c.isDigit = true := by simp [hparts.2]
      rw [List.takeWhile_cons_of_neg hdigit, List.dropWhile_cons_of_neg hdigit,
        goFraction_other hparts.1]
      exact ⟨rfl, rfl⟩

theorem not_overflows_of_no_digits {f64 : F64} {t : Term} (hwhole : t.whole = [])
    (hfraction : t.fraction = []) : ¬ t.Overflows f64 ∧ ¬ t.Readable f64 := by
  have hreadable : ¬ t.Readable f64 := by
    rintro ⟨hdigits, _⟩
    rcases hdigits with hne | hne
    · exact hne hwhole
    · exact hne hfraction
  refine ⟨?_, hreadable⟩
  rintro (hspills | ⟨_, hspills⟩ | ⟨h, _⟩)
  · rw [hwhole] at hspills
    exact not_spills_nil (by decide) hspills
  · rw [hfraction] at hspills
    exact not_spills_nil (by decide) hspills
  · exact hreadable h

/-- One round overflows, reads the term, or fails. -/
theorem parseTerm_cases (f64 : F64) (orig : String) (s : List Char) :
    (firstTerm s).Overflows f64 ∧ parseTerm f64 orig s = .panic ∨
      ¬ (firstTerm s).Overflows f64 ∧ (firstTerm s).Readable f64 ∧
          parseTerm f64 orig s = .ok ((firstTerm s).nanos f64, behindTerm s) ∨
      ¬ (firstTerm s).Overflows f64 ∧ ¬ (firstTerm s).Readable f64 ∧
          exists e, parseTerm f64 orig s = .err e := by
  unfold parseTerm
  by_cases hstarts : s.head?.any startsNumber = true
  · rw [hstarts, Bool.not_true, if_neg Bool.false_ne_true]
    rcases leadingInt_cases s 0 (by decide) with hcase | hcase | hcase
    · rcases hcase with ⟨hspills, hread⟩
      rw [hread, Exec.panic_bind]
      exact Or.inl ⟨Or.inl hspills, rfl⟩
    · rcases hcase with ⟨hwhole, hvalue, hread⟩
      rw [hread, Exec.ok_bind]
      dsimp only
      rcases optionalFraction_cases f64 (s.dropWhile Char.isDigit) with hcase | hcase
      · rcases hcase with ⟨hspills, hread⟩
        rw [hread, Exec.panic_bind]
        exact Or.inl ⟨Or.inr (Or.inl ⟨hvalue, hspills⟩), rfl⟩
      · rcases hcase with ⟨hfraction, hread⟩
        rw [hread, Exec.ok_bind, isEmpty_takeWhile]
        dsimp only
        have hoverflows : (firstTerm s).Overflows f64 <->
            (firstTerm s).Readable f64 ∧ 2 ^ 64 ≤ (firstTerm s).nanos f64 := by
          constructor
          · rintro (h | ⟨_, h⟩ | h)
            · exact absurd h hwhole
            · exact absurd h hfraction
            · exact h
          · intro h
            exact Or.inr (Or.inr h)
        by_cases hdigits : (firstTerm s).whole ≠ [] ∨ (firstTerm s).fraction ≠ []
        · have hnumber : ¬ (! ! (s.takeWhile Char.isDigit).isEmpty &&
              ! ! (goFraction (s.dropWhile Char.isDigit)).1.isEmpty) = true := by
            simpa [firstTerm, or_iff_not_imp_left] using hdigits
          rw [hoverflows, if_neg hnumber]
          rcases consumeUnit_cases f64 orig s hdigits with hcase | hcase | hcase
          · rcases hcase with ⟨hreadable, hlarge, hread⟩
            exact Or.inl ⟨⟨hreadable, hlarge⟩, hread⟩
          · rcases hcase with ⟨hreadable, hfits, hread⟩
            exact Or.inr (Or.inl ⟨fun h => absurd h.2 (Nat.not_le_of_lt hfits), hreadable, hread⟩)
          · rcases hcase with ⟨hreadable, hread⟩
            exact Or.inr (Or.inr ⟨fun h => hreadable h.1, hreadable, hread⟩)
        · have hnothing : (firstTerm s).whole = [] ∧ (firstTerm s).fraction = [] := by
            simpa [not_or] using hdigits
          have hnumber : (! ! (s.takeWhile Char.isDigit).isEmpty &&
              ! ! (goFraction (s.dropWhile Char.isDigit)).1.isEmpty) = true := by
            simpa [firstTerm] using hnothing
          rcases @not_overflows_of_no_digits f64 _ hnothing.1 hnothing.2 with
            ⟨hnever, hreadable⟩
          rw [if_pos hnumber]
          exact Or.inr (Or.inr ⟨hnever, hreadable, _, rfl⟩)
    · rcases hcase with ⟨hspills, hlarge, hread⟩
      rw [hread, Exec.err_bind]
      have hreadable : ¬ (firstTerm s).Readable f64 := not_readable_of_large hlarge
      refine Or.inr (Or.inr ⟨?_, hreadable, _, rfl⟩)
      rintro (h | ⟨hless, _⟩ | ⟨h, _⟩)
      · exact hspills h
      · exact absurd hless (Nat.not_lt_of_le hlarge)
      · exact hreadable h
  · have hnone := Bool.eq_false_iff.mpr hstarts
    rcases firstTerm_of_not_startsNumber hnone with ⟨hwhole, hfraction⟩
    rcases @not_overflows_of_no_digits f64 _ hwhole hfraction with ⟨hoverflows, hreadable⟩
    rw [hnone]
    exact Or.inr (Or.inr ⟨hoverflows, hreadable, _, rfl⟩)

/-!
# All rounds
-/

theorem length_dropWhile (p : Char -> Bool) (s : List Char) : (s.dropWhile p).length ≤ s.length :=
  (List.dropWhile_suffix p).length_le

theorem goFraction_length (s : List Char) : (goFraction s).2.length ≤ s.length := by
  unfold goFraction
  split
  · exact le_trans (length_dropWhile _ _) (Nat.le_succ _)
  · exact le_rfl

/-- Every round takes something of the text. -/
theorem behindTerm_length (c : Char) (rest : List Char) :
    (behindTerm (c :: rest)).length < (c :: rest).length := by
  unfold behindTerm
  have hunit := length_dropWhile (fun c => ! startsNumber c)
    (goFraction ((c :: rest).dropWhile Char.isDigit)).2
  by_cases hdigit : c.isDigit = true
  · rw [List.dropWhile_cons_of_pos hdigit] at hunit ⊢
    have hfraction := goFraction_length (rest.dropWhile Char.isDigit)
    have hwhole := length_dropWhile Char.isDigit rest
    rw [List.length_cons]
    omega
  · rw [List.dropWhile_cons_of_neg hdigit] at hunit ⊢
    by_cases hpoint : c = '.'
    · rw [hpoint] at hunit ⊢
      have hfraction : (goFraction ('.' :: rest)).2.length ≤ rest.length :=
        length_dropWhile _ _
      rw [List.length_cons]
      omega
    · rw [goFraction_other hpoint]
      have hletter : (! startsNumber c) = true := by simp [startsNumber, hpoint, hdigit]
      have hdrop : (c :: rest).dropWhile (fun c => ! startsNumber c) =
          rest.dropWhile fun c => ! startsNumber c := by
        rw [List.dropWhile_cons, if_pos hletter]
      dsimp only
      rw [hdrop, List.length_cons]
      exact Nat.lt_succ_of_le (length_dropWhile _ _)

theorem parseTerm_left {f64 : F64} {orig : String} {s left : List Char} {v : Nat}
    (h : parseTerm f64 orig s = .ok (v, left)) : left = behindTerm s := by
  rcases parseTerm_cases f64 orig s with hcase | hcase | hcase
  · rw [hcase.2] at h
    cases h
  · rw [hcase.2.2] at h
    injection h with hpair
    injection hpair with _ hleft
    exact hleft.symm
  · rcases hcase with ⟨_, _, e, hread⟩
    rw [hread] at h
    cases h

theorem parseTerm_shorter {f64 : F64} {orig : String} {c : Char} {rest left : List Char} {v : Nat}
    (h : parseTerm f64 orig (c :: rest) = .ok (v, left)) :
    left.length < (c :: rest).length := by
  rw [parseTerm_left h]
  exact behindTerm_length c rest

/-- The rounds of the loop behind `d` nanoseconds. -/
def parseTerms (f64 : F64) (orig : String) (s : List Char) (d : Nat) : Exec String Nat :=
  match s with
  | [] => .ok d
  | c :: rest =>
      match h : parseTerm f64 orig (c :: rest) with
      | .ok (v, left) =>
          if d + v < 2 ^ 64 then parseTerms f64 orig left (d + v)
          else .err (invalidDuration orig)
      | .err e => .err e
      | .panic => .panic
termination_by s.length
decreasing_by exact parseTerm_shorter h

/-- The text behind a sign. -/
def parseUnsignedDuration (f64 : F64) (orig : String) (s : List Char) : Exec String Duration :=
  if s = ['0'] then .ok (Duration.fromNanos 0)
  else if s.isEmpty then .err (invalidDuration orig)
  else (parseTerms f64 orig s 0).map fun d => Duration.fromNanos (UInt64.ofNat d)

def parseDurationFromGolangString (f64 : F64) (s : String) : Exec String Duration :=
  match s.toList with
  | '-' :: _ => .err ("invalid negative duration " ++ quote s)
  | '+' :: rest => parseUnsignedDuration f64 s rest
  | chars => parseUnsignedDuration f64 s chars

/-- The terms of a text without its sign. -/
def textTerms (s : List Char) : List Term :=
  match s with
  | [] => []
  | c :: rest => firstTerm (c :: rest) :: textTerms (behindTerm (c :: rest))
termination_by s.length
decreasing_by exact behindTerm_length c rest

theorem textTerms_cons (c : Char) (rest : List Char) :
    textTerms (c :: rest) = firstTerm (c :: rest) :: textTerms (behindTerm (c :: rest)) := by
  rw [textTerms]

theorem parseTerms_ok {f64 : F64} {orig : String} {c : Char} {rest left : List Char} {v d : Nat}
    (h : parseTerm f64 orig (c :: rest) = .ok (v, left)) :
    parseTerms f64 orig (c :: rest) d =
      if d + v < 2 ^ 64 then parseTerms f64 orig left (d + v)
      else .err (invalidDuration orig) := by
  rw [parseTerms]
  split
  · next hread =>
      rw [h] at hread
      injection hread with hpair
      injection hpair with hv hleft
      rw [hv, hleft]
  · next hread =>
      rw [h] at hread
      cases hread
  · next hread =>
      rw [h] at hread
      cases hread

theorem parseTerms_err {f64 : F64} {orig : String} {c : Char} {rest : List Char} {d : Nat}
    {e : String} (h : parseTerm f64 orig (c :: rest) = .err e) :
    parseTerms f64 orig (c :: rest) d = .err e := by
  rw [parseTerms]
  split
  · next hread =>
      rw [h] at hread
      cases hread
  · next hread =>
      rw [h] at hread
      injection hread with heq
      rw [heq]
  · next hread =>
      rw [h] at hread
      cases hread

theorem parseTerms_panic {f64 : F64} {orig : String} {c : Char} {rest : List Char} {d : Nat}
    (h : parseTerm f64 orig (c :: rest) = .panic) :
    parseTerms f64 orig (c :: rest) d = .panic := by
  rw [parseTerms]
  split
  · next hread =>
      rw [h] at hread
      cases hread
  · next hread =>
      rw [h] at hread
      cases hread
  · rfl

/-!
# Terms that are written
-/

namespace Term

/-- A number with a unit, which may have digits behind a point. -/
structure Written (t : Term) : Prop where
  whole : t.whole ≠ [] ∧ AllDigits t.whole
  fraction : AllDigits t.fraction
  unit : t.factor.isSome = true

def text (t : Term) : List Char :=
  t.whole ++ (pointed t.fraction ++ t.unit)

end Term

theorem startsNumber_of_mem_unit {t : Term} (h : t.factor.isSome = true) :
    t.unit ≠ [] ∧ forall c, c ∈ t.unit -> startsNumber c = false := by
  have hall : forall entry, entry ∈ unitMap ->
      entry.1.toList ≠ [] ∧ (entry.1.toList.all fun c => !startsNumber c) = true := by
    decide
  rcases Option.isSome_iff_exists.mp h with ⟨unit, hunit⟩
  rcases List.lookup_eq_some_iff.mp hunit with ⟨before, after, hentries, _⟩
  have hmem : (String.ofList t.unit, unit) ∈ unitMap := by
    rw [hentries]
    exact List.mem_append_right _ List.mem_cons_self
  have hentry := hall _ hmem
  rw [String.toList_ofList] at hentry
  constructor
  · exact hentry.1
  · intro c hc
    exact Bool.not_eq_true' _ ▸ List.all_eq_true.mp hentry.2 c hc

/-- A text that is empty, or goes on with a digit. -/
def StartsWithDigit (s : List Char) : Prop :=
  s.head?.all Char.isDigit = true

/-- The unit of a term ends in front of the next number. -/
theorem unit_ends {unit rest : List Char} (hunit : forall c, c ∈ unit -> startsNumber c = false)
    (hrest : StartsWithDigit rest) :
    ((unit ++ rest).takeWhile fun c => ! startsNumber c) = unit ∧
      ((unit ++ rest).dropWhile fun c => ! startsNumber c) = rest := by
  have hletters : forall c, c ∈ unit -> (! startsNumber c) = true := by
    intro c hc
    rw [hunit c hc]
    rfl
  rw [List.takeWhile_append_of_pos hletters, List.dropWhile_append_of_pos hletters]
  cases rest with
  | nil => simp
  | cons c rest =>
      have hdigit : c.isDigit = true := by simpa [StartsWithDigit] using hrest
      simp [startsNumber, hdigit]

/-- A written term is read as itself. -/
theorem firstTerm_text {t : Term} (h : t.Written) {rest : List Char}
    (hrest : StartsWithDigit rest) :
    firstTerm (t.text ++ rest) = t ∧ behindTerm (t.text ++ rest) = rest := by
  rcases startsNumber_of_mem_unit h.unit with ⟨hne, hunit⟩
  rcases unit_ends hunit hrest with ⟨htake, hdrop⟩
  rcases List.exists_cons_of_ne_nil hne with ⟨u, us, hus⟩
  have hu : StartsUnit u := by
    have hletter := hunit u (hus ▸ List.mem_cons_self)
    simpa [startsNumber, StartsUnit, and_comm] using hletter
  have htext : t.text ++ rest = t.whole ++ (pointed t.fraction ++ u :: (us ++ rest)) := by
    simp [Term.text, hus]
  have hbehind : (pointed t.fraction ++ u :: (us ++ rest)).head?.all (fun c => ! c.isDigit) =
      true := by
    unfold pointed
    split
    · simp [hu.1]
    · rfl
  have hback : u :: (us ++ rest) = t.unit ++ rest := by
    rw [hus, List.cons_append]
  unfold firstTerm behindTerm
  rw [htext, takeWhile_digits h.whole.2 hbehind, dropWhile_digits h.whole.2 hbehind,
    goFraction_pointed h.fraction hu, hback]
  dsimp only
  rw [htake, hdrop]
  exact ⟨rfl, rfl⟩

theorem textTerms_text {t : Term} (h : t.Written) {rest : List Char}
    (hrest : StartsWithDigit rest) : textTerms (t.text ++ rest) = t :: textTerms rest := by
  rcases firstTerm_text h hrest with ⟨hfirst, hbehind⟩
  cases htext : t.text ++ rest with
  | nil =>
      unfold Term.text at htext
      rw [List.append_assoc] at htext
      exact absurd (List.append_eq_nil_iff.mp htext).1 h.whole.1
  | cons c cs =>
      rw [textTerms_cons, ← htext, hfirst, hbehind]

end Helpers
end CouchbaseSdk
