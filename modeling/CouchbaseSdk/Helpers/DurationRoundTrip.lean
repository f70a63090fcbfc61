import CouchbaseSdk.Helpers.DurationBuffer
import CouchbaseSdk.Helpers.DurationLimits
import Mathlib.Tactic.Positivity

/-!
# Durations that are written and read again

A duration is written as one to three terms.  Their fractions have no more digits than the unit
has zeros, so that nothing is lost when they are read.
-/

namespace CouchbaseSdk
namespace Helpers

open Foundation

/-!
# Terms that are read exactly
-/

theorem powTen_exact (n : Nat) : forall scale : ℚ, F64.exact.powTen n scale = scale * 10 ^ n := by
  induction n with
  | zero =>
      intro scale
      exact (mul_one scale).symm
  | succ n ih =>
      intro scale
      have hpow : scale * 10 * 10 ^ n = scale * 10 ^ (n + 1) := by ring
      exact (ih (scale * 10)).trans hpow

theorem fitting_of_lt (ds : List Char) : forall x, Nat.ofDigitChars 10 ds x < 2 ^ 64 ->
    fitting x ds = ds := by
  induction ds with
  | nil =>
      intro x _
      rfl
  | cons c rest ih =>
      intro x h
      rw [ofDigitChars_more] at h
      have hle := le_ofDigitChars rest (Nat.ofDigitChars 10 [c] x)
      unfold fitting
      rw [if_pos (lt_of_le_of_lt hle h), ih _ h]

theorem not_spills_of_lt (ds : List Char) {x : Nat} (h : Nat.ofDigitChars 10 ds x < 2 ^ 64) :
    ¬ Spills x ds := by
  rintro ⟨p, ⟨rest, rfl⟩, hlarge, _⟩
  rw [Nat.ofDigitChars_append] at h
  have hle := le_ofDigitChars rest (Nat.ofDigitChars 10 p x)
  omega

/-- A term whose fraction is `n` nanoseconds, no more and no less. -/
structure Exactly (t : Term) (unit n : Nat) : Prop where
  written : t.Written
  factor : t.factor = some unit
  fraction : digitsValue t.fraction * unit = n * 10 ^ t.fraction.length
  digits : digitsValue t.fraction < 2 ^ 64
  fits : digitsValue t.whole * unit + n < 2 ^ 64

namespace Exactly

variable {t : Term} {unit n : Nat}

theorem kept_eq (h : Exactly t unit n) : t.kept = t.fraction :=
  fitting_of_lt t.fraction 0 h.digits

theorem fractionOf_eq (h : Exactly t unit n) : t.fractionOf F64.exact unit = (n : ℚ) := by
  have hpow : (10 : ℚ) ^ t.fraction.length ≠ 0 := pow_ne_zero _ (by norm_num)
  have hvalue : (digitsValue t.fraction : ℚ) * unit = n * 10 ^ t.fraction.length := by
    exact_mod_cast h.fraction
  have hscale : F64.exact.powTen t.fraction.length (F64.exact.ofU64 1) =
      (10 : ℚ) ^ t.fraction.length := by
    have hone : (((1 : Nat) : ℚ)) * 10 ^ t.fraction.length = 10 ^ t.fraction.length := by
      rw [Nat.cast_one, one_mul]
    exact (powTen_exact t.fraction.length _).trans hone
  unfold Term.fractionOf
  rw [h.kept_eq, hscale]
  have hquotient : (digitsValue t.fraction : ℚ) * (unit / 10 ^ t.fraction.length) = n := by
    rw [← mul_div_assoc, hvalue, mul_div_assoc, div_self hpow, mul_one]
  exact hquotient

theorem toU64_fractionOf (h : Exactly t unit n) :
    F64.exact.toU64 (t.fractionOf F64.exact unit) = n := by
  have hfits := h.fits
  rw [h.fractionOf_eq]
  have hfloor : F64.saturating (n : ℚ) = n := by
    unfold F64.saturating
    rw [Nat.floor_natCast]
    omega
  exact hfloor

theorem nanos_eq (h : Exactly t unit n) :
    t.nanos F64.exact = digitsValue t.whole * unit + n := by
  rw [nanos_of_factor h.factor, Term.nanosIn, h.toU64_fractionOf, h.kept_eq]
  by_cases hpos : 0 < digitsValue t.fraction
  · rw [if_pos hpos]
  · have hzero : digitsValue t.fraction = 0 := Nat.eq_zero_of_not_pos hpos
    have hvalue := h.fraction
    rw [hzero, Nat.zero_mul] at hvalue
    have hn : n = 0 := by
      rcases Nat.mul_eq_zero.mp hvalue.symm with hn | hpow
      · exact hn
      · exact absurd hpow (Nat.pow_pos (by decide)).ne'
    rw [if_neg hpos, hn]

theorem readable (h : Exactly t unit n) : t.Readable F64.exact := by
  have hfits := h.fits
  refine ⟨Or.inl h.written.whole.1, unit, h.factor, by omega, ?_⟩
  intro _
  rw [h.fractionOf_eq]
  have hle : ((n : ℚ)) ≤ ((2 ^ 64 - 1 : Nat) : ℚ) := by
    exact_mod_cast (by omega : n ≤ 2 ^ 64 - 1)
  have hlt : F64.exact.lt (F64.exact.ofU64 (2 ^ 64 - 1)) (n : ℚ) =
      decide (((2 ^ 64 - 1 : Nat) : ℚ) < (n : ℚ)) := rfl
  exact hlt.trans (decide_eq_false (not_lt_of_ge hle))

theorem not_overflows (h : Exactly t unit n) : ¬ t.Overflows F64.exact := by
  have hfits := h.fits
  have hwhole : digitsValue t.whole < 2 ^ 64 := by
    have hle := whole_le h.factor
    omega
  rintro (hspills | ⟨_, hspills⟩ | ⟨_, hlarge⟩)
  · exact not_spills_of_lt t.whole hwhole hspills
  · exact not_spills_of_lt t.fraction h.digits hspills
  · rw [h.nanos_eq] at hlarge
    omega

end Exactly

theorem startsWithDigit_text {t : Term} (h : t.Written) (rest : List Char) :
    StartsWithDigit (t.text ++ rest) := by
  unfold StartsWithDigit Term.text
  cases hwhole : t.whole with
  | nil => exact absurd hwhole h.whole.1
  | cons c cs =>
      have hc := h.whole.2 c (hwhole ▸ List.mem_cons_self)
      simpa using hc

/-- A text of terms that are read exactly, of `u` nanoseconds altogether. -/
structure Spells (ts : List Term) (text : List Char) (u : Nat) : Prop where
  terms : forall t, t ∈ ts -> exists unit n, Exactly t unit n
  text : text = ts.flatMap Term.text
  total : totalNanos F64.exact ts = u

namespace Spells

variable {ts : List Term} {text : List Char} {u : Nat}

theorem nil : Spells [] [] 0 where
  terms := by
    intro t ht
    cases ht
  text := rfl
  total := rfl

theorem cons (h : Spells ts text u) {t : Term} {unit n : Nat} (ht : Exactly t unit n) :
    Spells (t :: ts) (t.text ++ text) (digitsValue t.whole * unit + n + u) where
  terms := List.forall_mem_cons.mpr ⟨⟨unit, n, ht⟩, h.terms⟩
  text := by rw [h.text, List.flatMap_cons]
  total := by rw [totalNanos_cons, ht.nanos_eq, h.total]

theorem startsWithDigit (h : Spells ts text u) : StartsWithDigit text := by
  rw [h.text]
  cases ts with
  | nil => rfl
  | cons t ts =>
      rcases h.terms t List.mem_cons_self with ⟨unit, n, ht⟩
      exact startsWithDigit_text ht.written _

theorem textTerms (h : Spells ts text u) : Helpers.textTerms text = ts := by
  rw [h.text]
  have hterms := h.terms
  clear h
  induction ts with
  | nil => rw [List.flatMap_nil, Helpers.textTerms]
  | cons t ts ih =>
      rcases List.forall_mem_cons.mp hterms with ⟨⟨unit, n, ht⟩, hts⟩
      have hstarts : StartsWithDigit (ts.flatMap Term.text) := by
        cases ts with
        | nil => rfl
        | cons t' ts =>
            rcases hts t' List.mem_cons_self with ⟨unit', n', ht'⟩
            exact startsWithDigit_text ht'.written _
      rw [List.flatMap_cons, textTerms_text ht.written hstarts, ih hts]

end Spells

theorem not_overflowReached {f64 : F64} {ts : List Term}
    (h : forall t, t ∈ ts -> ¬ t.Overflows f64) : forall d, ¬ OverflowReached f64 d ts := by
  induction ts with
  | nil =>
      intro d
      exact id
  | cons t ts ih =>
      rcases List.forall_mem_cons.mp h with ⟨ht, hts⟩
      rintro d (hover | ⟨_, _, hlater⟩)
      · exact ht hover
      · exact ih hts _ hlater

/-- The terms of a text are added up. -/
theorem Spells.parseTerms {ts : List Term} {text : List Char} {u : Nat} (h : Spells ts text u)
    (hu : u < 2 ^ 64) (orig : String) :
    Helpers.parseTerms F64.exact orig text 0 = .ok u := by
  have hnever : ¬ OverflowReached F64.exact 0 ts := by
    apply not_overflowReached
    intro t ht
    rcases h.terms t ht with ⟨unit, n, hexact⟩
    exact hexact.not_overflows
  have hreadable : AllReadable F64.exact 0 ts := by
    refine ⟨?_, ?_⟩
    · intro t ht
      rcases h.terms t ht with ⟨unit, n, hexact⟩
      exact hexact.readable
    · rw [h.total, Nat.zero_add]
      exact hu
  rcases parseTerms_cases F64.exact orig text 0 (by decide) with hcase | hcase | hcase
  · rw [h.textTerms] at hcase
    exact absurd hcase.1 hnever
  · rw [h.textTerms, h.total, Nat.zero_add] at hcase
    exact hcase.2.2
  · rw [h.textTerms] at hcase
    exact absurd hreadable hcase.2.1

/-!
# Terms that are written
-/

/-- The term of a whole number without a fraction. -/
theorem exactly_whole {ds : List Char} {whole factor : Nat} {letters : List Char}
    (hds : AllDigits ds ∧ ds ≠ []) (hvalue : digitsValue ds = whole)
    (hfactor : unitMap.lookup (String.ofList letters) = some factor)
    (hfits : whole * factor < 2 ^ 64) : Exactly ⟨ds, [], letters⟩ factor 0 where
  written := ⟨⟨hds.2, hds.1⟩, allDigits_nil, Option.isSome_iff_exists.mpr ⟨factor, hfactor⟩⟩
  factor := hfactor
  fraction := by simp
  digits := by
    dsimp only
    rw [digitsValue_nil]
    decide
  fits := by
    dsimp only
    rw [hvalue, Nat.add_zero]
    exact hfits

/-- The last number of a text, which may have a fraction. -/
theorem spells_last {v prec whole : Nat} {letters : List Char} (hwhole : whole < 10 ^ 20)
    (hfactor : unitMap.lookup (String.ofList letters) = some (10 ^ prec))
    (hfits : whole * 10 ^ prec + v % 10 ^ prec < 2 ^ 64) :
    exists ts, ts ≠ [] ∧ Spells ts (fmtInt (fmtFrac letters v prec).1 whole)
      (whole * 10 ^ prec + v % 10 ^ prec) := by
  rcases fmtFrac_digits letters v prec with ⟨fs, hfrac, hfs, hlength, hfraction⟩
  rcases fmtInt_digits whole hwhole with ⟨ds, hint, hds, hne, hvalue⟩
  have hdigits : digitsValue fs < 2 ^ 64 := by
    have hscale : 10 ^ fs.length ≤ 10 ^ prec := Nat.pow_le_pow_right (by decide) hlength
    have hle : digitsValue fs * 10 ^ prec ≤ v % 10 ^ prec * 10 ^ prec := by
      rw [hfraction]
      exact Nat.mul_le_mul_left _ hscale
    have hfraction_le := Nat.le_of_mul_le_mul_right hle (Nat.pow_pos (by decide))
    omega
  have hexact : Exactly ⟨ds, fs, letters⟩ (10 ^ prec) (v % 10 ^ prec) := by
    constructor
    · exact ⟨⟨hne, hds⟩, hfs, Option.isSome_iff_exists.mpr ⟨_, hfactor⟩⟩
    · exact hfactor
    · exact hfraction
    · exact hdigits
    · dsimp only
      rw [hvalue]
      exact hfits
  refine ⟨[⟨ds, fs, letters⟩], List.cons_ne_nil _ _, ?_⟩
  have hspells := Spells.nil.cons hexact
  rw [hfrac, hint]
  dsimp only [Term.text] at hspells
  rw [hvalue, Nat.add_zero, List.append_nil] at hspells
  exact hspells

/-- A number in front of a text. -/
theorem Spells.more {ts : List Term} {text letters : List Char} {u whole factor : Nat}
    (h : Spells ts text u) (hwhole : whole < 10 ^ 20)
    (hfactor : unitMap.lookup (String.ofList letters) = some factor)
    (hfits : whole * factor < 2 ^ 64) :
    exists ts, ts ≠ [] ∧ Spells ts (fmtInt (letters ++ text) whole) (whole * factor + u) := by
  rcases fmtInt_digits whole hwhole with ⟨ds, hint, hds, hne, hvalue⟩
  have hspells := h.cons (exactly_whole ⟨hds, hne⟩ hvalue hfactor hfits)
  refine ⟨⟨ds, [], letters⟩ :: ts, List.cons_ne_nil _ _, ?_⟩
  rw [hint]
  dsimp only [Term.text] at hspells
  rw [hvalue, Nat.add_zero, pointed, if_pos List.isEmpty_nil, List.nil_append,
    List.append_assoc] at hspells
  exact hspells

theorem spells_units {u prec : Nat} {letters : List Char} (hu : u < 2 ^ 64)
    (hfactor : unitMap.lookup (String.ofList letters) = some (10 ^ prec)) :
    exists ts, ts ≠ [] ∧
      Spells ts (fmtInt (fmtFrac letters u prec).1 (fmtFrac letters u prec).2) u := by
  have hroom : u < 10 ^ 20 := lt_trans hu (by decide)
  have hless : u / 10 ^ prec < 10 ^ 20 := lt_of_le_of_lt (Nat.div_le_self _ _) hroom
  have hlast := @spells_last u prec (u / 10 ^ prec) letters hless hfactor
  rw [Nat.div_add_mod'] at hlast
  rw [fmtFrac_left]
  exact hlast hu

theorem spells_durationChars {u : Nat} (hu : u < 2 ^ 64) :
    exists ts, ts ≠ [] ∧ Spells ts (durationChars u) u := by
  unfold durationChars
  by_cases hunits : u < 1000000000
  · rw [if_pos hunits]
    by_cases hzero : u = 0
    · rw [if_pos hzero, hzero]
      exact @spells_last 0 9 0 ['s'] (by decide) rfl (by decide)
    · rw [if_neg hzero]
      by_cases hnanos : u < 1000
      · simp only [if_pos hnanos]
        exact spells_units hu rfl
      · by_cases hmicros : u < 1000000
        · simp only [if_neg hnanos, if_pos hmicros]
          exact spells_units hu rfl
        · simp only [if_neg hnanos, if_neg hmicros]
          exact spells_units hu rfl
  · rw [if_neg hunits]
    simp only [fmtFrac_left]
    rcases @spells_last u 9 (u / 10 ^ 9 % 60) ['s'] (by omega) rfl (by omega) with
      ⟨ts, hts, hseconds⟩
    by_cases hminute : 0 < u / 10 ^ 9 / 60
    · rcases @Spells.more _ _ ['m'] _ (u / 10 ^ 9 / 60 % 60) 60000000000 hseconds (by omega)
          rfl (by omega) with ⟨ts', hts', hminutes⟩
      rw [if_pos hminute]
      by_cases hhour : 0 < u / 10 ^ 9 / 60 / 60
      · rcases @Spells.more _ _ ['h'] _ (u / 10 ^ 9 / 60 / 60) 3600000000000 hminutes
            (by omega) rfl (by omega) with ⟨ts'', hts'', hhours⟩
        rw [if_pos hhour]
        have hsum : u / 10 ^ 9 / 60 / 60 * 3600000000000 + (u / 10 ^ 9 / 60 % 60 * 60000000000 +
            (u / 10 ^ 9 % 60 * 10 ^ 9 + u % 10 ^ 9)) = u := by omega
        rw [hsum] at hhours
        exact ⟨ts'', hts'', hhours⟩
      · rw [if_neg hhour]
        have hsum : u / 10 ^ 9 / 60 % 60 * 60000000000 +
            (u / 10 ^ 9 % 60 * 10 ^ 9 + u % 10 ^ 9) = u := by omega
        rw [hsum] at hminutes
        exact ⟨ts', hts', hminutes⟩
    · rw [if_neg hminute]
      have hsum : u / 10 ^ 9 % 60 * 10 ^ 9 + u % 10 ^ 9 = u := by omega
      rw [hsum] at hseconds
      exact ⟨ts, hts, hseconds⟩

/-!
# The round trip
-/

/-- What is written with a digit first and a unit last is no lone zero. -/
theorem Spells.parse {ts : List Term} {text : List Char} {u : Nat} (h : Spells ts text u)
    (hne : ts ≠ []) (hu : u < 2 ^ 64) :
    parseDurationFromGolangString F64.exact (String.ofList text) =
      .ok (Duration.fromNanos (UInt64.ofNat u)) := by
  have hstarts := h.startsWithDigit
  have hterms := h.textTerms
  have hzero : text ≠ ['0'] := by
    intro heq
    rw [heq] at hterms
    rcases List.exists_cons_of_ne_nil hne with ⟨t, ts', hts⟩
    rcases h.terms t (hts ▸ List.mem_cons_self) with ⟨unit, n, ht⟩
    rw [hts, textTerms_cons] at hterms
    have hunit : t.unit = [] := by
      rw [← (List.cons.inj hterms).1]
      rfl
    exact (startsNumber_of_mem_unit ht.written.unit).1 hunit
  have hempty : ¬ text.isEmpty = true := by
    intro heq
    rw [List.isEmpty_iff.mp heq, Helpers.textTerms] at hterms
    exact hne hterms.symm
  rw [← String.toList_ofList (l := text)] at hstarts
  rw [(unsigned_of_digit F64.exact hstarts).1, String.toList_ofList]
  unfold parseUnsignedDuration
  rw [if_neg hzero, if_neg hempty, h.parseTerms hu, Exec.map_ok]

theorem duration_round_trip (d : Duration) (h : d.asNanos < 2 ^ 64) :
    exists s, DurationBuffer.durationToGolangString d = .ok s ∧
      parseDurationFromGolangString F64.exact s = .ok d := by
  rcases spells_durationChars h with ⟨ts, hne, hspells⟩
  refine ⟨String.ofList (durationChars d.asNanos), ?_, ?_⟩
  · rw [DurationBuffer.durationToGolangString_eq, Helpers.durationToGolangString,
      Nat.mod_eq_of_lt h]
  · have hnanos := asNanos_fromNanos h
    have heq : Duration.fromNanos (UInt64.ofNat d.asNanos) = d := by
      cases d
      exact Duration.mk.injEq _ _ _ _ ▸ hnanos
    rw [hspells.parse hne h, heq]

/-- One hour, two minutes and three seconds with a fraction. -/
theorem duration_round_trip_hour :
    exists s, DurationBuffer.durationToGolangString ⟨3723004500000, by decide⟩ = .ok s ∧
      parseDurationFromGolangString F64.exact s = .ok ⟨3723004500000, by decide⟩ :=
  duration_round_trip ⟨3723004500000, by decide⟩ (by decide)

end Helpers
end CouchbaseSdk
