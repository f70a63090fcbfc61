import CouchbaseSdk.Foundation.Duration
import CouchbaseSdk.Foundation.GoNotation
import Mathlib.Tactic.Ring

/-!
# Writing durations

The text is written into a buffer from its end on, and the fraction without the zeros behind it.
-/

namespace CouchbaseSdk
namespace Helpers

open Foundation

/-- The digits of a fraction from the last on, of which none is written before one that is not
zero. -/
def fracLoop : Nat -> Nat -> Bool -> List Char -> Nat × Bool × List Char
  | 0, v, print, buf => (v, print, buf)
  | prec + 1, v, print, buf =>
      let digit := v % 10
      let print := print || digit != 0
      fracLoop prec (v / 10) print (if print then digit.digitChar :: buf else buf)

def fmtFrac (buf : List Char) (v prec : Nat) : List Char × Nat :=
  let written := fracLoop prec v false buf
  (if written.2.1 then '.' :: written.2.2 else written.2.2, written.1)

/-- A number of 64 bits has no more than 20 digits. -/
def intLoop : Nat -> Nat -> List Char -> List Char
  | 0, _, buf => buf
  | n + 1, v, buf => if 0 < v then intLoop n (v / 10) ((v % 10).digitChar :: buf) else buf

def fmtInt (buf : List Char) (v : Nat) : List Char :=
  if v = 0 then '0' :: buf else intLoop 20 v buf

/-- Nanoseconds of 64 bits; the two bytes of the micro sign are one character. -/
def durationChars (u : Nat) : List Char :=
  if u < 1000000000 then
    if u = 0 then ['0', 's']
    else
      let (unit, prec) :=
        if u < 1000 then ('n', 0) else if u < 1000000 then ('\u00b5', 3) else ('m', 6)
      let (buf, u) := fmtFrac [unit, 's'] u prec
      fmtInt buf u
  else
    let (buf, u) := fmtFrac ['s'] u 9
    let buf := fmtInt buf (u % 60)
    let u := u / 60
    if 0 < u then
      let buf := fmtInt ('m' :: buf) (u % 60)
      let u := u / 60
      if 0 < u then fmtInt ('h' :: buf) u else buf
    else buf

def durationToGolangString (duration : Duration) : String :=
  String.ofList (durationChars (duration.asNanos % 2 ^ 64))

/-!
# The digits that are written
-/

theorem fracLoop_digits (prec : Nat) (buf : List Char) :
    forall (v : Nat) (ds : List Char), AllDigits ds ->
      exists ds', fracLoop prec v (! ds.isEmpty) (ds ++ buf) =
          (v / 10 ^ prec, ! ds'.isEmpty, ds' ++ buf) ∧
        AllDigits ds' ∧ ds'.length ≤ prec + ds.length ∧
        digitsValue ds' * 10 ^ (prec + ds.length - ds'.length) =
          v % 10 ^ prec * 10 ^ ds.length + digitsValue ds := by
  induction prec with
  | zero =>
      intro v ds hds
      refine ⟨ds, ?_, hds, ?_, ?_⟩
      · simp [fracLoop]
      · omega
      · simp [Nat.mod_one]
  | succ prec ih =>
      intro v ds hds
      have hdigit : v % 10 < 10 := Nat.mod_lt v (by decide)
      have hmod : v % 10 ^ (prec + 1) = v % 10 + 10 * (v / 10 % 10 ^ prec) := by
        rw [Nat.pow_succ', Nat.mod_mul]
      have hdiv : v / 10 ^ (prec + 1) = v / 10 / 10 ^ prec := by
        rw [Nat.pow_succ', Nat.div_div_eq_div_mul]
      by_cases hprint : (! ds.isEmpty || v % 10 != 0) = true
      · rcases ih (v / 10) ((v % 10).digitChar :: ds) (allDigits_cons hdigit hds)
          with ⟨ds', hloop, hds', hlength, hvalue⟩
        refine ⟨ds', ?_, hds', ?_, ?_⟩
        · simp only [fracLoop, hprint, if_true]
          rw [hdiv]
          exact hloop
        · simp only [List.length_cons] at hlength
          omega
        · simp only [List.length_cons] at hvalue
          rw [digitsValue_cons hdigit] at hvalue
          rw [show prec + 1 + ds.length = prec + (ds.length + 1) by omega, hvalue, hmod,
            Nat.pow_succ']
          ring
      · have hnothing : ds = [] ∧ v % 10 = 0 := by simpa using hprint
        rcases hnothing with ⟨rfl, hzero⟩
        rcases ih (v / 10) [] hds with ⟨ds', hloop, hds', hlength, hvalue⟩
        simp only [List.length_nil, Nat.add_zero] at hlength hvalue ⊢
        refine ⟨ds', ?_, hds', by omega, ?_⟩
        · simp only [fracLoop, hprint]
          rw [hdiv]
          exact hloop
        · rw [show prec + 1 - ds'.length = (prec - ds'.length) + 1 by omega, Nat.pow_succ',
            Nat.mul_left_comm, hvalue, hmod, hzero, digitsValue_nil]
          ring

/-- What is written of a fraction, and what is left. -/
theorem fmtFrac_digits (buf : List Char) (v prec : Nat) :
    exists ds, fmtFrac buf v prec = (pointed ds ++ buf, v / 10 ^ prec) ∧ AllDigits ds ∧
      ds.length ≤ prec ∧ digitsValue ds * 10 ^ prec = v % 10 ^ prec * 10 ^ ds.length := by
  rcases fracLoop_digits prec buf v [] allDigits_nil with ⟨ds, hloop, hds, hlength, hvalue⟩
  refine ⟨ds, ?_, hds, hlength, ?_⟩
  · have hloop' : fracLoop prec v false buf = (v / 10 ^ prec, ! ds.isEmpty, ds ++ buf) := hloop
    unfold fmtFrac pointed
    rw [hloop']
    cases ds <;> rfl
  · simp only [List.length_nil, Nat.add_zero] at hlength hvalue
    have hpow : 10 ^ prec = 10 ^ (prec - ds.length) * 10 ^ ds.length := by
      rw [← Nat.pow_add, Nat.sub_add_cancel hlength]
    rw [digitsValue_nil, Nat.pow_zero, Nat.mul_one, Nat.add_zero] at hvalue
    rw [← hvalue, Nat.mul_assoc, ← hpow]

theorem fmtFrac_left (buf : List Char) (v prec : Nat) :
    (fmtFrac buf v prec).2 = v / 10 ^ prec := by
  rcases fmtFrac_digits buf v prec with ⟨ds, hfrac, _⟩
  rw [hfrac]

theorem intLoop_digits (n : Nat) :
    forall (v : Nat) (ds : List Char), v < 10 ^ n -> AllDigits ds ->
      exists ds', (forall buf, intLoop n v (ds ++ buf) = ds' ++ buf) ∧ AllDigits ds' ∧
        (ds' = [] -> v = 0) ∧ digitsValue ds' = v * 10 ^ ds.length + digitsValue ds := by
  induction n with
  | zero =>
      intro v ds hv hds
      have hzero : v = 0 := by simpa using hv
      refine ⟨ds, fun buf => rfl, hds, fun _ => hzero, ?_⟩
      rw [hzero, Nat.zero_mul, Nat.zero_add]
  | succ n ih =>
      intro v ds hv hds
      by_cases hpos : 0 < v
      · have hdigit : v % 10 < 10 := Nat.mod_lt v (by decide)
        have hless : v / 10 < 10 ^ n := by
          rw [Nat.pow_succ] at hv
          exact Nat.div_lt_of_lt_mul (by rwa [Nat.mul_comm])
        rcases ih (v / 10) ((v % 10).digitChar :: ds) hless (allDigits_cons hdigit hds)
          with ⟨ds', hloop, hds', hempty, hvalue⟩
        refine ⟨ds', ?_, hds', ?_, ?_⟩
        · intro buf
          rw [intLoop, if_pos hpos]
          exact hloop buf
        · intro hnil
          rw [hnil, digitsValue_cons hdigit] at hvalue
          have hdiv := hempty hnil
          rw [digitsValue_nil, hdiv, Nat.zero_mul, Nat.zero_add] at hvalue
          have hmod : v % 10 = 0 := by
            have hprod : v % 10 * 10 ^ ds.length = 0 := by omega
            rcases Nat.mul_eq_zero.mp hprod with hmod | hpow
            · exact hmod
            · exact absurd hpow (Nat.pow_pos (by decide)).ne'
          omega
        · have hsplit : v = v / 10 * 10 + v % 10 := by omega
          rw [hvalue, digitsValue_cons hdigit, List.length_cons, Nat.pow_succ']
          conv_rhs => rw [hsplit]
          ring
      · have hzero : v = 0 := by omega
        refine ⟨ds, ?_, hds, fun _ => hzero, ?_⟩
        · intro buf
          rw [intLoop, if_neg hpos]
        · rw [hzero, Nat.zero_mul, Nat.zero_add]

theorem fmtInt_digits (v : Nat) (hv : v < 10 ^ 20) :
    exists ds, (forall buf, fmtInt buf v = ds ++ buf) ∧ AllDigits ds ∧ ds ≠ [] ∧
      digitsValue ds = v := by
  by_cases hzero : v = 0
  · refine ⟨['0'], ?_, @allDigits_cons 0 (by decide) [] allDigits_nil, by decide, ?_⟩
    · intro buf
      rw [fmtInt, if_pos hzero]
      rfl
    · rw [hzero]
      rfl
  · rcases intLoop_digits 20 v [] hv allDigits_nil with ⟨ds, hloop, hds, hempty, hvalue⟩
    refine ⟨ds, ?_, hds, fun hnil => hzero (hempty hnil), ?_⟩
    · intro buf
      rw [fmtInt, if_neg hzero]
      exact hloop buf
    · rw [hvalue]
      exact Nat.mul_one v

/-!
# Reading what was written
-/

/-- A text that starts with digits, and is read in so many terms. -/
structure ReadsAs (terms : Nat) (text : List Char) (v : Nat) : Prop where
  digits : exists ds rest, ds ≠ [] ∧ AllDigits ds ∧ text = ds ++ rest
  length : terms ≤ text.length
  read : forall n, goTerms (n + terms) text = some v

/-- The last number of a text, which may have a fraction. -/
theorem readsAs_last {v prec whole : Nat} {u : Char} {tail : List Char} (hwhole : whole < 10 ^ 20)
    (hu : StartsUnit u) (hunit : goUnit (u :: tail) = some (10 ^ prec, [])) :
    ReadsAs 1 (fmtInt (fmtFrac (u :: tail) v prec).1 whole)
      (whole * 10 ^ prec + v % 10 ^ prec) := by
  rcases fmtFrac_digits (u :: tail) v prec with ⟨fs, hfrac, hfs, _, hvalue'⟩
  have hfraction : digitsValue fs * 10 ^ prec / 10 ^ fs.length = v % 10 ^ prec := by
    rw [hvalue']
    exact Nat.mul_div_cancel _ (Nat.pow_pos (by decide))
  rcases fmtInt_digits whole hwhole with ⟨ds, hint, hds, hne, hvalue⟩
  rw [hfrac, hint]
  constructor
  · exact ⟨ds, _, hne, hds, rfl⟩
  · have hpos := List.length_pos_iff.mpr hne
    rw [List.length_append]
    omega
  · intro n
    rw [goTerms_term hne hds hfs hu hunit n, goTerms_nil, Option.map_some, termValue, hvalue,
      hfraction, Nat.add_zero]

/-- A number in front of a text. -/
theorem ReadsAs.more {terms v whole unit : Nat} {text : List Char} {u : Char}
    (h : ReadsAs terms text v) (hwhole : whole < 10 ^ 20) (hu : StartsUnit u)
    (hunit : goUnit (u :: text) = some (unit, text)) :
    ReadsAs (terms + 1) (fmtInt (u :: text) whole) (whole * unit + v) := by
  rcases fmtInt_digits whole hwhole with ⟨ds, hint, hds, hne, hvalue⟩
  rw [hint]
  constructor
  · exact ⟨ds, _, hne, hds, rfl⟩
  · have hlength := h.length
    rw [List.length_append, List.length_cons]
    omega
  · intro n
    have hterm := goTerms_term hne hds allDigits_nil hu hunit (n + terms)
    rw [pointed, if_pos List.isEmpty_nil, List.nil_append] at hterm
    rw [← Nat.add_assoc, hterm, h.read, Option.map_some, termValue, hvalue]
    simp

theorem ReadsAs.goDuration {terms v : Nat} {text : List Char} (h : ReadsAs terms text v) :
    goDuration (String.ofList text) = some v := by
  rcases h.digits with ⟨ds, rest, hne, _, htext⟩
  have hempty : text ≠ [] := by
    rw [htext]
    exact List.append_ne_nil_of_left_ne_nil hne rest
  have hread := h.read (text.length - terms)
  rw [Nat.sub_add_cancel h.length] at hread
  unfold Foundation.goDuration
  rw [if_neg (by simpa using hempty), String.length_ofList, String.toList_ofList]
  exact hread

theorem readsAs_units {u prec : Nat} {unit : Char} (hu : u < 10 ^ 20) (hstarts : StartsUnit unit)
    (hunit : goUnit [unit, 's'] = some (10 ^ prec, [])) :
    ReadsAs 1 (fmtInt (fmtFrac [unit, 's'] u prec).1 (fmtFrac [unit, 's'] u prec).2) u := by
  have hless : u / 10 ^ prec < 10 ^ 20 := lt_of_le_of_lt (Nat.div_le_self _ _) hu
  have hlast := @readsAs_last u prec (u / 10 ^ prec) unit ['s'] hless hstarts hunit
  rw [Nat.div_add_mod'] at hlast
  rw [fmtFrac_left]
  exact hlast

/-- A text for seconds becomes one for minutes and seconds. -/
theorem ReadsAs.minutes {terms v whole : Nat} {text : List Char} (h : ReadsAs terms text v)
    (hwhole : whole < 10 ^ 20) :
    ReadsAs (terms + 1) (fmtInt ('m' :: text) whole) (whole * (60 * 10 ^ 9) + v) := by
  rcases h.digits with ⟨ds, rest, hne, hds, rfl⟩
  exact h.more hwhole ⟨by decide, by decide⟩ (goUnit_minutes hne hds rest)

theorem ReadsAs.hours {terms v whole : Nat} {text : List Char} (h : ReadsAs terms text v)
    (hwhole : whole < 10 ^ 20) :
    ReadsAs (terms + 1) (fmtInt ('h' :: text) whole) (whole * (3600 * 10 ^ 9) + v) :=
  h.more hwhole ⟨by decide, by decide⟩ rfl

theorem readsAs_durationChars {u : Nat} (hu : u < 2 ^ 64) (hpos : u ≠ 0) :
    exists terms, ReadsAs terms (durationChars u) u := by
  have hroom : u < 10 ^ 20 := lt_trans hu (by decide)
  unfold durationChars
  by_cases hunits : u < 1000000000
  · refine ⟨1, ?_⟩
    rw [if_pos hunits, if_neg hpos]
    by_cases hnanos : u < 1000
    · simp only [if_pos hnanos]
      exact readsAs_units hroom ⟨by decide, by decide⟩ rfl
    · by_cases hmicros : u < 1000000
      · simp only [if_neg hnanos, if_pos hmicros]
        exact readsAs_units hroom ⟨by decide, by decide⟩ rfl
      · simp only [if_neg hnanos, if_neg hmicros]
        exact readsAs_units hroom ⟨by decide, by decide⟩ rfl
  · rw [if_neg hunits]
    simp only [fmtFrac_left]
    have hseconds := @readsAs_last u 9 (u / 10 ^ 9 % 60) 's' [] (by omega)
      ⟨by decide, by decide⟩ rfl
    by_cases hminute : 0 < u / 10 ^ 9 / 60
    · have hminutes := @ReadsAs.minutes _ _ (u / 10 ^ 9 / 60 % 60) _ hseconds (by omega)
      rw [if_pos hminute]
      by_cases hhour : 0 < u / 10 ^ 9 / 60 / 60
      · have hhours := @ReadsAs.hours _ _ (u / 10 ^ 9 / 60 / 60) _ hminutes (by omega)
        rw [if_pos hhour]
        refine ⟨3, ?_⟩
        convert hhours using 1
        omega
      · rw [if_neg hhour]
        refine ⟨2, ?_⟩
        convert hminutes using 1
        omega
    · rw [if_neg hminute]
      refine ⟨1, ?_⟩
      convert hseconds using 1
      omega

/-- The text of a duration is the duration, as far as its nanoseconds have 64 bits. -/
theorem goDuration_durationToGolangString (d : Duration) :
    goDuration (durationToGolangString d) = some (d.asNanos % 2 ^ 64) := by
  unfold durationToGolangString
  have hu : d.asNanos % 2 ^ 64 < 2 ^ 64 := Nat.mod_lt _ (by decide)
  by_cases hzero : d.asNanos % 2 ^ 64 = 0
  · rw [hzero]
    rfl
  · rcases readsAs_durationChars hu hzero with ⟨terms, hreads⟩
    exact hreads.goDuration

end Helpers
end CouchbaseSdk
