import Mathlib.Algebra.Group.Nat.Defs
import Mathlib.Data.Nat.Init

/-!
# Durations in the notation of Go

Numbers with a unit each, one after the other.  A number has digits, and may have a point with
digits after it.
-/

namespace CouchbaseSdk
namespace Foundation

def goUnit : List Char -> Option (Nat × List Char)
  | 'n' :: 's' :: rest => some (1, rest)
  | 'u' :: 's' :: rest => some (10 ^ 3, rest)
  | '\u00b5' :: 's' :: rest => some (10 ^ 3, rest)
  | '\u03bc' :: 's' :: rest => some (10 ^ 3, rest)
  | 'm' :: 's' :: rest => some (10 ^ 6, rest)
  | 's' :: rest => some (10 ^ 9, rest)
  | 'm' :: rest => some (60 * 10 ^ 9, rest)
  | 'h' :: rest => some (3600 * 10 ^ 9, rest)
  | _ => none

def digitsValue (ds : List Char) : Nat :=
  Nat.ofDigitChars 10 ds 0

/-- The digits after a point. -/
def goFraction : List Char -> List Char × List Char
  | '.' :: rest => (rest.takeWhile Char.isDigit, rest.dropWhile Char.isDigit)
  | rest => ([], rest)

def termValue (whole fraction : List Char) (unit : Nat) : Nat :=
  digitsValue whole * unit + digitsValue fraction * unit / 10 ^ fraction.length

def goTerms : Nat -> List Char -> Option Nat
  | _, [] => some 0
  | 0, _ => none
  | n + 1, cs =>
      let whole := cs.takeWhile Char.isDigit
      let fraction := goFraction (cs.dropWhile Char.isDigit)
      if whole.isEmpty && fraction.1.isEmpty then none
      else
        match goUnit fraction.2 with
        | none => none
        | some (unit, rest) =>
            (goTerms n rest).map fun more => termValue whole fraction.1 unit + more

/-- The nanoseconds of a duration. -/
def goDuration (s : String) : Option Nat :=
  if s.isEmpty then none else goTerms s.length s.toList

/-!
# Single terms
-/

def AllDigits (ds : List Char) : Prop :=
  forall c, c ∈ ds -> c.isDigit = true

@[simp] theorem digitsValue_nil : digitsValue [] = 0 := rfl

theorem digitsValue_cons {d : Nat} (hd : d < 10) (ds : List Char) :
    digitsValue (d.digitChar :: ds) = d * 10 ^ ds.length + digitsValue ds := by
  unfold digitsValue
  rw [Nat.ofDigitChars_cons_digitChar_of_lt_ten hd, Nat.ofDigitChars_eq_ofDigitChars_zero,
    Nat.mul_zero, Nat.zero_add, Nat.mul_comm]

theorem allDigits_nil : AllDigits [] := by
  intro c hc
  cases hc

theorem allDigits_cons {d : Nat} (hd : d < 10) {ds : List Char} (h : AllDigits ds) :
    AllDigits (d.digitChar :: ds) := by
  intro c hc
  rcases List.mem_cons.mp hc with rfl | hmem
  · rw [Nat.isDigit_digitChar]
    exact decide_eq_true hd
  · exact h c hmem

theorem takeWhile_digits {ds rest : List Char} (h : AllDigits ds)
    (hrest : rest.head?.all (fun c => ! c.isDigit) = true) :
    (ds ++ rest).takeWhile Char.isDigit = ds := by
  rw [List.takeWhile_append_of_pos h]
  cases rest with
  | nil => simp
  | cons c rest =>
      have hc : c.isDigit = false := by simpa using hrest
      simp [hc]

theorem dropWhile_digits {ds rest : List Char} (h : AllDigits ds)
    (hrest : rest.head?.all (fun c => ! c.isDigit) = true) :
    (ds ++ rest).dropWhile Char.isDigit = rest := by
  rw [List.dropWhile_append_of_pos h]
  cases rest with
  | nil => simp
  | cons c rest =>
      have hc : c.isDigit = false := by simpa using hrest
      simp [hc]

def pointed (fraction : List Char) : List Char :=
  if fraction.isEmpty then [] else '.' :: fraction

/-- What may stand behind the digits of a number: a unit. -/
def StartsUnit (u : Char) : Prop :=
  u.isDigit = false ∧ u ≠ '.'

theorem goFraction_pointed {fraction : List Char} {u : Char} (h : AllDigits fraction)
    (hu : StartsUnit u) (rest : List Char) :
    goFraction (pointed fraction ++ u :: rest) = (fraction, u :: rest) := by
  cases fraction with
  | nil =>
      rw [pointed, if_pos List.isEmpty_nil, List.nil_append, goFraction.eq_def]
      split
      · next heq =>
          injection heq with hhead _
          exact absurd hhead hu.2
      · rfl
  | cons d fraction =>
      have hrest : (u :: rest).head?.all (fun c => ! c.isDigit) = true := by simp [hu.1]
      rw [pointed, if_neg (by simp), List.cons_append]
      simp only [goFraction]
      rw [takeWhile_digits h hrest, dropWhile_digits h hrest]

/-- A term is read, and then the others. -/
theorem goTerms_term {whole fraction rest rest' : List Char} {u : Char} {unit : Nat}
    (hne : whole ≠ []) (hwhole : AllDigits whole) (hfraction : AllDigits fraction)
    (hu : StartsUnit u) (hunit : goUnit (u :: rest) = some (unit, rest')) (n : Nat) :
    goTerms (n + 1) (whole ++ (pointed fraction ++ u :: rest)) =
      (goTerms n rest').map fun more => termValue whole fraction unit + more := by
  have hbehind : (pointed fraction ++ u :: rest).head?.all (fun c => ! c.isDigit) = true := by
    unfold pointed
    split
    · simp [hu.1]
    · rfl
  have htake := takeWhile_digits hwhole hbehind
  have hdrop := dropWhile_digits hwhole hbehind
  have hempty : whole.isEmpty = false := List.isEmpty_eq_false_iff.mpr hne
  cases whole with
  | nil => exact absurd rfl hne
  | cons d whole =>
      rw [List.cons_append] at htake hdrop ⊢
      rw [goTerms.eq_def]
      simp only [htake, hdrop, goFraction_pointed hfraction hu, hempty, Bool.false_and, hunit]
      rfl

/-- A letter for minutes is not taken for the first one of milliseconds. -/
theorem goUnit_minutes {ds : List Char} (hne : ds ≠ []) (hds : AllDigits ds) (rest : List Char) :
    goUnit ('m' :: (ds ++ rest)) = some (60 * 10 ^ 9, ds ++ rest) := by
  cases ds with
  | nil => exact absurd rfl hne
  | cons d ds =>
      have hd : d ≠ 's' := by
        intro heq
        have hdigit := hds d List.mem_cons_self
        rw [heq] at hdigit
        revert hdigit
        decide
      simp [goUnit, hd]

theorem goTerms_nil (n : Nat) : goTerms n [] = some 0 := by
  cases n <;> rfl

end Foundation
end CouchbaseSdk
