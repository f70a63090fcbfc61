import CouchbaseSdk.Helpers.DurationParser

/-!
# The limits of a duration that is read

A digit is added, and a fraction, without a look at the sum.  What else is too large is an error.
-/

namespace CouchbaseSdk
namespace Helpers

open Foundation

/-- The terms of a text that are read; there are none behind a minus. -/
def durationTerms (s : String) : List Term :=
  match s.toList with
  | '-' :: _ => []
  | '+' :: rest => textTerms rest
  | chars => textTerms chars

def totalNanos (f64 : F64) (ts : List Term) : Nat :=
  (ts.map (Term.nanos f64)).sum

/-- No term that is read overflows: one behind terms that can be read and whose sum has 64
bits. -/
def NoneOverflows (f64 : F64) (ts : List Term) : Prop :=
  forall before t after, ts = before ++ t :: after ->
    (forall b, b ∈ before -> b.Readable f64) -> totalNanos f64 before < 2 ^ 64 ->
    ¬ t.Overflows f64

namespace Term

/-- A whole number with a unit. -/
structure Plain (t : Term) : Prop where
  whole : t.whole ≠ [] ∧ AllDigits t.whole
  fraction : t.fraction = []
  unit : t.factor.isSome = true

def plainText (t : Term) : List Char :=
  t.whole ++ t.unit

def plainNanos (t : Term) : Nat :=
  digitsValue t.whole * t.factor.getD 0

end Term

/-- The sum of the terms, if each of them and the sum have 64 bits. -/
def plainTotal (ts : List Term) : Option Nat :=
  if (forall t, t ∈ ts -> t.plainNanos < 2 ^ 64) ∧ (ts.map Term.plainNanos).sum < 2 ^ 64 then
    some (ts.map Term.plainNanos).sum
  else none

/-- Every text is read or is an error, and one of whole numbers with units is read as their sum
exactly if that has 64 bits. -/
structure ReadsWithinLimits (f64 : F64) (s : String) : Prop where
  returns : (parseDurationFromGolangString f64 s).Returns
  total : forall ts, ts ≠ [] -> (forall t, t ∈ ts -> t.Plain) ->
    s.toList = ts.flatMap Term.plainText ->
    match plainTotal ts with
    | some nanos => exists d, parseDurationFromGolangString f64 s = .ok d ∧ d.asNanos = nanos
    | none => exists e, parseDurationFromGolangString f64 s = .err e

/-!
# The first overflow
-/

/-- A term overflows behind terms that are read. -/
def OverflowReached (f64 : F64) : Nat -> List Term -> Prop
  | _, [] => False
  | d, t :: ts =>
      t.Overflows f64 ∨
        t.Readable f64 ∧ d + t.nanos f64 < 2 ^ 64 ∧ OverflowReached f64 (d + t.nanos f64) ts

theorem totalNanos_cons (f64 : F64) (t : Term) (ts : List Term) :
    totalNanos f64 (t :: ts) = t.nanos f64 + totalNanos f64 ts := by
  simp [totalNanos]

theorem overflowReached_iff (f64 : F64) (ts : List Term) : forall d, d < 2 ^ 64 ->
    (OverflowReached f64 d ts <->
      exists before t after, ts = before ++ t :: after ∧
        (forall b, b ∈ before -> b.Readable f64) ∧ d + totalNanos f64 before < 2 ^ 64 ∧
        t.Overflows f64) := by
  induction ts with
  | nil =>
      intro d _
      constructor
      · exact False.elim
      · rintro ⟨before, t, after, hsplit, _⟩
        exact absurd hsplit.symm (List.append_ne_nil_of_right_ne_nil _ (List.cons_ne_nil _ _))
  | cons first ts ih =>
      intro d hd
      constructor
      · rintro (hfirst | ⟨hreadable, hfits, hlater⟩)
        · refine ⟨[], first, ts, rfl, ?_, hd, hfirst⟩
          intro b hb
          cases hb
        · rcases (ih _ hfits).mp hlater with ⟨before, t, after, rfl, hbefore, hsum, hover⟩
          refine ⟨first :: before, t, after, rfl, ?_, ?_, hover⟩
          · exact List.forall_mem_cons.mpr ⟨hreadable, hbefore⟩
          · rw [totalNanos_cons]
            omega
      · rintro ⟨before, t, after, hsplit, hbefore, hsum, hover⟩
        cases before with
        | nil =>
            injection hsplit with hhead _
            rw [hhead]
            exact Or.inl hover
        | cons b before =>
            rcases List.cons.inj hsplit with ⟨rfl, hrest⟩
            rcases List.forall_mem_cons.mp hbefore with ⟨hreadable, hbefore⟩
            rw [totalNanos_cons] at hsum
            refine Or.inr ⟨hreadable, by omega, ?_⟩
            exact (ih _ (by omega)).mpr ⟨before, t, after, hrest, hbefore, by omega, hover⟩

theorem noneOverflows_iff (f64 : F64) (ts : List Term) :
    NoneOverflows f64 ts <-> ¬ OverflowReached f64 0 ts := by
  rw [overflowReached_iff f64 ts 0 (by decide)]
  constructor
  · rintro h ⟨before, t, after, hsplit, hbefore, hsum, hover⟩
    rw [Nat.zero_add] at hsum
    exact h before t after hsplit hbefore hsum hover
  · intro h before t after hsplit hbefore hsum hover
    rw [← Nat.zero_add (totalNanos f64 before)] at hsum
    exact h ⟨before, t, after, hsplit, hbefore, hsum, hover⟩

/-- The terms behind `d` nanoseconds can be read, and the sum has 64 bits. -/
def AllReadable (f64 : F64) (d : Nat) (ts : List Term) : Prop :=
  (forall t, t ∈ ts -> t.Readable f64) ∧ d + totalNanos f64 ts < 2 ^ 64

theorem allReadable_cons (f64 : F64) (d : Nat) (t : Term) (ts : List Term) :
    AllReadable f64 d (t :: ts) <->
      t.Readable f64 ∧ d + t.nanos f64 < 2 ^ 64 ∧ AllReadable f64 (d + t.nanos f64) ts := by
  unfold AllReadable
  rw [List.forall_mem_cons, totalNanos_cons]
  constructor
  · rintro ⟨⟨hfirst, hrest⟩, hsum⟩
    exact ⟨hfirst, by omega, hrest, by omega⟩
  · rintro ⟨hfirst, _, hrest, hsum⟩
    exact ⟨⟨hfirst, hrest⟩, by omega⟩

/-- The rounds overflow, read all terms, or fail. -/
theorem parseTerms_cases (f64 : F64) (orig : String) (s : List Char) : forall d, d < 2 ^ 64 ->
    OverflowReached f64 d (textTerms s) ∧ parseTerms f64 orig s d = .panic ∨
      ¬ OverflowReached f64 d (textTerms s) ∧ AllReadable f64 d (textTerms s) ∧
          parseTerms f64 orig s d = .ok (d + totalNanos f64 (textTerms s)) ∨
      ¬ OverflowReached f64 d (textTerms s) ∧ ¬ AllReadable f64 d (textTerms s) ∧
          exists e, parseTerms f64 orig s d = .err e := by
  induction s using textTerms.induct with
  | case1 =>
      intro d hd
      rw [textTerms, parseTerms]
      refine Or.inr (Or.inl ⟨id, ⟨?_, hd⟩, rfl⟩)
      intro t ht
      cases ht
  | case2 c rest ih =>
      intro d hd
      rw [textTerms_cons, allReadable_cons, totalNanos_cons]
      rcases parseTerm_cases f64 orig (c :: rest) with hcase | hcase | hcase
      · rcases hcase with ⟨hover, hread⟩
        exact Or.inl ⟨Or.inl hover, parseTerms_panic hread⟩
      · rcases hcase with ⟨hover, hreadable, hread⟩
        rw [parseTerms_ok hread]
        by_cases hfits : d + (firstTerm (c :: rest)).nanos f64 < 2 ^ 64
        · have hreached : OverflowReached f64 d
              (firstTerm (c :: rest) :: textTerms (behindTerm (c :: rest))) <->
                OverflowReached f64 (d + (firstTerm (c :: rest)).nanos f64)
                  (textTerms (behindTerm (c :: rest))) := by
            constructor
            · rintro (h | ⟨_, _, h⟩)
              · exact absurd h hover
              · exact h
            · intro h
              exact Or.inr ⟨hreadable, hfits, h⟩
          rw [if_pos hfits, hreached, and_iff_right hreadable, and_iff_right hfits,
            ← Nat.add_assoc]
          exact ih _ hfits
        · rw [if_neg hfits]
          refine Or.inr (Or.inr ⟨?_, fun h => hfits h.2.1, _, rfl⟩)
          rintro (h | ⟨_, h, _⟩)
          · exact hover h
          · exact hfits h
      · rcases hcase with ⟨hover, hreadable, e, hread⟩
        refine Or.inr (Or.inr ⟨?_, fun h => hreadable h.1, e, parseTerms_err hread⟩)
        rintro (h | ⟨h, _⟩)
        · exact hover h
        · exact hreadable h

/-!
# Whole numbers with units
-/

theorem startsWithDigit_flatMap {ts : List Term} (h : forall t, t ∈ ts -> t.Plain) :
    StartsWithDigit (ts.flatMap Term.plainText) := by
  cases ts with
  | nil => rfl
  | cons t ts =>
      have hplain := h t List.mem_cons_self
      unfold StartsWithDigit Term.plainText
      cases hwhole : t.whole with
      | nil => exact absurd hwhole hplain.whole.1
      | cons c rest =>
          have hc := hplain.whole.2 c (hwhole ▸ List.mem_cons_self)
          simpa [hwhole] using hc

theorem Term.Plain.written {t : Term} (h : t.Plain) : t.Written where
  whole := h.whole
  fraction := h.fraction ▸ allDigits_nil
  unit := h.unit

theorem Term.Plain.text_eq {t : Term} (h : t.Plain) : t.text = t.plainText := by
  unfold Term.text Term.plainText
  rw [h.fraction, pointed, if_pos List.isEmpty_nil, List.nil_append]

theorem textTerms_plain {ts : List Term} (h : forall t, t ∈ ts -> t.Plain) :
    textTerms (ts.flatMap Term.plainText) = ts := by
  induction ts with
  | nil => rw [List.flatMap_nil, textTerms]
  | cons t ts ih =>
      rcases List.forall_mem_cons.mp h with ⟨ht, hts⟩
      rw [List.flatMap_cons, ← ht.text_eq,
        textTerms_text ht.written (startsWithDigit_flatMap hts), ih hts]

theorem plain_kept {t : Term} (h : t.Plain) : digitsValue t.kept = 0 := by
  unfold Term.kept
  rw [h.fraction]
  rfl

theorem nanos_plain (f64 : F64) {t : Term} (h : t.Plain) : t.nanos f64 = t.plainNanos := by
  rcases Option.isSome_iff_exists.mp h.unit with ⟨unit, hunit⟩
  rw [nanos_of_factor hunit, Term.nanosIn, plain_kept h, if_neg (Nat.lt_irrefl 0), Nat.add_zero,
    Term.plainNanos, hunit, Option.getD_some]

theorem readable_plain (f64 : F64) {t : Term} (h : t.Plain) :
    t.Readable f64 <-> t.plainNanos < 2 ^ 64 := by
  rcases Option.isSome_iff_exists.mp h.unit with ⟨unit, hunit⟩
  have hnanos : t.plainNanos = digitsValue t.whole * unit := by
    rw [Term.plainNanos, hunit, Option.getD_some]
  rw [hnanos]
  constructor
  · rintro ⟨_, unit', hunit', hless, _⟩
    rw [hunit] at hunit'
    injection hunit' with heq
    rw [heq]
    exact hless
  · intro hless
    refine ⟨Or.inl h.whole.1, unit, hunit, hless, ?_⟩
    intro hpos
    rw [plain_kept h] at hpos
    exact absurd hpos (Nat.lt_irrefl 0)

theorem totalNanos_plain (f64 : F64) {ts : List Term} (h : forall t, t ∈ ts -> t.Plain) :
    totalNanos f64 ts = (ts.map Term.plainNanos).sum :=
  congrArg List.sum (List.map_congr_left fun t ht => nanos_plain f64 (h t ht))

theorem allReadable_plain (f64 : F64) {ts : List Term} (h : forall t, t ∈ ts -> t.Plain) :
    AllReadable f64 0 ts <->
      (forall t, t ∈ ts -> t.plainNanos < 2 ^ 64) ∧ (ts.map Term.plainNanos).sum < 2 ^ 64 := by
  unfold AllReadable
  rw [Nat.zero_add, totalNanos_plain f64 h]
  constructor
  · rintro ⟨hall, hsum⟩
    exact ⟨fun t ht => (readable_plain f64 (h t ht)).mp (hall t ht), hsum⟩
  · rintro ⟨hall, hsum⟩
    exact ⟨fun t ht => (readable_plain f64 (h t ht)).mpr (hall t ht), hsum⟩

/-!
# Whole texts
-/

theorem not_overflowReached_zero (f64 : F64) : ¬ OverflowReached f64 0 (textTerms ['0']) := by
  have hread : parseTerms f64 "" ['0'] 0 = .err _ :=
    parseTerms_err (e := "missing unit in duration " ++ quote "") rfl
  intro h
  rcases parseTerms_cases f64 "" ['0'] 0 (by decide) with hcase | hcase | hcase
  · rw [hread] at hcase
    cases hcase.2
  · exact hcase.1 h
  · exact hcase.1 h

theorem parseUnsignedDuration_returns_iff (f64 : F64) (orig : String) (s : List Char) :
    (parseUnsignedDuration f64 orig s).Returns <-> ¬ OverflowReached f64 0 (textTerms s) := by
  unfold parseUnsignedDuration
  by_cases hzero : s = ['0']
  · rw [if_pos hzero, hzero]
    exact iff_of_true trivial (not_overflowReached_zero f64)
  · rw [if_neg hzero]
    by_cases hempty : s.isEmpty = true
    · rw [if_pos hempty, List.isEmpty_iff.mp hempty, textTerms]
      exact iff_of_true trivial id
    · rw [if_neg hempty, Exec.returns_map]
      rcases parseTerms_cases f64 orig s 0 (by decide) with hcase | hcase | hcase
      · rcases hcase with ⟨hover, hread⟩
        rw [hread]
        exact iff_of_false id (not_not_intro hover)
      · rcases hcase with ⟨hover, _, hread⟩
        rw [hread]
        exact iff_of_true trivial hover
      · rcases hcase with ⟨hover, _, e, hread⟩
        rw [hread]
        exact iff_of_true trivial hover

/-- A text is refused behind a minus, and read behind a plus or from its start. -/
theorem sign_cases (f64 : F64) (s : String) :
    (exists rest, s.toList = '-' :: rest ∧ durationTerms s = [] ∧
        parseDurationFromGolangString f64 s =
          .err ("invalid negative duration " ++ quote s)) ∨
      (exists rest, s.toList = '+' :: rest ∧ durationTerms s = textTerms rest ∧
        parseDurationFromGolangString f64 s = parseUnsignedDuration f64 s rest) ∨
      (durationTerms s = textTerms s.toList ∧
        parseDurationFromGolangString f64 s = parseUnsignedDuration f64 s s.toList) := by
  unfold parseDurationFromGolangString durationTerms
  generalize s.toList = chars
  cases chars with
  | nil => exact Or.inr (Or.inr ⟨rfl, rfl⟩)
  | cons c rest =>
      by_cases hminus : c = '-'
      · rw [hminus]
        exact Or.inl ⟨rest, rfl, rfl, rfl⟩
      · by_cases hplus : c = '+'
        · rw [hplus]
          exact Or.inr (Or.inl ⟨rest, rfl, rfl, rfl⟩)
        · apply Or.inr
          apply Or.inr
          constructor
          · split
            · next heq => exact absurd (List.cons.inj heq).1 hminus
            · next heq => exact absurd (List.cons.inj heq).1 hplus
            · rfl
          · split
            · next heq => exact absurd (List.cons.inj heq).1 hminus
            · next heq => exact absurd (List.cons.inj heq).1 hplus
            · rfl

theorem parse_returns_iff (f64 : F64) (s : String) :
    (parseDurationFromGolangString f64 s).Returns <-> NoneOverflows f64 (durationTerms s) := by
  rw [noneOverflows_iff]
  rcases sign_cases f64 s with ⟨rest, _, hterms, hparse⟩ | ⟨rest, _, hterms, hparse⟩ |
    ⟨hterms, hparse⟩
  · rw [hterms, hparse]
    exact iff_of_true trivial id
  · rw [hterms, hparse]
    exact parseUnsignedDuration_returns_iff f64 s rest
  · rw [hterms, hparse]
    exact parseUnsignedDuration_returns_iff f64 s s.toList

/-- A digit is no sign. -/
theorem unsigned_of_digit (f64 : F64) {s : String} (h : StartsWithDigit s.toList) :
    parseDurationFromGolangString f64 s = parseUnsignedDuration f64 s s.toList ∧
      durationTerms s = textTerms s.toList := by
  rcases sign_cases f64 s with ⟨rest, hsign, _, _⟩ | ⟨rest, hsign, _, _⟩ | ⟨hterms, hparse⟩
  · rw [hsign] at h
    exact absurd (show ('-' : Char).isDigit = true from h) (by decide)
  · rw [hsign] at h
    exact absurd (show ('+' : Char).isDigit = true from h) (by decide)
  · exact ⟨hparse, hterms⟩

/-- The text of whole numbers has neither a sign nor is it a lone zero. -/
theorem parse_plain (f64 : F64) {s : String} {ts : List Term} (hne : ts ≠ [])
    (hplain : forall t, t ∈ ts -> t.Plain) (htext : s.toList = ts.flatMap Term.plainText) :
    parseDurationFromGolangString f64 s =
      (parseTerms f64 s (ts.flatMap Term.plainText) 0).map
        fun d => Duration.fromNanos (UInt64.ofNat d) := by
  have hstarts := startsWithDigit_flatMap hplain
  have hlength : 2 ≤ (ts.flatMap Term.plainText).length := by
    cases ts with
    | nil => exact absurd rfl hne
    | cons t ts =>
        have ht := hplain t List.mem_cons_self
        have hwhole := List.length_pos_iff.mpr ht.whole.1
        have hunit := List.length_pos_iff.mpr (startsNumber_of_mem_unit ht.unit).1
        rw [List.flatMap_cons, List.length_append, Term.plainText, List.length_append]
        omega
  have hzero : ts.flatMap Term.plainText ≠ ['0'] := by
    intro h
    rw [h] at hlength
    exact absurd hlength (by decide)
  have hempty : ¬ (ts.flatMap Term.plainText).isEmpty = true := by
    intro h
    rw [List.isEmpty_iff.mp h] at hlength
    exact absurd hlength (by decide)
  rw [(unsigned_of_digit f64 (htext ▸ hstarts)).1, htext]
  unfold parseUnsignedDuration
  rw [if_neg hzero, if_neg hempty]

theorem asNanos_fromNanos {n : Nat} (h : n < 2 ^ 64) :
    (Duration.fromNanos (UInt64.ofNat n)).asNanos = n :=
  UInt64.toNat_ofNat_of_lt h

/-- Whole numbers are read as their sum or refused, if there is no overflow on the way. -/
theorem parse_plainTotal (f64 : F64) {s : String} {ts : List Term}
    (hnone : NoneOverflows f64 (durationTerms s)) (hne : ts ≠ [])
    (hplain : forall t, t ∈ ts -> t.Plain) (htext : s.toList = ts.flatMap Term.plainText) :
    match plainTotal ts with
    | some nanos => exists d, parseDurationFromGolangString f64 s = .ok d ∧ d.asNanos = nanos
    | none => exists e, parseDurationFromGolangString f64 s = .err e := by
  have hreturns := (parse_returns_iff f64 s).mpr hnone
  have hall := allReadable_plain f64 hplain
  have hterms := textTerms_plain hplain
  have htotal := totalNanos_plain f64 hplain
  rw [parse_plain f64 hne hplain htext] at hreturns ⊢
  rcases parseTerms_cases f64 s (ts.flatMap Term.plainText) 0 (by decide) with hcase | hcase | hcase
  · rw [hcase.2] at hreturns
    exact absurd hreturns id
  · rcases hcase with ⟨_, hreadable, hread⟩
    rw [hterms, hall] at hreadable
    rw [hterms, htotal, Nat.zero_add] at hread
    rw [plainTotal, if_pos hreadable, hread]
    exact ⟨_, rfl, asNanos_fromNanos hreadable.2⟩
  · rcases hcase with ⟨_, hreadable, e, hread⟩
    rw [hterms, hall] at hreadable
    rw [plainTotal, if_neg hreadable, hread]
    exact ⟨e, rfl⟩

theorem ReadsWithinLimits.noneOverflows {f64 : F64} {s : String} (h : ReadsWithinLimits f64 s) :
    NoneOverflows f64 (durationTerms s) :=
  (parse_returns_iff f64 s).mp h.returns

theorem reads_within_limits_iff (f64 : F64) (s : String) :
    ReadsWithinLimits f64 s <-> NoneOverflows f64 (durationTerms s) := by
  constructor
  · exact ReadsWithinLimits.noneOverflows
  · intro h
    constructor
    · exact (parse_returns_iff f64 s).mpr h
    · intro ts hne hplain htext
      exact parse_plainTotal f64 h hne hplain htext

/-- One nanosecond more than 64 bits have. -/
def tooManyNanos : Term :=
  ⟨"18446744073709551616".toList, [], ['n', 's']⟩

/-- It is not refused. -/
theorem not_reads_within_limits : ¬ forall f64 s, ReadsWithinLimits f64 s := by
  intro h
  have hnone := (h F64.exact "18446744073709551616ns").noneOverflows
  have hplain : forall t, t ∈ [tooManyNanos] -> t.Plain := by
    intro t ht
    rw [List.mem_singleton.mp ht]
    have hdigits : tooManyNanos.whole.all Char.isDigit = true := rfl
    exact ⟨⟨List.cons_ne_nil _ _, List.all_eq_true.mp hdigits⟩, rfl, rfl⟩
  have hdigit : StartsWithDigit "18446744073709551616ns".toList := rfl
  have htext : "18446744073709551616ns".toList = [tooManyNanos].flatMap Term.plainText := by
    decide +kernel
  have hterms : durationTerms "18446744073709551616ns" = [tooManyNanos] := by
    rw [(unsigned_of_digit F64.exact hdigit).2, htext, textTerms_plain hplain]
  have hspills : Spills 0 tooManyNanos.whole :=
    ⟨tooManyNanos.whole, List.prefix_rfl, by decide, by decide⟩
  have hover := hnone [] tooManyNanos [] hterms (fun b hb => absurd hb List.not_mem_nil) (by decide)
  exact hover (Or.inl hspills)

end Helpers
end CouchbaseSdk
