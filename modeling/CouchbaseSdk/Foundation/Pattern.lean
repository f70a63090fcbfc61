import Mathlib.Data.List.Basic

/-!
# Patterns

A pattern is a regular expression with groups.  There may be many ways to go through a text: a
repetition takes as much as it can first, and of two alternatives the left one comes first.  The
first way that goes through is the match.
-/

namespace CouchbaseSdk
namespace Foundation

inductive Pattern where
  | one (p : Char -> Bool)
  | many (p : Char -> Bool)
  | literal (word : List Char)
  | seq (a b : Pattern)
  | alt (a b : Pattern)
  | opt (a : Pattern)
  | group (n : Nat) (a : Pattern)

/-- The texts of the groups, and what is left. -/
structure Match where
  groups : List (Nat × List Char)
  rest : List Char

def Match.group (m : Match) (n : Nat) : Option (List Char) :=
  m.groups.lookup n

/-- A match behind another one. -/
def Match.append (m m' : Match) : Match :=
  { groups := m.groups ++ m'.groups, rest := m'.rest }

theorem Match.group_append (m m' : Match) (n : Nat) :
    (m.append m').group n = (m.group n).or (m'.group n) :=
  List.lookup_append

namespace Pattern

variable {p : Char -> Bool} {a b : Pattern} {text : List Char} {m : Match}

/-- What is left by a repetition, after the longest one first. -/
def rests (p : Char -> Bool) : List Char -> List (List Char)
  | [] => [[]]
  | c :: text => if p c then rests p text ++ [c :: text] else [c :: text]

def ways : Pattern -> List Char -> List Match
  | one p, text =>
      match text with
      | c :: rest => if p c then [{ groups := [], rest := rest }] else []
      | [] => []
  | many p, text => (rests p text).map fun rest => { groups := [], rest := rest }
  | literal word, text =>
      if word <+: text then [{ groups := [], rest := text.drop word.length }] else []
  | seq a b, text => (ways a text).flatMap fun m => (ways b m.rest).map m.append
  | alt a b, text => ways a text ++ ways b text
  | opt a, text => ways a text ++ [{ groups := [], rest := text }]
  | group n a, text =>
      (ways a text).map fun m =>
        { groups := (n, text.take (text.length - m.rest.length)) :: m.groups, rest := m.rest }

/-- The match at the start of a text. -/
def first (a : Pattern) (text : List Char) : Option Match :=
  (ways a text).head?

/-- The match that starts first. -/
def find (a : Pattern) : List Char -> Option Match
  | [] => first a []
  | c :: text => (first a (c :: text)).or (find a text)

/-- As many matches as that, one after the other. -/
def findUpTo (a : Pattern) : Nat -> List Char -> List Match
  | 0, _ => []
  | n + 1, text =>
      match find a text with
      | none => []
      | some m => m :: findUpTo a n m.rest

/-- All matches of a pattern that takes a character at least. -/
def findAll (a : Pattern) (text : List Char) : List Match :=
  findUpTo a text.length text

/-!
# One pattern after the other
-/

theorem mem_of_first (h : first a text = some m) : m ∈ ways a text :=
  List.mem_of_mem_head? h

theorem first_isSome : (first a text).isSome = true <-> exists m, m ∈ ways a text := by
  unfold first
  rw [List.isSome_head?]
  constructor
  · exact List.exists_mem_of_ne_nil _
  · intro ⟨m, hm⟩
    exact List.ne_nil_of_mem hm

theorem first_literal (word text : List Char) :
    first (literal word) text =
      if word <+: text then some { groups := [], rest := text.drop word.length } else none := by
  unfold first ways
  split <;> rfl

theorem first_seq (a b : Pattern) (text : List Char) :
    first (seq a b) text =
      (ways a text).findSome? fun m => (first b m.rest).map m.append := by
  unfold first
  rw [ways, List.head?_flatMap]
  simp only [List.head?_map]

theorem first_alt (a b : Pattern) (text : List Char) :
    first (alt a b) text = (first a text).or (first b text) := by
  unfold first
  rw [ways, List.head?_append]

theorem first_opt (a : Pattern) (text : List Char) :
    first (opt a) text = some ((first a text).getD { groups := [], rest := text }) := by
  unfold first
  rw [ways, List.head?_append]
  cases (ways a text).head? <;> rfl

theorem first_group (n : Nat) (a : Pattern) (text : List Char) :
    first (group n a) text = (first a text).map fun m =>
      { groups := (n, text.take (text.length - m.rest.length)) :: m.groups, rest := m.rest } := by
  unfold first
  rw [ways, List.head?_map]

/-- What follows always goes through, so the first way of the first pattern is taken. -/
theorem first_seq_of_total (hb : forall t, (first b t).isSome = true) :
    first (seq a b) text = (first a text).bind fun m => (first b m.rest).map m.append := by
  rw [first_seq, first]
  cases ways a text with
  | nil => rfl
  | cons m more =>
      rcases Option.isSome_iff_exists.mp (hb m.rest) with ⟨m', hm'⟩
      rw [List.findSome?_cons, hm']
      simp [hm']

theorem total_seq (ha : forall t, (first a t).isSome = true)
    (hb : forall t, (first b t).isSome = true) (text : List Char) :
    (first (seq a b) text).isSome = true := by
  rcases Option.isSome_iff_exists.mp (ha text) with ⟨m, hm⟩
  rw [first_seq_of_total hb, hm, Option.bind_some, Option.isSome_map]
  exact hb m.rest

theorem total_opt (a : Pattern) (text : List Char) : (first (opt a) text).isSome = true := by
  rw [first_opt]
  rfl

/-- There is one way on, without groups. -/
theorem first_seq_of_ways {rest : List Char}
    (h : ways a text = [{ groups := [], rest := rest }]) :
    first (seq a b) text = first b rest := by
  rw [first_seq, h, List.findSome?_singleton]
  exact Option.map_id' ▸ rfl

theorem first_seq_of_no_ways (h : ways a text = []) : first (seq a b) text = none := by
  rw [first_seq, h]
  rfl

theorem find_of_total (h : forall t, (first a t).isSome = true) : find a text = first a text := by
  cases text with
  | nil => rfl
  | cons c text =>
      rw [find, Option.or_of_isSome (h _)]

section All

variable (htakes : forall text m, first a text = some m -> m.rest.length < text.length)
include htakes

theorem length_of_find (h : find a text = some m) : m.rest.length < text.length := by
  induction text with
  | nil => exact htakes [] m h
  | cons c text ih =>
      rw [find, Option.or_eq_some_iff] at h
      rcases h with h | ⟨_, h⟩
      · exact htakes _ m h
      · exact Nat.lt_succ_of_lt (ih h)

theorem findUpTo_of_le {n : Nat} (h : text.length ≤ n) : findUpTo a n text = findAll a text := by
  unfold findAll
  induction n using Nat.strongRecOn generalizing text with
  | ind n ih =>
      cases n with
      | zero => rw [Nat.le_zero.mp h]
      | succ n =>
          cases hlength : text.length with
          | zero =>
              cases hfind : find a text with
              | none => rw [findUpTo, findUpTo, hfind]
              | some m =>
                  have hlt := length_of_find htakes hfind
                  rw [hlength] at hlt
                  cases hlt
          | succ k =>
              rw [findUpTo, findUpTo]
              cases hfind : find a text with
              | none => rfl
              | some m =>
                  have hlt := length_of_find htakes hfind
                  rw [hlength] at hlt h
                  have hk : m.rest.length ≤ k := Nat.le_of_lt_succ hlt
                  have hn : k ≤ n := Nat.le_of_succ_le_succ h
                  dsimp only
                  rw [ih n (Nat.lt_succ_self n) (Nat.le_trans hk hn),
                    ih k (Nat.lt_succ_of_le hn) hk]

theorem findAll_of_first (h : first a text = some m) :
    findAll a text = m :: findAll a m.rest := by
  have hlt := htakes text m h
  have hfind : find a text = some m := by
    cases text with
    | nil => exact h
    | cons c text =>
        rw [find, h]
        rfl
  cases hlength : text.length with
  | zero =>
      rw [hlength] at hlt
      cases hlt
  | succ n =>
      rw [hlength] at hlt
      rw [findAll, hlength, findUpTo, hfind]
      dsimp only
      rw [findUpTo_of_le htakes (Nat.le_of_lt_succ hlt)]

theorem findAll_cons {c : Char} (h : first a (c :: text) = none) :
    findAll a (c :: text) = findAll a text := by
  have hfind : find a (c :: text) = find a text := by
    rw [find, h]
    rfl
  rw [← findUpTo_of_le htakes (Nat.le_succ text.length), findAll, List.length_cons, findUpTo,
    findUpTo, hfind]

end All

/-!
# Repetitions
-/

theorem mem_rests {rest : List Char} :
    rest ∈ rests p text <-> exists run, text = run ++ rest ∧ run.all p = true := by
  induction text with
  | nil =>
      rw [rests, List.mem_singleton]
      constructor
      · intro h
        exact ⟨[], by rw [h]; rfl, rfl⟩
      · intro ⟨run, htext, _⟩
        exact (List.append_eq_nil_iff.mp htext.symm).2
  | cons c text ih =>
      constructor
      · intro h
        unfold rests at h
        split at h
        · next hp =>
            rcases List.mem_append.mp h with h | h
            · rcases ih.mp h with ⟨run, htext, hrun⟩
              refine ⟨c :: run, ?_, ?_⟩
              · rw [htext]
                rfl
              · rw [List.all_cons, hp, hrun]
                rfl
            · exact ⟨[], (List.mem_singleton.mp h).symm, rfl⟩
        · exact ⟨[], (List.mem_singleton.mp h).symm, rfl⟩
      · intro ⟨run, htext, hrun⟩
        unfold rests
        cases run with
        | nil =>
            rw [← show c :: text = rest from htext]
            split
            · exact List.mem_append_right _ List.mem_cons_self
            · exact List.mem_cons_self
        | cons d run =>
            rcases List.cons.inj htext with ⟨rfl, htail⟩
            rw [List.all_cons, Bool.and_eq_true] at hrun
            rw [if_pos hrun.1]
            exact List.mem_append_left _ (ih.mpr ⟨run, htail, hrun.2⟩)

theorem head?_rests (p : Char -> Bool) (text : List Char) :
    (rests p text).head? = some (text.dropWhile p) := by
  induction text with
  | nil => rfl
  | cons c text ih =>
      rw [rests, List.dropWhile_cons]
      split
      · rw [List.head?_append, ih]
        rfl
      · rfl

theorem first_many (p : Char -> Bool) (text : List Char) :
    first (many p) text = some { groups := [], rest := text.dropWhile p } := by
  rw [first, ways, List.head?_map, head?_rests]
  rfl

theorem taken (run rest : List Char) :
    (run ++ rest).take ((run ++ rest).length - rest.length) = run := by
  rw [List.length_append, Nat.add_sub_cancel, List.take_left]

/-- The group of a repetition that takes all it can. -/
theorem first_group_many (n : Nat) (p : Char -> Bool) (text : List Char) :
    first (group n (many p)) text =
      some { groups := [(n, text.takeWhile p)], rest := text.dropWhile p } := by
  have htaken := taken (text.takeWhile p) (text.dropWhile p)
  rw [List.takeWhile_append_dropWhile] at htaken
  rw [first_group, first_many, Option.map_some, htaken]

section Choice

variable {beta : Type} {f : List Char -> Option beta} {y : beta}

theorem findSome?_rests_eq_none :
    (rests p text).findSome? f = none <->
      forall run rest, text = run ++ rest -> run.all p = true -> f rest = none := by
  rw [List.findSome?_eq_none_iff]
  constructor
  · intro h run rest htext hrun
    exact h rest (mem_rests.mpr ⟨run, htext, hrun⟩)
  · intro h rest hrest
    rcases mem_rests.mp hrest with ⟨run, htext, hrun⟩
    exact h run rest htext hrun

/-- The longest repetition is taken with which it goes on. -/
theorem findSome?_rests_eq_some :
    (rests p text).findSome? f = some y <->
      exists run rest, text = run ++ rest ∧ run.all p = true ∧ f rest = some y ∧
        forall run' rest', text = run' ++ rest' -> run'.all p = true ->
          run.length < run'.length -> f rest' = none := by
  induction text with
  | nil =>
      rw [rests, List.findSome?_singleton]
      constructor
      · intro h
        refine ⟨[], [], rfl, rfl, h, ?_⟩
        intro run' rest' htext _ hlength
        rw [(List.append_eq_nil_iff.mp htext.symm).1] at hlength
        exact absurd hlength (Nat.lt_irrefl _)
      · intro ⟨run, rest, htext, _, h, _⟩
        rwa [(List.append_eq_nil_iff.mp htext.symm).2] at h
  | cons c text ih =>
      cases hp : p c with
      | false =>
          have hempty : forall run rest, c :: text = run ++ rest -> run.all p = true ->
              run = [] := by
            intro run rest htext hrun
            cases run with
            | nil => rfl
            | cons d run =>
                rcases List.cons.inj htext with ⟨rfl, _⟩
                rw [List.all_cons, hp] at hrun
                cases hrun
          rw [rests, hp, if_neg Bool.false_ne_true, List.findSome?_singleton]
          constructor
          · intro h
            refine ⟨[], c :: text, rfl, rfl, h, ?_⟩
            intro run' rest' htext hrun hlength
            rw [hempty run' rest' htext hrun] at hlength
            exact absurd hlength (Nat.lt_irrefl _)
          · intro ⟨run, rest, htext, hrun, h, _⟩
            rw [hempty run rest htext hrun] at htext
            rwa [← show c :: text = rest from htext] at h
      | true =>
          rw [rests, hp, if_pos rfl, List.findSome?_append, List.findSome?_singleton]
          constructor
          · intro h
            cases hlonger : (rests p text).findSome? f with
            | some y' =>
                rw [hlonger, Option.some_or] at h
                cases h
                rcases ih.mp hlonger with ⟨run, rest, htext, hrun, hy, hnone⟩
                refine ⟨c :: run, rest, ?_, ?_, hy, ?_⟩
                · rw [htext]
                  rfl
                · rw [List.all_cons, hp, hrun]
                  rfl
                · intro run' rest' htext' hrun' hlength
                  cases run' with
                  | nil => cases hlength
                  | cons d run' =>
                      rw [List.all_cons, Bool.and_eq_true] at hrun'
                      exact hnone run' rest' (List.cons.inj htext').2 hrun'.2
                        (Nat.lt_of_succ_lt_succ hlength)
            | none =>
                rw [hlonger, Option.none_or] at h
                refine ⟨[], c :: text, rfl, rfl, h, ?_⟩
                intro run' rest' htext hrun hlength
                cases run' with
                | nil => cases hlength
                | cons d run' =>
                    rw [List.all_cons, Bool.and_eq_true] at hrun
                    exact findSome?_rests_eq_none.mp hlonger run' rest' (List.cons.inj htext).2
                      hrun.2
          · intro ⟨run, rest, htext, hrun, hy, hnone⟩
            cases run with
            | nil =>
                have hlonger : (rests p text).findSome? f = none := by
                  rw [findSome?_rests_eq_none]
                  intro run' rest' htext' hrun'
                  refine hnone (c :: run') rest' ?_ ?_ (Nat.succ_pos _)
                  · rw [htext']
                    rfl
                  · rw [List.all_cons, hp, hrun']
                    rfl
                rw [hlonger, Option.none_or]
                rwa [← show c :: text = rest from htext] at hy
            | cons d run =>
                rw [List.all_cons, Bool.and_eq_true] at hrun
                have hlonger : (rests p text).findSome? f = some y := by
                  refine ih.mpr ⟨run, rest, (List.cons.inj htext).2, hrun.2, hy, ?_⟩
                  intro run' rest' htext' hrun' hlength
                  refine hnone (c :: run') rest' ?_ ?_ (Nat.succ_lt_succ hlength)
                  · rw [htext']
                    rfl
                  · rw [List.all_cons, hp, hrun']
                    rfl
                rw [hlonger, Option.some_or]

end Choice

/-- A repetition before something that starts differently is taken whole. -/
theorem first_many_seq (h : forall c t, p c = true -> first b (c :: t) = none) :
    first (seq (many p) b) text = first b (text.dropWhile p) := by
  have happend : forall t, ((first b t).map fun m => Match.append { groups := [], rest := t } m) =
      first b t := fun t => Option.map_id' ▸ rfl
  rw [first_seq, ways, List.findSome?_map]
  show (rests p text).findSome? (fun rest => (first b rest).map _) = _
  simp only [happend]
  induction text with
  | nil => rw [rests, List.findSome?_singleton, List.dropWhile_nil]
  | cons c text ih =>
      rw [rests, List.dropWhile_cons]
      split
      · next hp =>
          rw [List.findSome?_append, ih, List.findSome?_singleton, h c text hp, Option.or_none]
      · rw [List.findSome?_singleton]

/-- A group of a repetition is the longest one with which it goes on. -/
theorem first_group_many_seq {n : Nat} :
    first (seq (group n (many p)) b) text = some m <->
      exists run rest m', text = run ++ rest ∧ run.all p = true ∧ first b rest = some m' ∧
        m = { groups := (n, run) :: m'.groups, rest := m'.rest } ∧
        forall run' rest', text = run' ++ rest' -> run'.all p = true ->
          run.length < run'.length -> first b rest' = none := by
  have hways : first (seq (group n (many p)) b) text =
      (rests p text).findSome? fun rest => (first b rest).map fun m' =>
        { groups := (n, text.take (text.length - rest.length)) :: m'.groups
          rest := m'.rest } := by
    rw [first_seq, ways, ways, List.map_map, List.findSome?_map]
    rfl
  rw [hways, findSome?_rests_eq_some]
  constructor
  · intro ⟨run, rest, htext, hrun, hm, hlonger⟩
    rcases Option.map_eq_some_iff.mp hm with ⟨m', hm', rfl⟩
    refine ⟨run, rest, m', htext, hrun, hm', ?_, ?_⟩
    · rw [htext, taken]
    · intro run' rest' htext' hrun' hlength
      exact Option.map_eq_none_iff.mp (hlonger run' rest' htext' hrun' hlength)
  · intro ⟨run, rest, m', htext, hrun, hm', hm, hlonger⟩
    refine ⟨run, rest, htext, hrun, ?_, ?_⟩
    · rw [hm', hm, htext, taken]
      rfl
    · intro run' rest' htext' hrun' hlength
      rw [hlonger run' rest' htext' hrun' hlength]
      rfl

theorem first_group_many_seq_eq_none {n : Nat} :
    first (seq (group n (many p)) b) text = none <->
      forall run rest, text = run ++ rest -> run.all p = true -> first b rest = none := by
  rw [first_seq, ways, ways, List.map_map, List.findSome?_map, findSome?_rests_eq_none]
  constructor
  · intro h run rest htext hrun
    exact Option.map_eq_none_iff.mp (h run rest htext hrun)
  · intro h run rest htext hrun
    exact Option.map_eq_none_iff.mpr (h run rest htext hrun)

/-!
# What is taken
-/

/-- The texts of a pattern. -/
def Accepts : Pattern -> List Char -> Prop
  | one p, text => exists c, text = [c] ∧ p c = true
  | many p, text => text.all p = true
  | literal word, text => text = word
  | seq a b, text => exists front back, text = front ++ back ∧ Accepts a front ∧ Accepts b back
  | alt a b, text => Accepts a text ∨ Accepts b text
  | opt a, text => Accepts a text ∨ text = []
  | group _ a, text => Accepts a text

/-- There is a way exactly for each text of the pattern that stands in front. -/
theorem exists_way {rest : List Char} :
    (exists m, m ∈ ways a text ∧ m.rest = rest) <->
      exists run, text = run ++ rest ∧ a.Accepts run := by
  induction a generalizing text rest with
  | one p =>
      cases text with
      | nil =>
          constructor
          · intro ⟨m, hm, _⟩
            cases hm
          · intro ⟨run, htext, c, hrun, _⟩
            rw [hrun] at htext
            cases htext
      | cons c text =>
          constructor
          · intro ⟨m, hm, hrest⟩
            rw [ways] at hm
            split at hm
            · next hp =>
                rw [List.mem_singleton.mp hm] at hrest
                exact ⟨[c], by rw [← hrest]; rfl, c, rfl, hp⟩
            · cases hm
          · intro ⟨run, htext, d, hrun, hp⟩
            rw [hrun] at htext
            rcases List.cons.inj htext with ⟨rfl, hrest⟩
            refine ⟨{ groups := [], rest := text }, ?_, hrest⟩
            rw [ways, if_pos hp]
            exact List.mem_cons_self
  | many p =>
      constructor
      · intro ⟨m, hm, hrest⟩
        rcases List.mem_map.mp hm with ⟨r, hr, rfl⟩
        rw [← hrest]
        exact mem_rests.mp hr
      · intro h
        exact ⟨_, List.mem_map.mpr ⟨rest, mem_rests.mpr h, rfl⟩, rfl⟩
  | literal word =>
      constructor
      · intro ⟨m, hm, hrest⟩
        rw [ways] at hm
        split at hm
        · next hword =>
            rw [List.mem_singleton.mp hm] at hrest
            rcases hword with ⟨back, rfl⟩
            refine ⟨word, ?_, rfl⟩
            rw [← hrest, List.drop_left]
        · cases hm
      · intro ⟨run, htext, hrun⟩
        have hrun' : run = word := hrun
        rw [hrun'] at htext
        refine ⟨{ groups := [], rest := rest }, ?_, rfl⟩
        rw [ways, htext, if_pos (List.prefix_append word rest), List.drop_left]
        exact List.mem_cons_self
  | seq a b iha ihb =>
      constructor
      · intro ⟨m, hm, hrest⟩
        rcases List.mem_flatMap.mp hm with ⟨ma, hma, hway⟩
        rcases List.mem_map.mp hway with ⟨mb, hmb, rfl⟩
        rcases iha.mp ⟨ma, hma, rfl⟩ with ⟨front, hfront, ha⟩
        rcases ihb.mp ⟨mb, hmb, hrest⟩ with ⟨back, hback, hb⟩
        exact ⟨front ++ back, by rw [hfront, hback, List.append_assoc], front, back, rfl, ha, hb⟩
      · intro ⟨run, htext, front, back, hrun, ha, hb⟩
        rw [hrun, List.append_assoc] at htext
        rcases iha.mpr ⟨front, htext, ha⟩ with ⟨ma, hma, hresta⟩
        rcases ihb.mpr ⟨back, hresta, hb⟩ with ⟨mb, hmb, hrestb⟩
        exact ⟨ma.append mb,
          List.mem_flatMap.mpr ⟨ma, hma, List.mem_map.mpr ⟨mb, hmb, rfl⟩⟩, hrestb⟩
  | alt a b iha ihb =>
      constructor
      · intro ⟨m, hm, hrest⟩
        rcases List.mem_append.mp hm with hm | hm
        · rcases iha.mp ⟨m, hm, hrest⟩ with ⟨run, htext, hrun⟩
          exact ⟨run, htext, Or.inl hrun⟩
        · rcases ihb.mp ⟨m, hm, hrest⟩ with ⟨run, htext, hrun⟩
          exact ⟨run, htext, Or.inr hrun⟩
      · intro ⟨run, htext, hrun⟩
        rcases hrun with hrun | hrun
        · rcases iha.mpr ⟨run, htext, hrun⟩ with ⟨m, hm, hrest⟩
          exact ⟨m, List.mem_append_left _ hm, hrest⟩
        · rcases ihb.mpr ⟨run, htext, hrun⟩ with ⟨m, hm, hrest⟩
          exact ⟨m, List.mem_append_right _ hm, hrest⟩
  | opt a ih =>
      constructor
      · intro ⟨m, hm, hrest⟩
        rcases List.mem_append.mp hm with hm | hm
        · rcases ih.mp ⟨m, hm, hrest⟩ with ⟨run, htext, hrun⟩
          exact ⟨run, htext, Or.inl hrun⟩
        · rw [List.mem_singleton.mp hm] at hrest
          exact ⟨[], hrest, Or.inr rfl⟩
      · intro ⟨run, htext, hrun⟩
        rcases hrun with hrun | hrun
        · rcases ih.mpr ⟨run, htext, hrun⟩ with ⟨m, hm, hrest⟩
          exact ⟨m, List.mem_append_left _ hm, hrest⟩
        · rw [hrun] at htext
          exact ⟨_, List.mem_append_right _ List.mem_cons_self, htext⟩
  | group n a ih =>
      constructor
      · intro ⟨m, hm, hrest⟩
        rcases List.mem_map.mp hm with ⟨m', hm', rfl⟩
        exact ih.mp ⟨m', hm', hrest⟩
      · intro h
        rcases ih.mpr h with ⟨m, hm, hrest⟩
        exact ⟨_, List.mem_map.mpr ⟨m, hm, rfl⟩, hrest⟩

theorem first_isSome_iff :
    (first a text).isSome = true <-> exists run rest, text = run ++ rest ∧ a.Accepts run := by
  rw [first_isSome]
  constructor
  · intro ⟨m, hm⟩
    rcases exists_way.mp ⟨m, hm, rfl⟩ with ⟨run, htext, hrun⟩
    exact ⟨run, m.rest, htext, hrun⟩
  · intro ⟨run, rest, htext, hrun⟩
    rcases exists_way.mpr ⟨run, htext, hrun⟩ with ⟨m, hm, _⟩
    exact ⟨m, hm⟩

theorem accepts_of_first (h : first a text = some m) :
    exists run, text = run ++ m.rest ∧ a.Accepts run :=
  exists_way.mp ⟨m, mem_of_first h, rfl⟩

/-!
# Groups
-/

def numbers : Pattern -> List Nat
  | one _ => []
  | many _ => []
  | literal _ => []
  | seq a b => numbers a ++ numbers b
  | alt a b => numbers a ++ numbers b
  | opt a => numbers a
  | group n a => n :: numbers a

/-- A pattern gives no group that it does not have. -/
theorem group_of_notMem {n : Nat} (hn : n ∉ a.numbers) (hm : m ∈ ways a text) :
    m.group n = none := by
  induction a generalizing text m with
  | one p =>
      cases text with
      | nil => cases hm
      | cons c text =>
          rw [ways] at hm
          split at hm
          · rw [List.mem_singleton.mp hm]
            rfl
          · cases hm
  | many p =>
      rcases List.mem_map.mp hm with ⟨rest, _, rfl⟩
      rfl
  | literal word =>
      rw [ways] at hm
      split at hm
      · rw [List.mem_singleton.mp hm]
        rfl
      · cases hm
  | seq a b iha ihb =>
      rw [numbers, List.mem_append, not_or] at hn
      rcases List.mem_flatMap.mp hm with ⟨ma, hma, hway⟩
      rcases List.mem_map.mp hway with ⟨mb, hmb, rfl⟩
      rw [Match.group_append, iha hn.1 hma, ihb hn.2 hmb]
      rfl
  | alt a b iha ihb =>
      rw [numbers, List.mem_append, not_or] at hn
      rcases List.mem_append.mp hm with hm | hm
      · exact iha hn.1 hm
      · exact ihb hn.2 hm
  | opt a ih =>
      rcases List.mem_append.mp hm with hm | hm
      · exact ih hn hm
      · rw [List.mem_singleton.mp hm]
        rfl
  | group k a ih =>
      rw [numbers, List.mem_cons, not_or] at hn
      rcases List.mem_map.mp hm with ⟨m', hm', rfl⟩
      have hrest : m'.group n = none := ih hn.2 hm'
      show List.lookup n ((k, _) :: m'.groups) = none
      rw [List.lookup_cons, beq_eq_false_iff_ne.mpr hn.1]
      exact hrest

end Pattern
end Foundation
end CouchbaseSdk
