import CouchbaseSdk.Foundation.FiniteMap

/-!
# Iterating over maps

A hash map is gone through in an order of its own.  What is found in it does not depend on the
order, and neither does what is found in a map of maps that is filled entry by entry.
-/

namespace CouchbaseSdk
namespace Foundation

/-- An order for the entries of every map. -/
structure MapOrder where
  pairs : {key value : Type} -> FiniteMap key value -> List (key × value)
  perm : forall {key value : Type} (m : FiniteMap key value), (pairs m).Perm m.pairs

/-- The order in which the entries are kept. -/
def MapOrder.kept : MapOrder :=
  { pairs := FiniteMap.pairs, perm := fun _ => List.Perm.refl _ }

namespace FiniteMap

variable {key value : Type} [DecidableEq key]

/-- Maps are the same if the same is found in them. -/
def Same (m m' : FiniteMap key value) : Prop := forall k, m.lookup k = m'.lookup k

theorem lookup_iff_mem {l : List (key × value)} (h : (l.map Prod.fst).Nodup) {k : key}
    {v : value} : l.lookup k = some v ↔ (k, v) ∈ l := by
  constructor
  · intro hlookup
    rcases List.lookup_eq_some_iff.mp hlookup with ⟨front, back, rfl, _⟩
    exact List.mem_append_right front List.mem_cons_self
  · exact lookup_of_mem h

theorem mem_pairs {m : FiniteMap key value} {k : key} {v : value} :
    (k, v) ∈ m.pairs ↔ m.lookup k = some v := by
  rw [← lookup_iff_mem (nodup_keys_pairs m), lookup_pairs]

end FiniteMap

namespace MapOrder

variable {key value : Type} (order : MapOrder) (m : FiniteMap key value)

theorem nodup_keys : ((order.pairs m).map Prod.fst).Nodup :=
  ((order.perm m).map Prod.fst).nodup_iff.mpr (FiniteMap.nodup_keys_pairs m)

variable [DecidableEq key]

theorem mem_pairs {k : key} {v : value} : (k, v) ∈ order.pairs m ↔ m.lookup k = some v := by
  rw [(order.perm m).mem_iff, FiniteMap.mem_pairs]

theorem lookup_pairs (k : key) : (order.pairs m).lookup k = m.lookup k := by
  apply Option.ext
  intro v
  rw [FiniteMap.lookup_iff_mem (order.nodup_keys m), order.mem_pairs]

/-- A map is rebuilt from its entries in any order. -/
theorem insertAll_pairs : (FiniteMap.insertAll ∅ (order.pairs m)).Same m := by
  intro k
  rw [FiniteMap.lookup_insertAll ∅ (order.nodup_keys m), order.lookup_pairs]
  exact Option.or_none

/-- The entries a map is filled with, in some order. -/
theorem pairs_insertAll {l : List (key × value)} (h : (l.map Prod.fst).Nodup) :
    (order.pairs (FiniteMap.insertAll ∅ l)).Perm l := by
  have hnodup := (order.nodup_keys (FiniteMap.insertAll ∅ l)).of_map
  rw [List.perm_ext_iff_of_nodup hnodup h.of_map]
  intro ⟨k, v⟩
  rw [order.mem_pairs, FiniteMap.lookup_insertAll ∅ h, ← FiniteMap.lookup_iff_mem h]
  exact Option.or_none ▸ Iff.rfl

/-- What comes from the entries of a map that is rebuilt with other values. -/
theorem flatMap_rebuilt {value' alpha : Type} (g : value -> value')
    (f : key × value' -> List alpha) :
    ((order.pairs (FiniteMap.insertAll ∅ ((order.pairs m).map fun e => (e.1, g e.2)))).flatMap
      f).Perm (m.pairs.flatMap fun e => f (e.1, g e.2)) := by
  have hkeys : ((order.pairs m).map fun e => (e.1, g e.2)).map Prod.fst =
      (order.pairs m).map Prod.fst := by
    rw [List.map_map]
    rfl
  have hentries := order.pairs_insertAll (hkeys ▸ order.nodup_keys m)
  have horder := (order.perm m).map fun e => (e.1, g e.2)
  have hperm := (hentries.trans horder).flatMap_right f
  rw [List.flatMap_map] at hperm
  exact hperm

end MapOrder

/-!
# Maps of maps
-/

namespace FiniteMap

variable {outer inner value : Type} [DecidableEq outer] [DecidableEq inner]

def lookupIn (m : FiniteMap outer (FiniteMap inner value)) (o : outer) (i : inner) :
    Option value :=
  (m.lookup o).bind fun n => n.lookup i

/-- An entry of the inner map, which is there afterwards. -/
def insertIn (m : FiniteMap outer (FiniteMap inner value)) (o : outer) (i : inner) (v : value) :
    FiniteMap outer (FiniteMap inner value) :=
  m.insert o (((m.lookup o).getD ∅).insert i v)

def insertAllIn (l : List (outer × inner × value))
    (m : FiniteMap outer (FiniteMap inner value)) : FiniteMap outer (FiniteMap inner value) :=
  l.foldl (fun m e => insertIn m e.1 e.2.1 e.2.2) m

theorem lookupIn_insertIn (m : FiniteMap outer (FiniteMap inner value)) (o o' : outer)
    (i i' : inner) (v : value) :
    lookupIn (insertIn m o i v) o' i' = if o' = o ∧ i' = i then some v else lookupIn m o' i' := by
  unfold lookupIn insertIn
  by_cases ho : o' = o
  · cases ho
    rw [AList.lookup_insert, Option.bind_some]
    by_cases hi : i' = i
    · rw [hi, AList.lookup_insert, if_pos ⟨rfl, rfl⟩]
    · rw [AList.lookup_insert_ne hi, if_neg fun h => hi h.2]
      cases m.lookup o <;> rfl
  · rw [AList.lookup_insert_ne ho, if_neg fun h => ho h.1]

/-- Where no two entries are for the same place, each is found, and nothing else is new. -/
theorem lookupIn_insertAllIn {l : List (outer × inner × value)}
    (hnodup : (l.map fun e => (e.1, e.2.1)).Nodup) (m : FiniteMap outer (FiniteMap inner value))
    (o : outer) (i : inner) (v : value) :
    lookupIn (insertAllIn l m) o i = some v ↔
      (o, i, v) ∈ l ∨ (forall w, (o, i, w) ∉ l) ∧ lookupIn m o i = some v := by
  induction l generalizing m with
  | nil => simp [insertAllIn]
  | cons e l ih =>
      rcases e with ⟨o', i', v'⟩
      rw [List.map_cons, List.nodup_cons] at hnodup
      have hstep : insertAllIn ((o', i', v') :: l) m = insertAllIn l (insertIn m o' i' v') := rfl
      rw [hstep, ih hnodup.2, lookupIn_insertIn]
      by_cases hplace : o = o' ∧ i = i'
      · rcases hplace with ⟨rfl, rfl⟩
        have hnone : forall w, (o, i, w) ∉ l := by
          intro w hw
          exact hnodup.1 (List.mem_map.mpr ⟨_, hw, rfl⟩)
        rw [if_pos ⟨rfl, rfl⟩]
        constructor
        · rintro (hmem | ⟨_, hv⟩)
          · exact absurd hmem (hnone v)
          · cases hv
            exact Or.inl List.mem_cons_self
        · rintro (hmem | ⟨hno, _⟩)
          · rcases List.mem_cons.mp hmem with heq | hmem
            · cases heq
              exact Or.inr ⟨hnone, rfl⟩
            · exact absurd hmem (hnone v)
          · exact absurd List.mem_cons_self (hno v')
      · have hne : forall w, (o, i, w) ∈ (o', i', v') :: l ↔ (o, i, w) ∈ l := by
          intro w
          rw [List.mem_cons]
          constructor
          · rintro (heq | hmem)
            · cases heq
              exact absurd ⟨rfl, rfl⟩ hplace
            · exact hmem
          · exact Or.inr
        rw [if_neg hplace, hne v]
        simp only [hne]

theorem mem_insertIn_outer {m : FiniteMap outer (FiniteMap inner value)} {o o' : outer}
    {i : inner} {v : value} : o' ∈ insertIn m o i v ↔ o' = o ∨ o' ∈ m :=
  AList.mem_insert m

/-- An inner map is there for the entries it has, and for no other reason. -/
theorem mem_insertAllIn_outer {l : List (outer × inner × value)}
    {m : FiniteMap outer (FiniteMap inner value)} {o : outer} :
    o ∈ insertAllIn l m ↔ (exists i v, (o, i, v) ∈ l) ∨ o ∈ m := by
  induction l generalizing m with
  | nil => simp [insertAllIn]
  | cons e l ih =>
      rcases e with ⟨o', i', v'⟩
      have hstep : insertAllIn ((o', i', v') :: l) m = insertAllIn l (insertIn m o' i' v') := rfl
      rw [hstep, ih, mem_insertIn_outer]
      constructor
      · rintro (⟨i, v, hmem⟩ | rfl | hm)
        · exact Or.inl ⟨i, v, List.mem_cons_of_mem _ hmem⟩
        · exact Or.inl ⟨i', v', List.mem_cons_self⟩
        · exact Or.inr hm
      · rintro (⟨i, v, hmem⟩ | hm)
        · rcases List.mem_cons.mp hmem with heq | hmem
          · cases heq
            exact Or.inr (Or.inl rfl)
          · exact Or.inl ⟨i, v, hmem⟩
        · exact Or.inr (Or.inr hm)

/-!
# Groups

Values are kept under their keys, in the order in which they come.
-/

variable {key : Type} [DecidableEq key]

def push (m : FiniteMap key (List value)) (e : key × value) : FiniteMap key (List value) :=
  m.insert e.1 ((m.lookup e.1).getD [] ++ [e.2])

def group (l : List (key × value)) : FiniteMap key (List value) :=
  l.foldl push ∅

def valuesAt (k : key) (l : List (key × value)) : List value :=
  (l.filter fun e => e.1 = k).map Prod.snd

theorem valuesAt_cons_self (k : key) (v : value) (l : List (key × value)) :
    valuesAt k ((k, v) :: l) = v :: valuesAt k l := by
  simp [valuesAt]

theorem valuesAt_cons_ne {k k' : key} (h : k' ≠ k) (v : value) (l : List (key × value)) :
    valuesAt k ((k', v) :: l) = valuesAt k l := by
  simp [valuesAt, h]

theorem lookup_foldl_push (l : List (key × value)) (m : FiniteMap key (List value)) (k : key) :
    (l.foldl push m).lookup k =
      if valuesAt k l = [] then m.lookup k
      else some ((m.lookup k).getD [] ++ valuesAt k l) := by
  induction l generalizing m with
  | nil => rfl
  | cons e l ih =>
      rcases e with ⟨k', v⟩
      rw [List.foldl_cons, ih]
      by_cases hk : k' = k
      · cases hk
        have hpush : (push m (k, v)).lookup k = some ((m.lookup k).getD [] ++ [v]) :=
          AList.lookup_insert m
        rw [valuesAt_cons_self, hpush, if_neg (List.cons_ne_nil _ _)]
        split
        · next hnil => rw [hnil]
        · simp
      · have hpush : (push m (k', v)).lookup k = m.lookup k :=
          AList.lookup_insert_ne (Ne.symm hk)
        rw [valuesAt_cons_ne hk, hpush]

/-- The group of a key has its values, and a key without values has none. -/
theorem lookup_group (l : List (key × value)) (k : key) (vs : List value) :
    (group l).lookup k = some vs ↔ vs ≠ [] ∧ vs = valuesAt k l := by
  have hempty : (∅ : FiniteMap key (List value)).lookup k = none := AList.lookup_empty k
  rw [group, lookup_foldl_push, hempty]
  split
  · next hnil =>
      constructor
      · intro h
        cases h
      · intro ⟨hne, hvs⟩
        exact absurd (hvs.trans hnil) hne
  · next hne =>
      rw [Option.getD_none, List.nil_append, Option.some.injEq]
      constructor
      · rintro rfl
        exact ⟨hne, rfl⟩
      · intro ⟨_, hvs⟩
        exact hvs.symm

theorem count_valuesAt [DecidableEq value] (k : key) (v : value) (l : List (key × value)) :
    (valuesAt k l).count v = l.count (k, v) := by
  induction l with
  | nil => rfl
  | cons e l ih =>
      rcases e with ⟨k', v'⟩
      rw [List.count_cons, ← ih]
      by_cases hk : k' = k
      · cases hk
        rw [valuesAt_cons_self, List.count_cons]
        simp
      · rw [valuesAt_cons_ne hk]
        simp [hk]

/-- Entries are the same in another order if the values of every key are. -/
theorem perm_iff_valuesAt {l l' : List (key × value)} :
    l.Perm l' ↔ forall k, (valuesAt k l).Perm (valuesAt k l') := by
  classical
  constructor
  · intro h k
    exact (h.filter _).map Prod.snd
  · intro h
    rw [List.perm_iff_count]
    intro ⟨k, v⟩
    rw [← count_valuesAt, ← count_valuesAt]
    exact (h k).count_eq v

theorem valuesAt_flatMap {alpha : Type} (k : key) (l : List alpha)
    (f : alpha -> List (key × value)) :
    valuesAt k (l.flatMap f) = l.flatMap fun a => valuesAt k (f a) := by
  rw [valuesAt, List.filter_flatMap, List.map_flatMap]
  rfl

/-- What comes from the entry of one key only. -/
theorem flatMap_of_lookup {alpha : Type} {l : List (key × value)} (h : (l.map Prod.fst).Nodup)
    {k : key} {f : key × value -> List alpha} (hempty : forall e, e.1 ≠ k -> f e = []) :
    l.flatMap f = (l.lookup k).elim [] fun v => f (k, v) := by
  induction l with
  | nil => rfl
  | cons e l ih =>
      rcases e with ⟨k', v⟩
      rw [List.map_cons, List.nodup_cons] at h
      rw [List.flatMap_cons, ih h.2]
      by_cases hk : k = k'
      · cases hk
        rw [lookup_eq_none_of_notMem h.1, List.lookup_cons_self]
        exact List.append_nil _
      · rw [hempty (k', v) (Ne.symm hk), List.lookup_cons, beq_eq_false_iff_ne.mpr hk]
        rfl

section Flatten

variable {alpha beta : Type}

/-- The values of the lists in a map of maps, each with its keys. -/
def flatten (g : List alpha -> List beta)
    (m : FiniteMap outer (FiniteMap inner (List alpha))) : List ((outer × inner) × beta) :=
  (pairs m).flatMap fun e => (pairs e.2).flatMap fun e' => (g e'.2).map fun b => ((e.1, e'.1), b)

theorem valuesAt_map_key (k k' : key) (values : List value) :
    valuesAt k (values.map fun v => (k', v)) = if k' = k then values else [] := by
  induction values with
  | nil => simp [valuesAt]
  | cons v values ih =>
      rw [List.map_cons]
      by_cases hk : k' = k
      · rw [if_pos hk] at ih ⊢
        rw [hk] at ih ⊢
        rw [valuesAt_cons_self, ih]
      · rw [if_neg hk] at ih ⊢
        rw [valuesAt_cons_ne hk, ih]

theorem valuesAt_flatten (g : List alpha -> List beta)
    (m : FiniteMap outer (FiniteMap inner (List alpha))) (o : outer) (i : inner) :
    valuesAt (o, i) (flatten g m) = (lookupIn m o i).elim [] g := by
  have hinner : forall (o' : outer) (n : FiniteMap inner (List alpha)),
      valuesAt (o, i) ((pairs n).flatMap fun e' => (g e'.2).map fun b => ((o', e'.1), b)) =
        if o' = o then (n.lookup i).elim [] g else [] := by
    intro o' n
    rw [valuesAt_flatMap]
    simp only [valuesAt_map_key, Prod.mk.injEq]
    by_cases ho : o' = o
    · rw [if_pos ho, flatMap_of_lookup (nodup_keys_pairs n) (k := i), lookup_pairs]
      · simp [ho]
      · intro e he
        exact if_neg fun h => he h.2
    · rw [if_neg ho]
      simp [ho]
  rw [flatten, valuesAt_flatMap]
  simp only [hinner]
  rw [flatMap_of_lookup (nodup_keys_pairs m) (k := o), lookup_pairs, lookupIn]
  · cases m.lookup o with
    | none => rfl
    | some n => exact if_pos rfl
  · intro e he
    exact if_neg he

/-- Flattening a map of maps in two ways gives the same but for the order if each list does. -/
theorem flatten_perm_iff {g g' : List alpha -> List beta}
    {m : FiniteMap outer (FiniteMap inner (List alpha))} :
    (flatten g m).Perm (flatten g' m) ↔
      forall o i l, lookupIn m o i = some l -> (g l).Perm (g' l) := by
  rw [perm_iff_valuesAt]
  constructor
  · intro h o i l hl
    have hperm := h (o, i)
    rw [valuesAt_flatten, valuesAt_flatten, hl] at hperm
    exact hperm
  · intro h k
    rw [valuesAt_flatten, valuesAt_flatten]
    cases hl : lookupIn m k.1 k.2 with
    | none => exact List.Perm.refl _
    | some l => exact h k.1 k.2 l hl

end Flatten

/-!
# Maps with related values
-/

section Related

variable {alpha beta gamma : Type}

/-- The maps have the same keys, and the values under a key are related. -/
def Related (R : key -> alpha -> beta -> Prop) (m : FiniteMap key alpha)
    (m' : FiniteMap key beta) : Prop :=
  forall k, Option.Rel (R k) (m.lookup k) (m'.lookup k)

theorem Related.trans {R : key -> alpha -> beta -> Prop} {S : key -> beta -> gamma -> Prop}
    {m : FiniteMap key alpha} {m' : FiniteMap key beta} {m'' : FiniteMap key gamma}
    (h : Related R m m') (h' : Related S m' m'') :
    Related (fun k a c => exists b, R k a b ∧ S k b c) m m'' := by
  intro k
  have hk := h k
  have hk' := h' k
  cases ha : m.lookup k with
  | none =>
      rw [ha] at hk
      cases hb : m'.lookup k with
      | none =>
          rw [hb] at hk'
          cases hc : m''.lookup k with
          | none => exact Option.Rel.none
          | some c =>
              rw [hc] at hk'
              cases hk'
      | some b =>
          rw [hb] at hk
          cases hk
  | some a =>
      rw [ha] at hk
      cases hb : m'.lookup k with
      | none =>
          rw [hb] at hk
          cases hk
      | some b =>
          rw [hb] at hk hk'
          cases hc : m''.lookup k with
          | none =>
              rw [hc] at hk'
              cases hk'
          | some c =>
              rw [hc] at hk'
              cases hk with
              | some hR =>
                  cases hk' with
                  | some hS => exact Option.Rel.some ⟨b, hR, hS⟩

theorem Related.mono {R S : key -> alpha -> beta -> Prop} {m : FiniteMap key alpha}
    {m' : FiniteMap key beta} (h : Related R m m')
    (himp : forall k a b, m.lookup k = some a -> R k a b -> S k a b) : Related S m m' := by
  intro k
  have hk := h k
  cases ha : m.lookup k with
  | none =>
      rw [ha] at hk
      cases hb : m'.lookup k with
      | none => exact Option.Rel.none
      | some b =>
          rw [hb] at hk
          cases hk
  | some a =>
      rw [ha] at hk
      cases hb : m'.lookup k with
      | none =>
          rw [hb] at hk
          cases hk
      | some b =>
          rw [hb] at hk
          cases hk with
          | some hR => exact Option.Rel.some (himp k a b ha hR)

theorem Related.exists_left {R : key -> alpha -> beta -> Prop} {m : FiniteMap key alpha}
    {m' : FiniteMap key beta} (h : Related R m m') {k : key} {b : beta}
    (hb : m'.lookup k = some b) : exists a, m.lookup k = some a ∧ R k a b := by
  have hk := h k
  rw [hb] at hk
  cases ha : m.lookup k with
  | none =>
      rw [ha] at hk
      cases hk
  | some a =>
      rw [ha] at hk
      cases hk with
      | some hR => exact ⟨a, rfl, hR⟩

/-- The entries, each with its key kept. -/
def Entrywise (R : key -> alpha -> beta -> Prop) :
    List (key × alpha) -> List (key × beta) -> Prop :=
  List.Forall₂ fun e e' => e'.1 = e.1 ∧ R e.1 e.2 e'.2

omit [DecidableEq key] in
theorem Entrywise.keys {R : key -> alpha -> beta -> Prop} {l : List (key × alpha)}
    {l' : List (key × beta)} (h : Entrywise R l l') : l'.map Prod.fst = l.map Prod.fst := by
  induction h with
  | nil => rfl
  | cons he _ ih => rw [List.map_cons, List.map_cons, he.1, ih]

theorem Entrywise.lookup {R : key -> alpha -> beta -> Prop} {l : List (key × alpha)}
    {l' : List (key × beta)} (h : Entrywise R l l') (k : key) :
    Option.Rel (R k) (l.lookup k) (l'.lookup k) := by
  induction h with
  | nil => exact Option.Rel.none
  | @cons e e' l l' he _ ih =>
      rw [List.lookup_cons, List.lookup_cons, he.1]
      cases hk : k == e.1 with
      | true =>
          rw [eq_of_beq hk]
          exact Option.Rel.some he.2
      | false => exact ih

theorem Entrywise.related {R : key -> alpha -> beta -> Prop} (order : MapOrder)
    {m : FiniteMap key alpha} {l' : List (key × beta)}
    (h : Entrywise R (order.pairs m) l') : Related R m (insertAll ∅ l') := by
  have hnodup : (l'.map Prod.fst).Nodup := by
    rw [h.keys]
    exact order.nodup_keys m
  intro k
  have hempty : (∅ : FiniteMap key beta).lookup k = none := AList.lookup_empty k
  rw [lookup_insertAll ∅ hnodup, hempty, Option.or_none, ← order.lookup_pairs m]
  exact h.lookup k

/-- Going through a list where every step succeeds. -/
theorem mapM_of_forall₂ {monad : Type -> Type} [Monad monad] [LawfulMonad monad]
    {f : beta -> monad gamma} {R : alpha -> gamma -> Prop} {l : List alpha} {l' : List beta}
    (h : List.Forall₂ (fun a b => exists c, f b = pure c ∧ R a c) l l') :
    exists l'', l'.mapM f = pure l'' ∧ List.Forall₂ R l l'' := by
  induction h with
  | nil => exact ⟨[], List.mapM_nil, List.Forall₂.nil⟩
  | cons hab _ ih =>
      rcases hab with ⟨c, hc, hR⟩
      rcases ih with ⟨l'', hl'', hRs⟩
      refine ⟨c :: l'', ?_, List.Forall₂.cons hR hRs⟩
      rw [List.mapM_cons, hc, hl'', pure_bind, pure_bind]

theorem mapM_forall₂ {monad : Type -> Type} [Monad monad] [LawfulMonad monad]
    {f : alpha -> monad beta} {R : alpha -> beta -> Prop} {l : List alpha}
    (h : forall a, a ∈ l -> exists b, f a = pure b ∧ R a b) :
    exists l', l.mapM f = pure l' ∧ List.Forall₂ R l l' :=
  mapM_of_forall₂ (List.forall₂_same.mpr h)

/-- Taking what each element gives, where each gives something. -/
theorem filterMap_forall₂ {f : alpha -> Option beta} {R : alpha -> beta -> Prop} {l : List alpha}
    (h : forall a, a ∈ l -> exists b, f a = some b ∧ R a b) :
    List.Forall₂ R l (l.filterMap f) := by
  induction l with
  | nil => exact List.Forall₂.nil
  | cons a l ih =>
      rcases h a List.mem_cons_self with ⟨b, hb, hR⟩
      rw [List.filterMap_cons_some hb]
      exact List.Forall₂.cons hR (ih fun a ha => h a (List.mem_cons_of_mem _ ha))

end Related

end FiniteMap
end Foundation
end CouchbaseSdk
