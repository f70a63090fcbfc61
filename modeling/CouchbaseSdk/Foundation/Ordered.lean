import Mathlib.Data.String.Basic

/-!
# Maps as ordered lists

A map is the list of its entries in the order of their keys, each key once.  An entry that is put in
takes the place of the one with its key.
-/

namespace CouchbaseSdk
namespace Foundation
namespace Ordered

variable {key value : Type} [LinearOrder key]

/-- An entry of the key is replaced, and any other is put in front of the first greater key. -/
def insert (k : key) (v : value) : List (key × value) -> List (key × value)
  | [] => [(k, v)]
  | (other, w) :: entries =>
      if k = other then (k, v) :: entries
      else if k < other then (k, v) :: (other, w) :: entries
      else (other, w) :: insert k v entries

/-- One entry after the other. -/
def insertAll (new entries : List (key × value)) : List (key × value) :=
  new.foldl (fun entries e => insert e.1 e.2 entries) entries

def Increasing (entries : List (key × value)) : Prop :=
  entries.Pairwise fun e f => e.1 < f.1

/-!
# Looking up
-/

theorem lookup_cons_ne {k other : key} (h : k ≠ other) (v : value)
    (entries : List (key × value)) :
    ((other, v) :: entries).lookup k = entries.lookup k := by
  rw [List.lookup_cons, beq_false_of_ne h]

theorem lookup_insert_self (k : key) (v : value) (entries : List (key × value)) :
    (insert k v entries).lookup k = some v := by
  induction entries with
  | nil => exact List.lookup_cons_self
  | cons e entries ih =>
      rcases e with ⟨other, w⟩
      rw [insert]
      split
      · exact List.lookup_cons_self
      · rename_i hne
        split
        · exact List.lookup_cons_self
        · rw [lookup_cons_ne hne]
          exact ih

theorem lookup_insert_ne {k other : key} (h : other ≠ k) (v : value)
    (entries : List (key × value)) :
    (insert k v entries).lookup other = entries.lookup other := by
  induction entries with
  | nil => exact lookup_cons_ne h v []
  | cons e entries ih =>
      rcases e with ⟨first, w⟩
      rw [insert]
      split
      · rename_i heq
        rw [← heq, lookup_cons_ne h, lookup_cons_ne h]
      · split
        · exact lookup_cons_ne h v _
        · rw [List.lookup_cons, List.lookup_cons, ih]

theorem lookup_filterMap {item : Type} (entryOf : item -> Option (key × value)) (k : key)
    (items : List item) :
    (items.filterMap entryOf).lookup k =
      items.findSome? fun i => (entryOf i).bind fun e => if k = e.1 then some e.2 else none := by
  induction items with
  | nil => rfl
  | cons i items ih =>
      rw [List.findSome?_cons]
      cases hentry : entryOf i with
      | none =>
          rw [List.filterMap_cons_none hentry, ih]
          rfl
      | some e =>
          rw [List.filterMap_cons_some hentry, Option.bind_some]
          by_cases hk : k = e.1
          · rw [if_pos hk, hk]
            exact List.lookup_cons_self
          · rw [if_neg hk, ← ih]
            exact lookup_cons_ne hk e.2 _

/-- The last entry of a key is the one that stays. -/
theorem lookup_insertAll (new : List (key × value)) (k : key) (entries : List (key × value)) :
    (insertAll new entries).lookup k = (new.reverse.lookup k).or (entries.lookup k) := by
  induction new generalizing entries with
  | nil => rfl
  | cons e new ih =>
      rcases e with ⟨other, v⟩
      have hstep : insertAll ((other, v) :: new) entries = insertAll new (insert other v entries) :=
        rfl
      rw [hstep, ih, List.reverse_cons, List.lookup_append, Option.or_assoc]
      by_cases hk : k = other
      · rw [hk, lookup_insert_self, List.lookup_cons_self, Option.some_or]
      · rw [lookup_insert_ne hk, lookup_cons_ne hk, List.lookup_nil, Option.none_or]

/-!
# The order
-/

theorem mem_insert {k : key} {v : value} {entries : List (key × value)} {e : key × value}
    (h : e ∈ insert k v entries) : e = (k, v) ∨ e ∈ entries := by
  induction entries with
  | nil => exact Or.inl (List.mem_singleton.mp h)
  | cons f entries ih =>
      rcases f with ⟨other, w⟩
      rw [insert] at h
      split at h
      · rcases List.mem_cons.mp h with heq | hmem
        · exact Or.inl heq
        · exact Or.inr (List.mem_cons_of_mem _ hmem)
      · split at h
        · exact List.mem_cons.mp h
        · rcases List.mem_cons.mp h with heq | hmem
          · exact Or.inr (List.mem_cons.mpr (Or.inl heq))
          · exact (ih hmem).imp_right (List.mem_cons_of_mem _)

theorem increasing_insert {entries : List (key × value)} (h : Increasing entries) (k : key)
    (v : value) : Increasing (insert k v entries) := by
  induction entries with
  | nil => exact List.pairwise_singleton _ _
  | cons e entries ih =>
      rcases e with ⟨other, w⟩
      rcases List.pairwise_cons.mp h with ⟨hhead, htail⟩
      rw [insert]
      split
      · rename_i heq
        exact List.pairwise_cons.mpr ⟨fun f hf => heq ▸ hhead f hf, htail⟩
      · rename_i hne
        split
        · rename_i hlt
          refine List.pairwise_cons.mpr ⟨?_, h⟩
          intro f hf
          rcases List.mem_cons.mp hf with heq | hmem
          · rw [heq]
            exact hlt
          · exact lt_trans hlt (hhead f hmem)
        · rename_i hle
          refine List.pairwise_cons.mpr ⟨?_, ih htail⟩
          intro f hf
          rcases mem_insert hf with heq | hmem
          · rw [heq]
            exact lt_of_le_of_ne (not_lt.mp hle) (Ne.symm hne)
          · exact hhead f hmem

theorem increasing_insertAll {entries : List (key × value)} (h : Increasing entries)
    (new : List (key × value)) : Increasing (insertAll new entries) := by
  induction new generalizing entries with
  | nil => exact h
  | cons e new ih => exact ih (increasing_insert h e.1 e.2)

/-!
# One list for a map
-/

theorem mem_of_lookup {entries : List (key × value)} {k : key} {v : value}
    (h : entries.lookup k = some v) : (k, v) ∈ entries := by
  rcases List.lookup_eq_some_iff.mp h with ⟨front, back, hsplit, _⟩
  rw [hsplit]
  exact List.mem_append_right front List.mem_cons_self

theorem lookup_none_of_lt {entries : List (key × value)} {k : key}
    (h : forall e, e ∈ entries -> k < e.1) : entries.lookup k = none := by
  cases hlookup : entries.lookup k with
  | none => rfl
  | some v => exact absurd (h _ (mem_of_lookup hlookup)) (lt_irrefl k)

/-- The first key is not after any key that is found. -/
theorem head_le {k other : key} {v : value} {entries : List (key × value)}
    (h : Increasing ((other, v) :: entries))
    (hfound : (((other, v) :: entries).lookup k).isSome) : other ≤ k := by
  rcases Option.isSome_iff_exists.mp hfound with ⟨w, hlookup⟩
  rcases List.mem_cons.mp (mem_of_lookup hlookup) with heq | hmem
  · rw [Prod.mk.injEq] at heq
    exact le_of_eq heq.1.symm
  · exact le_of_lt ((List.pairwise_cons.mp h).1 _ hmem)

/-- Lists with the same entries to be found are the same. -/
theorem ext {left right : List (key × value)} (hleft : Increasing left)
    (hright : Increasing right) (h : forall k, left.lookup k = right.lookup k) : left = right := by
  induction left generalizing right with
  | nil =>
      cases right with
      | nil => rfl
      | cons f right =>
          have hfound := h f.1
          rw [List.lookup_cons_self] at hfound
          cases hfound
  | cons e left ih =>
      rcases e with ⟨a, v⟩
      cases right with
      | nil =>
          have hfound := h a
          rw [List.lookup_cons_self] at hfound
          cases hfound
      | cons f right =>
          rcases f with ⟨b, w⟩
          rcases List.pairwise_cons.mp hleft with ⟨hafter, hleft'⟩
          rcases List.pairwise_cons.mp hright with ⟨hafter', hright'⟩
          have hab : a ≤ b := head_le hleft (by rw [h b, List.lookup_cons_self]; rfl)
          have hba : b ≤ a := head_le hright (by rw [← h a, List.lookup_cons_self]; rfl)
          cases le_antisymm hab hba
          have hvalue := h a
          rw [List.lookup_cons_self, List.lookup_cons_self] at hvalue
          cases hvalue
          have hrest : left = right := by
            apply ih hleft' hright'
            intro k
            by_cases hk : k = a
            · rw [hk, lookup_none_of_lt hafter, lookup_none_of_lt hafter']
            · have hk' := h k
              rw [lookup_cons_ne hk, lookup_cons_ne hk] at hk'
              exact hk'
          rw [hrest]

/-- What is built from nothing is the same if and only if the last entries of every key are. -/
theorem insertAll_nil_eq_iff (new new' : List (key × value)) :
    insertAll new [] = insertAll new' [] <->
      forall k, new.reverse.lookup k = new'.reverse.lookup k := by
  have hlookup : forall (new : List (key × value)) k,
      (insertAll new []).lookup k = new.reverse.lookup k := by
    intro new k
    rw [lookup_insertAll, List.lookup_nil, Option.or_none]
  constructor
  · intro h k
    rw [← hlookup new, ← hlookup new', h]
  · intro h
    apply ext (increasing_insertAll List.Pairwise.nil new)
      (increasing_insertAll List.Pairwise.nil new')
    intro k
    rw [hlookup, hlookup, h k]

/-!
# Different keys
-/

theorem lookup_eq_some_iff {entries : List (key × value)} (h : (entries.map Prod.fst).Nodup)
    (k : key) (v : value) : entries.lookup k = some v <-> (k, v) ∈ entries := by
  constructor
  · exact mem_of_lookup
  · intro hmem
    induction entries with
    | nil => cases hmem
    | cons e entries ih =>
        rcases e with ⟨other, w⟩
        rw [List.map_cons, List.nodup_cons] at h
        rcases List.mem_cons.mp hmem with heq | hmem'
        · cases heq
          exact List.lookup_cons_self
        · have hne : k ≠ other := by
            intro heq
            exact h.1 (List.mem_map.mpr ⟨(k, v), hmem', heq⟩)
          rw [lookup_cons_ne hne]
          exact ih h.2 hmem'

theorem lookup_reverse_iff {entries : List (key × value)} (h : (entries.map Prod.fst).Nodup)
    (k : key) (v : value) : entries.reverse.lookup k = some v <-> (k, v) ∈ entries := by
  have hreverse : (entries.reverse.map Prod.fst).Nodup := by
    rw [List.map_reverse]
    exact (List.reverse_perm _).nodup_iff.mpr h
  rw [lookup_eq_some_iff hreverse, List.mem_reverse]

/-- Entries of different keys can be put in in any order. -/
theorem insertAll_perm {new new' : List (key × value)} (h : (new.map Prod.fst).Nodup)
    (hperm : new'.Perm new) : insertAll new' [] = insertAll new [] := by
  have hnodup' : (new'.map Prod.fst).Nodup := (hperm.map Prod.fst).nodup_iff.mpr h
  rw [insertAll_nil_eq_iff]
  intro k
  apply Option.ext
  intro v
  rw [lookup_reverse_iff hnodup', lookup_reverse_iff h]
  exact hperm.mem_iff

end Ordered
end Foundation
end CouchbaseSdk
