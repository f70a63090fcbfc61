import Mathlib.Data.List.AList

/-!
# Finite maps and their values

A finite map is an association list with distinct keys.  Draining a map hands out
its values in some order; these lemmas relate the list of values to lookups and say
how it changes under insertion and removal.
-/

namespace CouchbaseSdk
namespace Foundation

abbrev FiniteMap (key value : Type) := AList (fun _ : key => value)

namespace FiniteMap

variable {key value : Type}

def values (m : FiniteMap key value) : List value :=
  m.entries.map Sigma.snd

@[simp] theorem values_empty : values (∅ : FiniteMap key value) = [] := rfl

variable [DecidableEq key]

theorem mem_values {m : FiniteMap key value} {v : value} :
    v ∈ values m <-> exists k, m.lookup k = some v := by
  constructor
  · intro h
    rcases List.mem_map.mp h with ⟨⟨k, w⟩, hmem, hw⟩
    cases hw
    exact ⟨k, AList.mem_lookup_iff.mpr hmem⟩
  · rintro ⟨k, hk⟩
    exact List.mem_map.mpr ⟨⟨k, v⟩, AList.mem_lookup_iff.mp hk, rfl⟩

theorem mem_of_lookup {m : FiniteMap key value} {k : key} {v : value}
    (h : m.lookup k = some v) : k ∈ m := by
  apply AList.lookup_isSome.mp
  rw [h]
  rfl

theorem exists_lookup {m : FiniteMap key value} {k : key} (h : k ∈ m) :
    exists v, m.lookup k = some v :=
  Option.isSome_iff_exists.mp (AList.lookup_isSome.mpr h)

theorem values_insert (m : FiniteMap key value) (k : key) (v : value) :
    values (m.insert k v) = v :: values (m.erase k) := by
  rw [values, AList.entries_insert]
  rfl

/-- Removing a present key takes exactly its value out of the values. -/
theorem values_perm_erase {m : FiniteMap key value} {k : key} {v : value}
    (h : m.lookup k = some v) : (values m).Perm (v :: values (m.erase k)) := by
  have hkey : k ∈ m.entries.keys := mem_of_lookup h
  rcases List.exists_of_kerase hkey with ⟨w, l₁, l₂, _, hl, herase⟩
  have hmem : m.lookup k = some w := by
    apply AList.mem_lookup_iff.mpr
    rw [hl]
    exact List.mem_append_right _ List.mem_cons_self
  have hvw : v = w := Option.some.inj (h.symm.trans hmem)
  have hentries : (m.erase k).entries = l₁ ++ l₂ := herase
  rw [values, values, hentries, hl, hvw, List.map_append, List.map_append, List.map_cons]
  exact List.perm_middle

theorem values_erase_sublist (m : FiniteMap key value) (k : key) :
    (values (m.erase k)).Sublist (values m) := by
  apply List.Sublist.map
  exact List.kerase_sublist k m.entries

/-- Where no value is under two keys, the values are distinct. -/
theorem values_nodup {m : FiniteMap key value}
    (hinj : forall k k' v, m.lookup k = some v -> m.lookup k' = some v -> k = k') :
    (values m).Nodup := by
  apply List.Nodup.map_on
  · intro item hitem item' hitem' hvalue
    rcases item with ⟨k, v⟩
    rcases item' with ⟨k', v'⟩
    cases hvalue
    have hk : k = k' := hinj k k' v (AList.mem_lookup_iff.mpr hitem)
      (AList.mem_lookup_iff.mpr hitem')
    rw [hk]
  · exact List.Nodup.of_map _ m.nodupKeys

theorem lookup_erase_some {m : FiniteMap key value} {k k' : key} {v : value}
    (h : (m.erase k).lookup k' = some v) : k' ≠ k ∧ m.lookup k' = some v := by
  have hne : k' ≠ k := by
    rintro rfl
    rw [AList.lookup_erase] at h
    cases h
  rw [AList.lookup_erase_ne hne] at h
  exact ⟨hne, h⟩

theorem lookup_insert_some {m : FiniteMap key value} {k k' : key} {v w : value}
    (h : (m.insert k w).lookup k' = some v) :
    (k' = k ∧ v = w) ∨ (k' ≠ k ∧ m.lookup k' = some v) := by
  by_cases hk : k' = k
  · subst hk
    rw [AList.lookup_insert] at h
    exact Or.inl ⟨rfl, (Option.some.inj h).symm⟩
  · rw [AList.lookup_insert_ne hk] at h
    exact Or.inr ⟨hk, h⟩

/-!
# Collecting the kept values

A table is rebuilt from a map by going through its entries and inserting what is kept
of each.  The keys are distinct, so the order does not matter.
-/

variable {kept : Type}

def collectStep (keep : value -> Option kept) (m : FiniteMap key kept)
    (item : Sigma fun _ : key => value) : FiniteMap key kept :=
  match keep item.2 with
  | some w => m.insert item.1 w
  | none => m

theorem lookup_collectStep_ne (keep : value -> Option kept) (m : FiniteMap key kept)
    {k : key} {item : Sigma fun _ : key => value} (h : k ≠ item.1) :
    (collectStep keep m item).lookup k = m.lookup k := by
  unfold collectStep
  split
  · exact AList.lookup_insert_ne h
  · rfl

theorem lookup_foldl_collectStep (keep : value -> Option kept)
    (l : List (Sigma fun _ : key => value)) (hl : l.NodupKeys) (m : FiniteMap key kept)
    (k : key) (hfresh : k ∈ l.keys -> m.lookup k = none) :
    (l.foldl (collectStep keep) m).lookup k =
      match l.dlookup k with
      | some v => keep v
      | none => m.lookup k := by
  induction l generalizing m with
  | nil => rfl
  | cons item rest ih =>
      rcases item with ⟨k', v⟩
      have hnodup := List.nodupKeys_cons.mp hl
      rw [List.foldl_cons]
      by_cases hk : k = k'
      · subst hk
        have hnone : m.lookup k = none := hfresh List.mem_cons_self
        have hrest : rest.dlookup k = none := List.dlookup_eq_none.mpr hnodup.1
        have hkept : (collectStep keep m ⟨k, v⟩).lookup k = keep v := by
          unfold collectStep
          cases hkeep : keep v with
          | some w => exact AList.lookup_insert m
          | none => exact hnone
        rw [ih hnodup.2 _ (fun hmem => (hnodup.1 hmem).elim), hrest, List.dlookup_cons_eq]
        exact hkept
      · have hsame : (collectStep keep m ⟨k', v⟩).lookup k = m.lookup k :=
          lookup_collectStep_ne keep m hk
        rw [ih hnodup.2 _ (fun hmem => ?_), List.dlookup_cons_ne _ _ hk, hsame]
        rw [hsame]
        exact hfresh (List.mem_cons_of_mem _ hmem)

/-- What is collected under a key is what is kept of the entry under that key. -/
theorem lookup_collect (keep : value -> Option kept) (m : FiniteMap key value) (k : key) :
    AList.lookup k (m.entries.foldl (collectStep keep) ∅) = (m.lookup k).bind keep := by
  rw [lookup_foldl_collectStep keep m.entries m.nodupKeys ∅ k (fun _ => rfl)]
  cases hlookup : m.entries.dlookup k with
  | some v =>
      have hm : m.lookup k = some v := hlookup
      rw [hm]
      rfl
  | none =>
      have hm : m.lookup k = none := hlookup
      rw [hm]
      rfl

/-!
# Entries one after the other

Entries are inserted into a map in turn.  Where their keys are distinct, each is found, and what was
there before under any other key.
-/

def pairs (m : FiniteMap key value) : List (key × value) :=
  m.entries.map fun e => (e.1, e.2)

def insertAll (m : FiniteMap key value) (l : List (key × value)) : FiniteMap key value :=
  l.foldl (fun m e => m.insert e.1 e.2) m

theorem lookup_pairs (m : FiniteMap key value) (k : key) : (pairs m).lookup k = m.lookup k := by
  have hentries : forall l : List (Sigma fun _ : key => value),
      (l.map fun e => (e.1, e.2)).lookup k = l.dlookup k := by
    intro l
    induction l with
    | nil => rfl
    | cons e l ih =>
        rw [List.map_cons, List.lookup_cons]
        by_cases hk : k = e.1
        · cases hk
          rw [List.dlookup_cons_eq, beq_self_eq_true]
        · rw [List.dlookup_cons_ne _ _ hk, ih, beq_eq_false_iff_ne.mpr hk]
  exact hentries m.entries

omit [DecidableEq key] in
theorem nodup_keys_pairs (m : FiniteMap key value) : ((pairs m).map Prod.fst).Nodup := by
  rw [pairs, List.map_map]
  exact m.nodupKeys

theorem lookup_eq_none_of_notMem {l : List (key × value)} {k : key} (h : k ∉ l.map Prod.fst) :
    l.lookup k = none := by
  rw [List.lookup_eq_none_iff]
  intro e he
  apply bne_iff_ne.mpr
  rintro rfl
  exact h (List.mem_map_of_mem he)

theorem lookup_of_mem {l : List (key × value)} {e : key × value} (hnodup : (l.map Prod.fst).Nodup)
    (he : e ∈ l) : l.lookup e.1 = some e.2 := by
  induction l with
  | nil => cases he
  | cons e' l ih =>
      rw [List.map_cons, List.nodup_cons] at hnodup
      rw [List.lookup_cons]
      rcases List.mem_cons.mp he with rfl | htail
      · rw [beq_self_eq_true]
      · have hne : e.1 ≠ e'.1 := by
          intro heq
          apply hnodup.1
          rw [← heq]
          exact List.mem_map_of_mem htail
        rw [beq_eq_false_iff_ne.mpr hne]
        exact ih hnodup.2 htail

theorem lookup_insertAll (m : FiniteMap key value) {l : List (key × value)}
    (hnodup : (l.map Prod.fst).Nodup) (k : key) :
    (insertAll m l).lookup k = (l.lookup k).or (m.lookup k) := by
  induction l generalizing m with
  | nil => rfl
  | cons e l ih =>
      rw [List.map_cons, List.nodup_cons] at hnodup
      have htail := ih (m.insert e.1 e.2) hnodup.2
      rw [insertAll, List.foldl_cons, List.lookup_cons]
      rw [insertAll] at htail
      rw [htail]
      by_cases hk : k = e.1
      · rw [hk, lookup_eq_none_of_notMem hnodup.1, AList.lookup_insert, beq_self_eq_true]
        rfl
      · rw [AList.lookup_insert_ne hk, beq_eq_false_iff_ne.mpr hk]

end FiniteMap
end Foundation
end CouchbaseSdk

/-!
# Maps that are filled item by item

A map is filled by going through a list, where each item has a key and may have an entry.
An item overwrites what an earlier item of the same key has put into the map.
-/

namespace CouchbaseSdk
namespace Foundation
namespace FiniteMap

variable {item key value : Type} [DecidableEq key]

def insertSome (m : FiniteMap key value) (k : key) (entry : Option value) :
    FiniteMap key value :=
  match entry with
  | some v => m.insert k v
  | none => m

theorem lookup_insertSome_ne {m : FiniteMap key value} {k k' : key} (entry : Option value)
    (h : k ≠ k') : (insertSome m k' entry).lookup k = m.lookup k := by
  cases entry with
  | some v => exact AList.lookup_insert_ne h
  | none => rfl

/-- The map has what the items have: every entry is an item's, and an item has its entry
unless a later item of the same key has put its own there. -/
structure Serves (m : FiniteMap key value) (items : List item) (name : item -> Option key)
    (entry : item -> Option value) : Prop where
  sound : forall k v, m.lookup k = some v -> exists i, i ∈ items ∧ name i = some k ∧
    entry i = some v
  complete : forall before i after k v, items = before ++ i :: after -> name i = some k ->
    entry i = some v -> (forall later, later ∈ after -> name later = some k ->
      entry later = none) -> m.lookup k = some v

theorem Serves.congr {m : FiniteMap key value} {items : List item}
    {name name' : item -> Option key} {entry : item -> Option value}
    (h : Serves m items name entry) (hname : forall i, i ∈ items -> name' i = name i) :
    Serves m items name' entry := by
  constructor
  · intro k v hlookup
    rcases h.sound k v hlookup with ⟨i, hmem, hk, hv⟩
    exact ⟨i, hmem, (hname i hmem).trans hk, hv⟩
  · intro before i after k v hitems hk hv hafter
    have hmem : forall j, j = i ∨ j ∈ after -> j ∈ items := by
      intro j hj
      rw [hitems]
      exact List.mem_append_right _ (List.mem_cons.mpr hj)
    refine h.complete before i after k v hitems ((hname i (hmem i (Or.inl rfl))).symm.trans hk)
      hv (fun later hlater hlk => ?_)
    exact hafter later hlater ((hname later (hmem later (Or.inr hlater))).trans hlk)

/-- The key of an item that has an entry is in the map. -/
theorem Serves.mem {m : FiniteMap key value} {items : List item} {name : item -> Option key}
    {entry : item -> Option value} (h : Serves m items name entry) {i : item} {k : key}
    {v : value} (hmem : i ∈ items) (hname : name i = some k) (hentry : entry i = some v) :
    k ∈ m := by
  rcases List.append_of_mem hmem with ⟨before, after, hitems⟩
  -- The last item of the key that has an entry is found in what follows.
  induction hlength : after.length using Nat.strong_induction_on generalizing before i after v with
  | _ n ih =>
      by_cases hlater : exists later, later ∈ after ∧ name later = some k ∧ entry later ≠ none
      · rcases hlater with ⟨later, hafter, hlk, hle⟩
        rcases Option.ne_none_iff_exists'.mp hle with ⟨w, hw⟩
        rcases List.append_of_mem hafter with ⟨mid, rest, hsplit⟩
        have hshort : rest.length < n := by
          rw [← hlength, hsplit, List.length_append, List.length_cons]
          omega
        have hmem' : later ∈ items := by
          rw [hitems]
          exact List.mem_append_right _ (List.mem_cons_of_mem _ hafter)
        refine ih rest.length hshort hmem' hlk hw (before ++ i :: mid) rest ?_ rfl
        rw [hitems, hsplit, List.append_assoc, List.cons_append]
      · apply mem_of_lookup
        refine h.complete before i after k v hitems hname hentry (fun later hafter hlk => ?_)
        by_contra hle
        exact hlater ⟨later, hafter, hlk, hle⟩

/-- Renaming the values of a map renames the entries. -/
theorem Serves.map {value' : Type} {m : FiniteMap key value} {m' : FiniteMap key value'}
    {items : List item} {name : item -> Option key} {entry : item -> Option value}
    (h : Serves m items name entry) (f : value -> value')
    (hm : forall k, m'.lookup k = (m.lookup k).map f) :
    Serves m' items name (fun i => (entry i).map f) := by
  constructor
  · intro k v hlookup
    rw [hm] at hlookup
    rcases Option.map_eq_some_iff.mp hlookup with ⟨w, hw, hv⟩
    rcases h.sound k w hw with ⟨i, hmem, hk, hentry⟩
    refine ⟨i, hmem, hk, ?_⟩
    rw [hentry, Option.map_some, hv]
  · intro before i after k v hitems hk hv hafter
    rcases Option.map_eq_some_iff.mp hv with ⟨w, hw, hvw⟩
    rw [hm, h.complete before i after k w hitems hk hw, Option.map_some, hvw]
    intro later hlater hlk
    exact Option.map_eq_none_iff.mp (hafter later hlater hlk)

section
variable (name : item -> key) (entry : item -> Option value)

def fillStep (m : FiniteMap key value) (i : item) : FiniteMap key value :=
  insertSome m (name i) (entry i)

theorem lookup_fill_source (items : List item) (m : FiniteMap key value) {k : key} {v : value}
    (h : (items.foldl (fillStep name entry) m).lookup k = some v) :
    m.lookup k = some v ∨ exists i, i ∈ items ∧ name i = k ∧ entry i = some v := by
  induction items generalizing m with
  | nil => exact Or.inl h
  | cons i rest ih =>
      rcases ih _ h with hhead | ⟨j, hmem, hj⟩
      · by_cases hk : k = name i
        · unfold fillStep at hhead
          cases hentry : entry i with
          | none =>
              rw [hentry] at hhead
              exact Or.inl hhead
          | some w =>
              rw [hentry, hk] at hhead
              have hvw : w = v := Option.some.inj ((AList.lookup_insert m).symm.trans hhead)
              exact Or.inr ⟨i, List.mem_cons_self, hk.symm, hentry.trans (congrArg some hvw)⟩
        · exact Or.inl ((lookup_insertSome_ne _ hk).symm.trans hhead)
      · exact Or.inr ⟨j, List.mem_cons_of_mem _ hmem, hj⟩

theorem lookup_fill_kept (items : List item) (m : FiniteMap key value) {k : key}
    (h : forall i, i ∈ items -> name i = k -> entry i = none) :
    (items.foldl (fillStep name entry) m).lookup k = m.lookup k := by
  induction items generalizing m with
  | nil => rfl
  | cons i rest ih =>
      have hhead : (fillStep name entry m i).lookup k = m.lookup k := by
        by_cases hk : k = name i
        · unfold fillStep
          rw [h i List.mem_cons_self hk.symm]
          rfl
        · exact lookup_insertSome_ne _ hk
      rw [List.foldl_cons, ih _ (fun j hj => h j (List.mem_cons_of_mem _ hj))]
      exact hhead

theorem serves_fill (items : List item) :
    Serves (items.foldl (fillStep name entry) ∅) items (fun i => some (name i)) entry := by
  constructor
  · intro k v h
    rcases lookup_fill_source name entry items ∅ h with hnone | ⟨i, hmem, hk, hv⟩
    · cases hnone
    · exact ⟨i, hmem, congrArg some hk, hv⟩
  · intro before i after k v hitems hk hv hafter
    cases hk
    rw [hitems, List.foldl_append, List.foldl_cons, lookup_fill_kept name entry after]
    · unfold fillStep
      rw [hv]
      exact AList.lookup_insert _
    · intro later hlater hlk
      exact hafter later hlater (congrArg some hlk)

end

end FiniteMap
end Foundation
end CouchbaseSdk
