import CouchbaseSdk.Foundation.Exec
import Mathlib.Data.List.Nodup
import Mathlib.Data.List.Perm.Basic

/-!
# Reordering and putting back

Items are sorted into two classes and keep the places they came from.  What is computed of each
of them, in the new order, is then put back where it belongs.
-/

namespace CouchbaseSdk
namespace Foundation
namespace Places

variable {error item result entry : Type}

/-!
# The order
-/

/-- The items of the first class and then the others, each with the place it had. -/
def classes (first : item -> Bool) (items : List item) : List (item × Nat) :=
  items.zipIdx.filter (fun p => first p.1) ++ items.zipIdx.filter fun p => ! first p.1

/-- Every item is there once, the first class comes first, and within a class nothing changes
its order. -/
structure StableOrder (first : item -> Bool) (items : List item)
    (ordered : List (item × Nat)) : Prop where
  perm : ordered.Perm items.zipIdx
  sorted : ordered.Pairwise fun p q =>
    first p.1 = true ∧ first q.1 = false ∨ first p.1 = first q.1 ∧ p.2 < q.2

theorem pairwise_places (items : List item) :
    items.zipIdx.Pairwise fun p q => p.2 < q.2 := by
  rw [← List.pairwise_map, List.zipIdx_map_snd]
  exact List.pairwise_lt_range'

theorem stableOrder_classes (first : item -> Bool) (items : List item) :
    StableOrder first items (classes first items) := by
  constructor
  · exact List.filter_append_perm _ _
  · apply List.pairwise_append.mpr
    refine ⟨?_, ?_, ?_⟩
    · apply ((pairwise_places items).filter _).imp_of_mem
      intro p q hp hq hlt
      have hp' := (List.mem_filter.mp hp).2
      have hq' := (List.mem_filter.mp hq).2
      exact Or.inr ⟨hp'.trans hq'.symm, hlt⟩
    · apply ((pairwise_places items).filter _).imp_of_mem
      intro p q hp hq hlt
      have hp' := Bool.not_eq_true' _ ▸ (List.mem_filter.mp hp).2
      have hq' := Bool.not_eq_true' _ ▸ (List.mem_filter.mp hq).2
      exact Or.inr ⟨hp'.trans hq'.symm, hlt⟩
    · intro p hp q hq
      exact Or.inl ⟨(List.mem_filter.mp hp).2,
        Bool.not_eq_true' _ ▸ (List.mem_filter.mp hq).2⟩

namespace StableOrder

variable {first : item -> Bool} {items : List item} {ordered : List (item × Nat)}

theorem length (h : StableOrder first items ordered) : ordered.length = items.length := by
  rw [h.perm.length_eq, List.length_zipIdx]

/-- The places are those of the items. -/
theorem places (h : StableOrder first items ordered) :
    (ordered.map Prod.snd).Perm (List.range items.length) := by
  have hplaces := h.perm.map Prod.snd
  rwa [List.zipIdx_map_snd, ← List.range_eq_range'] at hplaces

theorem mem_iff (h : StableOrder first items ordered) {x : item} {k : Nat} :
    (x, k) ∈ ordered <-> items[k]? = some x := by
  rw [h.perm.mem_iff, List.mk_mem_zipIdx_iff_getElem?]

end StableOrder

/-!
# Putting back
-/

/-- `entries[places[i]] = Some(..)` for each result, in turn; a place that is not there is a
panic. -/
def place (ordered : List (item × Nat)) (entryOf : item -> result -> entry) :
    Nat -> List result -> List (Option entry) -> Exec error (List (Option entry))
  | _, [], entries => .ok entries
  | i, r :: results, entries =>
      match ordered[i]? with
      | none => .panic
      | some (x, originalIdx) =>
          if originalIdx < entries.length then
            place ordered entryOf (i + 1) results
              (entries.set originalIdx (some (entryOf x r)))
          else .panic

/-- `unwrap` of each entry. -/
def unwrapAll : List (Option entry) -> Exec error (List entry)
  | [] => .ok []
  | some e :: entries => (unwrapAll entries).map fun es => e :: es
  | none :: _ => .panic

/-- As many entries as there are items. -/
def placeAll (ordered : List (item × Nat)) (entryOf : item -> result -> entry)
    (results : List result) : Exec error (List entry) :=
  place ordered entryOf 0 results (List.replicate ordered.length none) >>= unwrapAll

/-- Each result is at the place of its item. -/
structure InPlaces (ordered : List (item × Nat)) (entryOf : item -> result -> entry)
    (results : List result) (entries : List entry) : Prop where
  length : entries.length = ordered.length
  entry : forall (i : Nat) (x : item) (k : Nat) (r : result), ordered[i]? = some (x, k) ->
    results[i]? = some r -> entries[k]? = some (entryOf x r)

/-!
# What is put back
-/

section Placing

variable {ordered : List (item × Nat)} {entryOf : item -> result -> entry}

theorem unwrapAll_map_some (entries : List entry) :
    (unwrapAll (entries.map some) : Exec error _) = .ok entries := by
  induction entries with
  | nil => rfl
  | cons e entries ih =>
      rw [List.map_cons, unwrapAll, ih]
      rfl

theorem unwrapAll_none {entries : List (Option entry)} (h : none ∈ entries) :
    (unwrapAll entries : Exec error _) = .panic := by
  induction entries with
  | nil => cases h
  | cons e entries ih =>
      cases e with
      | none => rfl
      | some e =>
          rw [unwrapAll, ih (List.mem_of_ne_of_mem (Option.some_ne_none e).symm h)]
          rfl

theorem exists_map_some {entries : List (Option entry)} (h : none ∉ entries) :
    exists es : List entry, entries = es.map some := by
  induction entries with
  | nil => exact ⟨[], rfl⟩
  | cons e entries ih =>
      rcases ih fun hmem => h (List.mem_cons_of_mem _ hmem) with ⟨es, rfl⟩
      cases e with
      | none => exact absurd List.mem_cons_self h
      | some e => exact ⟨e :: es, rfl⟩

/-- The writes of the results, in turn. -/
def writes (entryOf : item -> result -> entry) :
    List ((item × Nat) × result) -> List (Option entry) -> List (Option entry)
  | [], entries => entries
  | p :: ps, entries => writes entryOf ps (entries.set p.1.2 (some (entryOf p.1.1 p.2)))

@[simp] theorem length_writes (ps : List ((item × Nat) × result))
    (entries : List (Option entry)) : (writes entryOf ps entries).length = entries.length := by
  induction ps generalizing entries with
  | nil => rfl
  | cons p ps ih =>
      rw [writes, ih, List.length_set]

theorem writes_not_mem {k : Nat} {ps : List ((item × Nat) × result)}
    {entries : List (Option entry)} (h : forall p, p ∈ ps -> p.1.2 ≠ k) :
    (writes entryOf ps entries)[k]? = entries[k]? := by
  induction ps generalizing entries with
  | nil => rfl
  | cons p ps ih =>
      rw [writes, ih fun q hq => h q (List.mem_cons_of_mem _ hq),
        List.getElem?_set_ne (h p List.mem_cons_self)]

theorem writes_mem {p : (item × Nat) × result} {ps : List ((item × Nat) × result)}
    {entries : List (Option entry)} (hnodup : (ps.map fun q => q.1.2).Nodup) (hp : p ∈ ps)
    (hlt : p.1.2 < entries.length) :
    (writes entryOf ps entries)[p.1.2]? = some (some (entryOf p.1.1 p.2)) := by
  induction ps generalizing entries with
  | nil => cases hp
  | cons q ps ih =>
      rw [List.map_cons, List.nodup_cons] at hnodup
      rw [writes]
      rcases List.mem_cons.mp hp with rfl | hp
      · rw [writes_not_mem, List.getElem?_set_self hlt]
        intro r hr hsame
        exact hnodup.1 (List.mem_map.mpr ⟨r, hr, hsame⟩)
      · apply ih hnodup.2 hp
        rwa [List.length_set]

/-- As long as there are items, every result is written. -/
theorem place_eq_writes {i : Nat} {results : List result} {entries : List (Option entry)}
    (hplaces : forall p, p ∈ ordered -> p.2 < entries.length)
    (hlength : i + results.length ≤ ordered.length) :
    (place ordered entryOf i results entries : Exec error _) =
      .ok (writes entryOf ((ordered.drop i).zip results) entries) := by
  induction results generalizing i entries with
  | nil =>
      rw [List.zip_nil_right]
      rfl
  | cons r results ih =>
      rw [List.length_cons] at hlength
      have hi : i < ordered.length := by omega
      have hlt : ordered[i].2 < entries.length := hplaces _ (List.getElem_mem hi)
      rw [place, List.getElem?_eq_getElem hi]
      dsimp only
      rw [if_pos hlt, ih (by simpa using hplaces) (by omega), List.drop_eq_getElem_cons hi]
      rfl

/-- A result without an item is a panic. -/
theorem place_panic {i : Nat} {results : List result} {entries : List (Option entry)}
    (hi : i ≤ ordered.length) (hlength : ordered.length < i + results.length) :
    (place ordered entryOf i results entries : Exec error _) = .panic := by
  induction results generalizing i entries with
  | nil =>
      rw [List.length_nil] at hlength
      omega
  | cons r results ih =>
      rw [List.length_cons] at hlength
      rw [place]
      split
      · rfl
      · rename_i heq
        have hlt : i < ordered.length := (List.getElem?_eq_some_iff.mp heq).1
        split
        · exact ih (by omega) (by omega)
        · rfl

theorem places_lt {p : item × Nat}
    (hperm : (ordered.map Prod.snd).Perm (List.range ordered.length)) (hp : p ∈ ordered) :
    p.2 < ordered.length :=
  List.mem_range.mp (hperm.mem_iff.mp (List.mem_map_of_mem hp))

/-- An item is there once. -/
theorem index_unique {i i' : Nat} {p : item × Nat}
    (hperm : (ordered.map Prod.snd).Perm (List.range ordered.length))
    (h : ordered[i]? = some p) (h' : ordered[i']? = some p) : i = i' := by
  have hnodup : ordered.Nodup :=
    List.Nodup.of_map Prod.snd (hperm.nodup_iff.mpr List.nodup_range)
  exact (List.getElem?_inj (List.getElem?_eq_some_iff.mp h).1 hnodup).mp (h.trans h'.symm)

theorem exists_place {k : Nat}
    (hperm : (ordered.map Prod.snd).Perm (List.range ordered.length)) (hk : k < ordered.length) :
    exists (i : Nat) (x : item), ordered[i]? = some (x, k) := by
  rcases List.mem_map.mp (hperm.mem_iff.mpr (List.mem_range.mpr hk)) with ⟨p, hp, rfl⟩
  rcases List.getElem?_of_mem hp with ⟨i, hi⟩
  exact ⟨i, p.1, hi⟩

/-- The places of the items that have a result. -/
theorem places_zip (results : List result) :
    (ordered.zip results).map (fun q => q.1.2) =
      (ordered.take results.length).map Prod.snd := by
  induction ordered generalizing results with
  | nil => simp
  | cons p ordered ih =>
      cases results with
      | nil => rfl
      | cons r results =>
          rw [List.zip_cons_cons, List.map_cons, ih, List.length_cons, List.take_succ_cons,
            List.map_cons]

theorem placeAll_eq {results : List result}
    (hperm : (ordered.map Prod.snd).Perm (List.range ordered.length))
    (hlength : results.length ≤ ordered.length) :
    (placeAll ordered entryOf results : Exec error _) =
      unwrapAll (writes entryOf (ordered.zip results)
        (List.replicate ordered.length none)) := by
  have hplaces : forall p, p ∈ ordered ->
      p.2 < (List.replicate ordered.length (none : Option entry)).length := by
    intro p hp
    rw [List.length_replicate]
    exact places_lt hperm hp
  unfold placeAll
  rw [place_eq_writes hplaces (by omega)]
  rfl

/-- One result for each item: each of them is put at its place. -/
theorem placeAll_ok {results : List result}
    (hperm : (ordered.map Prod.snd).Perm (List.range ordered.length))
    (hlength : results.length = ordered.length) :
    exists entries, (placeAll ordered entryOf results : Exec error _) = .ok entries ∧
      InPlaces ordered entryOf results entries := by
  have hnodup : ((ordered.zip results).map fun q => q.1.2).Nodup := by
    rw [places_zip, hlength, List.take_length]
    exact hperm.nodup_iff.mpr List.nodup_range
  have hwritten : forall (i : Nat) (x : item) (k : Nat) (r : result),
      ordered[i]? = some (x, k) -> results[i]? = some r ->
        (writes entryOf (ordered.zip results) (List.replicate ordered.length none))[k]? =
          some (some (entryOf x r)) := by
    intro i x k r hx hr
    have hmem : ((x, k), r) ∈ ordered.zip results :=
      List.mem_of_getElem? (List.getElem?_zip_eq_some.mpr ⟨hx, hr⟩)
    apply writes_mem hnodup hmem
    rw [List.length_replicate]
    exact places_lt hperm (List.mem_of_getElem? hx)
  have hall : none ∉ writes entryOf (ordered.zip results)
      (List.replicate ordered.length none) := by
    intro hmem
    rcases List.getElem?_of_mem hmem with ⟨k, hk⟩
    have hlt := (List.getElem?_eq_some_iff.mp hk).1
    rw [length_writes, List.length_replicate] at hlt
    rcases exists_place hperm hlt with ⟨i, x, hx⟩
    have hi : i < results.length := hlength ▸ (List.getElem?_eq_some_iff.mp hx).1
    have hsome := hwritten i x k results[i] hx (List.getElem?_eq_getElem hi)
    rw [hk] at hsome
    cases hsome
  rcases exists_map_some hall with ⟨entries, hentries⟩
  refine ⟨entries, ?_, ?_, ?_⟩
  · rw [placeAll_eq hperm (Nat.le_of_eq hlength), hentries, unwrapAll_map_some]
  · have hlen := congrArg List.length hentries
    rw [length_writes, List.length_replicate, List.length_map] at hlen
    exact hlen.symm
  · intro i x k r hx hr
    have hsome := hwritten i x k r hx hr
    rw [hentries, List.getElem?_map, Option.map_eq_some_iff] at hsome
    rcases hsome with ⟨e, he, heq⟩
    rw [he, Option.some.inj heq]

/-- Any other number of results is a panic. -/
theorem placeAll_panic {results : List result}
    (hperm : (ordered.map Prod.snd).Perm (List.range ordered.length))
    (hlength : results.length ≠ ordered.length) :
    (placeAll ordered entryOf results : Exec error _) = .panic := by
  rcases Nat.lt_or_gt_of_ne hlength with hless | hmore
  · -- the item behind the results has nothing at its place
    rw [placeAll_eq hperm (Nat.le_of_lt hless)]
    apply unwrapAll_none
    have hnodup : (ordered.map Prod.snd).Nodup := hperm.nodup_iff.mpr List.nodup_range
    have hplace : ordered[results.length].2 < ordered.length :=
      places_lt hperm (List.getElem_mem hless)
    have hempty : (writes entryOf (ordered.zip results)
        (List.replicate ordered.length none))[ordered[results.length].2]? = some none := by
      rw [writes_not_mem, List.getElem?_replicate_of_lt hplace]
      intro p hp hsame
      have hmem : p.1.2 ∈ (ordered.take results.length).map Prod.snd := by
        rw [← places_zip]
        exact List.mem_map_of_mem (f := fun q => q.1.2) hp
      rw [List.map_take, List.mem_take_iff_getElem] at hmem
      rcases hmem with ⟨i, hi, heq⟩
      have hless' : results.length < (ordered.map Prod.snd).length := by
        rw [List.length_map]
        exact hless
      have hsecond : (ordered.map Prod.snd)[results.length] = p.1.2 := by
        rw [List.getElem_map, hsame]
      have hindex := (List.Nodup.getElem_inj_iff hnodup).mp (heq.trans hsecond.symm)
      omega
    exact List.mem_of_getElem? hempty
  · unfold placeAll
    rw [place_panic (Nat.zero_le _) (by omega)]
    rfl

theorem placeAll_returns_iff {results : List result}
    (hperm : (ordered.map Prod.snd).Perm (List.range ordered.length)) :
    (placeAll ordered entryOf results : Exec error _).Returns <->
      results.length = ordered.length := by
  by_cases hlength : results.length = ordered.length
  · rcases @placeAll_ok error _ _ _ _ entryOf results hperm hlength with ⟨entries, heq, _⟩
    rw [heq]
    exact iff_of_true trivial hlength
  · rw [placeAll_panic hperm hlength]
    exact iff_of_false id hlength

end Placing

end Places
end Foundation
end CouchbaseSdk
