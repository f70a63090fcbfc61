import Mathlib.Algebra.BigOperators.Group.Finset.Basic
import Mathlib.Algebra.Order.Group.Multiset
import Mathlib.Data.Multiset.Sort

/-!
# The largest of a collection

The `k` largest elements of a multiset, and how they change when an element is added.
-/

namespace CouchbaseSdk
namespace Foundation

variable {α : Type _} [LinearOrder α]

/-- The `k` largest elements, or all where there are fewer. -/
def largest (k : Nat) (all : Multiset α) : Multiset α :=
  ((all.sort (fun a b => b ≤ a)).take k : List α)

/-- The elements that are kept, and no element that is left out is larger. -/
structure KeepsLargest (k : Nat) (kept all : Multiset α) : Prop where
  left : exists out, all = kept + out ∧ forall x, x ∈ kept -> forall y, y ∈ out -> y ≤ x
  card : kept.card = min k all.card

namespace KeepsLargest

variable {k : Nat} {kept all : Multiset α}

theorem empty (k : Nat) : KeepsLargest k (0 : Multiset α) 0 where
  left := ⟨0, rfl, fun _ hx => absurd hx (Multiset.notMem_zero _)⟩
  card := by simp

/-- The order of the elements that are kept, in front of the others. -/
theorem sort_eq_append {kept out : Multiset α}
    (hle : forall x, x ∈ kept -> forall y, y ∈ out -> y ≤ x) :
    (kept + out).sort (fun a b => b ≤ a) =
      kept.sort (fun a b => b ≤ a) ++ out.sort (fun a b => b ≤ a) := by
  have hsorted : (kept.sort (fun a b => b ≤ a) ++ out.sort (fun a b => b ≤ a)).Pairwise
      fun a b => b ≤ a := by
    rw [List.pairwise_append]
    refine ⟨Multiset.pairwise_sort _ _, Multiset.pairwise_sort _ _, ?_⟩
    intro x hx y hy
    exact hle x ((Multiset.mem_sort _).mp hx) y ((Multiset.mem_sort _).mp hy)
  have hperm : ((kept + out).sort (fun a b => b ≤ a)).Perm
      (kept.sort (fun a b => b ≤ a) ++ out.sort (fun a b => b ≤ a)) := by
    rw [← Multiset.coe_eq_coe, ← Multiset.coe_add, Multiset.sort_eq, Multiset.sort_eq,
      Multiset.sort_eq]
  exact hperm.eq_of_pairwise' (Multiset.pairwise_sort _ _) hsorted

/-- What keeps the largest is what the order says. -/
theorem eq_largest (h : KeepsLargest k kept all) : kept = largest k all := by
  rcases h.left with ⟨out, rfl, hle⟩
  have hcard := h.card
  rw [Multiset.card_add] at hcard
  unfold largest
  rw [sort_eq_append hle]
  by_cases hk : k ≤ kept.card + out.card
  · have hlength : (kept.sort fun a b => b ≤ a).length = k := by
      rw [Multiset.length_sort]
      omega
    rw [List.take_left' hlength, Multiset.sort_eq]
  · have hout : out = 0 := by
      rw [← Multiset.card_eq_zero]
      omega
    have hlength : (kept.sort fun a b => b ≤ a).length ≤ k := by
      rw [Multiset.length_sort]
      omega
    rw [hout, Multiset.sort_zero, List.append_nil, List.take_of_length_le hlength,
      Multiset.sort_eq]

/-- While fewer than `k` elements are kept, all are. -/
theorem eq_all (h : KeepsLargest k kept all) (hroom : kept.card < k) : kept = all := by
  rcases h.left with ⟨out, rfl, _⟩
  have hcard := h.card
  rw [Multiset.card_add] at hcard
  have hout : out = 0 := by
    rw [← Multiset.card_eq_zero]
    omega
  rw [hout, add_zero]

/-- An element for which there is room is kept. -/
theorem push (h : KeepsLargest k kept all) (hroom : kept.card < k) (a : α) :
    KeepsLargest k (a ::ₘ kept) (a ::ₘ all) := by
  have hall := h.eq_all hroom
  rw [hall] at hroom ⊢
  constructor
  · exact ⟨0, (add_zero _).symm, fun _ _ _ hy => absurd hy (Multiset.notMem_zero _)⟩
  · rw [Multiset.card_cons]
    omega

/-- An element that is no larger than any that is kept is left out. -/
theorem skip (h : KeepsLargest k kept all) (hfull : k ≤ kept.card) {a : α}
    (hle : forall x, x ∈ kept -> a ≤ x) : KeepsLargest k kept (a ::ₘ all) := by
  rcases h.left with ⟨out, hall, hout⟩
  have hcard := h.card
  constructor
  · refine ⟨a ::ₘ out, ?_, ?_⟩
    · rw [hall, Multiset.add_cons]
    · intro x hx y hy
      rcases Multiset.mem_cons.mp hy with rfl | hmem
      · exact hle x hx
      · exact hout x hx y hmem
  · rw [Multiset.card_cons]
    omega

/-- A larger element takes the place of a least one. -/
theorem replace {rest : Multiset α} {a least : α} (h : KeepsLargest k (least ::ₘ rest) all)
    (hfull : k ≤ (least ::ₘ rest).card) (hleast : forall x, x ∈ rest -> least ≤ x)
    (ha : least < a) : KeepsLargest k (a ::ₘ rest) (a ::ₘ all) := by
  rcases h.left with ⟨out, hall, hout⟩
  have hcard := h.card
  rw [Multiset.card_cons] at hfull hcard
  constructor
  · refine ⟨least ::ₘ out, ?_, ?_⟩
    · rw [hall, Multiset.cons_add, Multiset.cons_add, Multiset.add_cons]
    · intro x hx y hy
      have habove : least ≤ x ∧ forall z, z ∈ out -> z ≤ x := by
        rcases Multiset.mem_cons.mp hx with rfl | hmem
        · have hleastOut := hout least (Multiset.mem_cons_self least rest)
          exact ⟨le_of_lt ha, fun z hz => le_trans (hleastOut z hz) (le_of_lt ha)⟩
        · exact ⟨hleast x hmem, hout x (Multiset.mem_cons_of_mem hmem)⟩
      rcases Multiset.mem_cons.mp hy with rfl | hy
      · exact habove.1
      · exact habove.2 y hy
  · rw [Multiset.card_cons, Multiset.card_cons]
    omega

end KeepsLargest

/-!
# Sums over a family of which one member changes
-/

variable {ι β M : Type _} [Fintype ι] [DecidableEq ι] [AddCommMonoid M]

theorem sum_update (weight : ι -> β -> M) (f : ι -> β) (i : ι) (b : β) :
    (Finset.univ.sum fun j => weight j (Function.update f i b j)) + weight i (f i) =
      (Finset.univ.sum fun j => weight j (f j)) + weight i b := by
  have hmem := Finset.mem_univ i
  rw [← Finset.sum_erase_add _ _ hmem,
    ← Finset.sum_erase_add Finset.univ (fun j => weight j (f j)) hmem]
  have hrest : (Finset.univ.erase i).sum (fun j => weight j (Function.update f i b j)) =
      (Finset.univ.erase i).sum fun j => weight j (f j) := by
    apply Finset.sum_congr rfl
    intro j hj
    rw [Function.update_of_ne (Finset.ne_of_mem_erase hj)]
  rw [hrest, Function.update_self, add_assoc, add_assoc, add_comm (weight i b)]

end Foundation
end CouchbaseSdk
