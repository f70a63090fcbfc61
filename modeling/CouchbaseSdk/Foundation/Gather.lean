import Mathlib.Data.List.Perm.Subperm
import Mathlib.Data.List.Count
import Mathlib.Data.List.Nodup
import Mathlib.Logic.Function.Basic

/-!
# Gathering what numbered owners hold

Owners are numbered below a bound and each holds a list.  Changing what one owner
holds changes the gathered list by exactly that much, up to order.
-/

namespace CouchbaseSdk
namespace Foundation

variable {item : Type}

def gather (n : Nat) (holds : Nat -> List item) : List item :=
  (List.range n).flatMap holds

theorem mem_gather {n : Nat} {holds : Nat -> List item} {x : item} :
    x ∈ gather n holds <-> exists i, i < n ∧ x ∈ holds i := by
  simp [gather]

theorem gather_succ (n : Nat) (holds : Nat -> List item) :
    gather (n + 1) holds = gather n holds ++ holds n := by
  simp [gather, List.range_succ]

theorem gather_congr {n : Nat} {holds holds' : Nat -> List item}
    (h : forall i, i < n -> holds i = holds' i) : gather n holds = gather n holds' := by
  apply List.flatMap_congr
  intro i hi
  exact h i (List.mem_range.mp hi)

theorem gather_perm_erase {n i : Nat} (holds : Nat -> List item) (hi : i < n) :
    (gather n holds).Perm (holds i ++ ((List.range n).erase i).flatMap holds) := by
  have hmem : i ∈ List.range n := List.mem_range.mpr hi
  exact (List.perm_cons_erase hmem).flatMap_right holds

theorem gather_update_of_ge {n i : Nat} (holds : Nat -> List item) (now : List item)
    (hi : n ≤ i) : gather n (Function.update holds i now) = gather n holds := by
  apply gather_congr
  intro j hj
  exact Function.update_of_ne (Nat.ne_of_lt (Nat.lt_of_lt_of_le hj hi)) ..

variable [DecidableEq item]

/-- What owner `i` held is exchanged for what it holds now. -/
theorem count_gather_update {n i : Nat} (holds : Nat -> List item) (now : List item)
    (hi : i < n) (x : item) :
    (gather n (Function.update holds i now)).count x + (holds i).count x =
      (gather n holds).count x + now.count x := by
  have hrest : ((List.range n).erase i).flatMap (Function.update holds i now) =
      ((List.range n).erase i).flatMap holds := by
    apply List.flatMap_congr
    intro j hj
    have hne : j ≠ i := ((List.nodup_range).mem_erase_iff.mp hj).1
    exact Function.update_of_ne hne ..
  have hold := (gather_perm_erase holds hi).count_eq x
  have hnew := (gather_perm_erase (Function.update holds i now) hi).count_eq x
  rw [hrest, Function.update_self] at hnew
  rw [List.count_append] at hold hnew
  omega

theorem subperm_of_count_le {l l' : List item} (h : forall x, l.count x ≤ l'.count x) :
    l.Subperm l' := by
  apply List.subperm_ext_iff.mpr
  intro x _
  exact h x

end Foundation
end CouchbaseSdk
