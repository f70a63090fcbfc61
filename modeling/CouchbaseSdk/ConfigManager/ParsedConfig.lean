import Mathlib.Data.Int.Order.Basic
import Mathlib.Data.Prod.Lex
import Mathlib.Order.Compare

/-!
# Configs and their versions

A cluster config carries a revision, which is an epoch and an id, and the bucket it is
for.  The comparison is written by hand in the source; it is the lexicographic order
of epoch and id.
-/

namespace CouchbaseSdk
namespace ConfigManager

inductive BucketType where
  | invalid
  | couchbase
deriving DecidableEq

structure ParsedConfigBucket where
  bucketUuid : String
  bucketType : BucketType
deriving DecidableEq

structure ParsedConfig where
  revId : Int
  revEpoch : Int
  bucket : Option ParsedConfigBucket
deriving DecidableEq

structure ConfigVersion where
  revEpoch : Int
  revId : Int
deriving DecidableEq

/-- A config of the first epoch, with no bucket. -/
def ParsedConfig.ofRev (revId : Int) : ParsedConfig :=
  { revId := revId, revEpoch := 1, bucket := none }

def ParsedConfig.version (config : ParsedConfig) : ConfigVersion :=
  { revEpoch := config.revEpoch, revId := config.revId }

/-- The epoch decides, and the id among revisions of one epoch. -/
def ConfigVersion.rank (v : ConfigVersion) : Int ×ₗ Int :=
  toLex (v.revEpoch, v.revId)

def ParsedConfig.partialCmp (self other : ParsedConfig) : Option Ordering :=
  match compare self.revEpoch other.revEpoch with
  | .lt => some .lt
  | .gt => some .gt
  | .eq =>
      match compare self.revId other.revId with
      | .lt => some .lt
      | .gt => some .gt
      | .eq => some .eq

def bucketTypeChanged : Option ParsedConfigBucket -> Option ParsedConfigBucket -> Bool
  | none, none => false
  | some _, none => true
  | none, some _ => true
  | some a, some b => a.bucketType != b.bucketType

def canUpdateConfig (newConfig oldConfig : ParsedConfig) : Bool :=
  if bucketTypeChanged newConfig.bucket oldConfig.bucket then true
  else
    match newConfig.partialCmp oldConfig with
    | some .lt => false
    | some .eq => false
    | some .gt => true
    | none => false

/-!
# The comparison is lexicographic
-/

theorem rank_lt_iff (v w : ConfigVersion) :
    v.rank < w.rank <->
      v.revEpoch < w.revEpoch ∨ v.revEpoch = w.revEpoch ∧ v.revId < w.revId :=
  Prod.Lex.toLex_lt_toLex

theorem partialCmp_eq_compare (a b : ParsedConfig) :
    a.partialCmp b = some (compare a.version.rank b.version.rank) := by
  unfold ParsedConfig.partialCmp
  cases hepoch : compare a.revEpoch b.revEpoch with
  | lt =>
      have hlt : a.version.rank < b.version.rank :=
        (rank_lt_iff _ _).mpr (Or.inl (compare_lt_iff_lt.mp hepoch))
      rw [compare_lt_iff_lt.mpr hlt]
  | gt =>
      have hlt : b.version.rank < a.version.rank :=
        (rank_lt_iff _ _).mpr (Or.inl (compare_gt_iff_gt.mp hepoch))
      rw [compare_gt_iff_gt.mpr hlt]
  | eq =>
      have heq := compare_eq_iff_eq.mp hepoch
      cases hid : compare a.revId b.revId with
      | lt =>
          have hlt : a.version.rank < b.version.rank :=
            (rank_lt_iff _ _).mpr (Or.inr ⟨heq, compare_lt_iff_lt.mp hid⟩)
          rw [compare_lt_iff_lt.mpr hlt]
      | gt =>
          have hlt : b.version.rank < a.version.rank :=
            (rank_lt_iff _ _).mpr (Or.inr ⟨heq.symm, compare_gt_iff_gt.mp hid⟩)
          rw [compare_gt_iff_gt.mpr hlt]
      | eq =>
          have hsame : a.version.rank = b.version.rank := by
            unfold ParsedConfig.version ConfigVersion.rank
            rw [heq, compare_eq_iff_eq.mp hid]
          rw [compare_eq_iff_eq.mpr hsame]

/-- A config replaces another one if it changes the type of the bucket or is newer. -/
theorem canUpdateConfig_iff (newConfig oldConfig : ParsedConfig) :
    canUpdateConfig newConfig oldConfig = true <->
      bucketTypeChanged newConfig.bucket oldConfig.bucket = true ∨
        oldConfig.version.rank < newConfig.version.rank := by
  unfold canUpdateConfig
  rw [partialCmp_eq_compare]
  by_cases hchanged : bucketTypeChanged newConfig.bucket oldConfig.bucket = true
  · rw [if_pos hchanged]
    exact ⟨fun _ => Or.inl hchanged, fun _ => rfl⟩
  · rw [if_neg hchanged]
    rw [← compare_gt_iff_gt]
    cases compare newConfig.version.rank oldConfig.version.rank with
    | _ => simp [hchanged]

/-- A config does not replace itself. -/
theorem canUpdateConfig_self (config : ParsedConfig) :
    canUpdateConfig config config = false := by
  refine Bool.eq_false_iff.mpr (fun h => ?_)
  rcases (canUpdateConfig_iff config config).mp h with hchanged | hlt
  · unfold bucketTypeChanged at hchanged
    cases hbucket : config.bucket with
    | none =>
        rw [hbucket] at hchanged
        cases hchanged
    | some bucket =>
        rw [hbucket] at hchanged
        exact bne_iff_ne.mp hchanged rfl
  · exact lt_irrefl _ hlt

end ConfigManager
end CouchbaseSdk
