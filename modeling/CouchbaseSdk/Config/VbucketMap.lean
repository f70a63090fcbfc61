import Mathlib.Algebra.Group.Nat.Defs
import Mathlib.Data.List.Basic

/-!
# Vbucket maps

A map has one row for each vbucket: the positions in the server list of the active copy and
of the replicas, or a negative number where there is none.
-/

namespace CouchbaseSdk
namespace Config

/-- Why a key, a vbucket or a replica has no endpoint. -/
inductive ErrorKind where
  | noBucket
  | noVbucketMap
  | invalidReplica (requestedReplica : UInt32) (numServers : Nat)
  | invalidVbucket (requestedVbId : UInt16) (numVbuckets : Nat)
  | noServerAssigned (requestedVbId : UInt16)
  | message (text : String)
deriving DecidableEq, Repr

structure VbucketMap where
  entries : List (List Int16)
  numReplicas : Nat
deriving DecidableEq, Repr

def VbucketMap.new (entries : List (List Int16)) (numReplicas : Nat) :
    Except ErrorKind VbucketMap :=
  if entries.isEmpty then .error (.message "vbucket map must have at least a single entry")
  else .ok { entries := entries, numReplicas := numReplicas }

/-!
# Checksums
-/

def crc32Bit (crc : UInt32) : UInt32 :=
  if crc &&& 1 = 1 then (crc >>> 1) ^^^ 0xEDB88320 else crc >>> 1

def crc32Byte (crc : UInt32) (byte : UInt8) : UInt32 :=
  (List.range 8).foldl (fun crc _ => crc32Bit crc) (crc ^^^ byte.toUInt32)

/-- `crc32fast::hash`, the checksum of IEEE 802.3. -/
def crc32 (key : List UInt8) : UInt32 :=
  key.foldl crc32Byte 0xFFFFFFFF ^^^ 0xFFFFFFFF

/-!
# Lookups
-/

/-- The remainder by zero panics, for a number of entries that is a multiple of `2 ^ 16`. -/
def VbucketMap.vbucketByKey (m : VbucketMap) (key : List UInt8) : Option UInt16 :=
  let midBits := (crc32 key >>> 16).toUInt16 &&& 0x7fff
  let size := UInt16.ofNat m.entries.length
  if size = 0 then none else some (midBits % size)

def VbucketMap.nodeByVbucket (m : VbucketMap) (vbId : UInt16) (vbServerIdx : UInt32) :
    Except ErrorKind Int16 :=
  let numServers := UInt32.ofNat m.numReplicas + 1
  if vbServerIdx > numServers then
    .error (.invalidReplica vbServerIdx numServers.toNat)
  else
    match m.entries[vbId.toNat]? with
    | some idx =>
        match idx[vbServerIdx.toNat]? with
        | some id => .ok id
        | none => .ok (-1)
    | none => .error (.invalidVbucket vbId m.entries.length)

/-- The vbucket of a key is one of the map. -/
theorem vbucketByKey_lt {m : VbucketMap} {key : List UInt8} {vbId : UInt16}
    (h : m.vbucketByKey key = some vbId) : vbId.toNat < m.entries.length := by
  unfold VbucketMap.vbucketByKey at h
  dsimp only at h
  split at h
  · cases h
  · rename_i hsize
    cases h
    have hpos : 0 < (UInt16.ofNat m.entries.length).toNat :=
      Nat.pos_of_ne_zero (fun hzero => hsize (UInt16.toNat_inj.mp hzero))
    have hle : (UInt16.ofNat m.entries.length).toNat ≤ m.entries.length := by
      rw [UInt16.toNat_ofNat']
      exact Nat.mod_le _ _
    rw [UInt16.toNat_mod]
    exact Nat.lt_of_lt_of_le (Nat.mod_lt _ hpos) hle

example : VbucketMap.vbucketByKey ⟨List.replicate 13 [], 1⟩ [104, 101, 108, 108, 111] =
    some 0x0008 := by decide +kernel

/-!
# The vbucket of a key and the nodes of a vbucket

The number of rows is narrowed to 16 bits before the remainder is taken, and a replica is
compared with the number of servers, so the row behind the last replica is asked for as well.
-/

/-- The 15 bits of the checksum that choose the vbucket. -/
def midBits (key : List UInt8) : Nat :=
  (crc32 key >>> 16 &&& 0x7fff).toNat

/-- `node_by_vbucket` in a build with or without overflow checks.  `none` says that the call
panics: the number of servers is counted in 32 bits. -/
def VbucketMap.nodeByVbucketIn (overflowChecks : Bool) (m : VbucketMap) (vbId : UInt16)
    (vbServerIdx : UInt32) : Option (Except ErrorKind Int16) :=
  if overflowChecks ∧ UInt32.ofNat m.numReplicas = 0xFFFFFFFF then none
  else some (m.nodeByVbucket vbId vbServerIdx)

section Spec

variable (overflowChecks : Bool) (m : VbucketMap) (key : List UInt8) (vbServerIdx : UInt32)

/-- There is no such copy in the map. -/
def RejectsReplica (vbId : UInt16) : Prop :=
  exists requested servers, m.nodeByVbucketIn overflowChecks vbId vbServerIdx =
    some (.error (.invalidReplica requested servers))

structure SelectsVbucket : Prop where
  selected : exists vbId, m.vbucketByKey key = some vbId ∧
    vbId.toNat = midBits key % m.entries.length
  known : forall vbId, m.vbucketByKey key = some vbId -> forall requested vbuckets,
    m.nodeByVbucketIn overflowChecks vbId vbServerIdx ≠
      some (.error (.invalidVbucket requested vbuckets))
  replica : forall vbId, RejectsReplica overflowChecks m vbServerIdx vbId <->
    m.numReplicas < vbServerIdx.toNat
  node : forall (vbId : UInt16) entry, m.entries[vbId.toNat]? = some entry ->
    vbServerIdx.toNat ≤ m.numReplicas ->
      m.nodeByVbucketIn overflowChecks vbId vbServerIdx =
        some (.ok (entry[vbServerIdx.toNat]?.getD (-1)))

/-- The narrowed number of rows has the same remainder. -/
def RowsFit : Prop :=
  m.entries.length < 2 ^ 16 ∨ midBits key < m.entries.length % 2 ^ 16

/-- It is not the copy behind the last replica that is asked for, and where the number of
servers does not fit 32 bits, its remainder is large enough. -/
def ReplicaFits : Prop :=
  (m.numReplicas + 1 < 2 ^ 32 ∧ vbServerIdx.toNat ≠ m.numReplicas + 1) ∨
    (2 ^ 32 ≤ m.numReplicas + 1 ∧ vbServerIdx.toNat ≤ (m.numReplicas + 1) % 2 ^ 32 ∧
      (overflowChecks = true -> (m.numReplicas + 1) % 2 ^ 32 ≠ 0))

end Spec

/-!
# The vbucket of a key
-/

theorem midBits_lt (key : List UInt8) : midBits key < 2 ^ 16 := by
  unfold midBits
  rw [UInt32.toNat_and]
  exact Nat.lt_of_le_of_lt Nat.and_le_right (by decide)

theorem toNat_midBits (key : List UInt8) :
    ((crc32 key >>> 16).toUInt16 &&& 0x7fff).toNat = midBits key := by
  have hhigh : (crc32 key >>> 16).toNat < 2 ^ 16 := by
    rw [UInt32.toNat_shiftRight, Nat.shiftRight_eq_div_pow]
    exact Nat.div_lt_of_lt_mul (crc32 key).toNat_lt
  unfold midBits
  rw [UInt16.toNat_and, UInt32.toNat_and, UInt32.toNat_toUInt16, Nat.mod_eq_of_lt hhigh]
  rfl

theorem vbucketByKey_eq_none {m : VbucketMap} {key : List UInt8}
    (h : m.entries.length % 2 ^ 16 = 0) : m.vbucketByKey key = none := by
  have hsize : UInt16.ofNat m.entries.length = 0 := by
    apply UInt16.toNat_inj.mp
    rw [UInt16.toNat_ofNat']
    exact h
  unfold VbucketMap.vbucketByKey
  dsimp only
  rw [if_pos hsize]

theorem vbucketByKey_eq_some {m : VbucketMap} {key : List UInt8}
    (h : m.entries.length % 2 ^ 16 ≠ 0) :
    exists vbId, m.vbucketByKey key = some vbId ∧
      vbId.toNat = midBits key % (m.entries.length % 2 ^ 16) := by
  have hsize : UInt16.ofNat m.entries.length ≠ 0 := by
    intro hzero
    apply h
    rw [← UInt16.toNat_ofNat', hzero]
    rfl
  unfold VbucketMap.vbucketByKey
  dsimp only
  rw [if_neg hsize]
  refine ⟨_, rfl, ?_⟩
  rw [UInt16.toNat_mod, toNat_midBits, UInt16.toNat_ofNat']

/-- The remainder is the one of the claimed formula where the rows fit. -/
theorem selected_iff_rowsFit {m : VbucketMap} (hentries : m.entries ≠ []) (key : List UInt8) :
    (exists vbId, m.vbucketByKey key = some vbId ∧
      vbId.toNat = midBits key % m.entries.length) <-> RowsFit m key := by
  have hpos : 0 < m.entries.length := List.length_pos_iff.mpr hentries
  have hbits := midBits_lt key
  unfold RowsFit
  by_cases hzero : m.entries.length % 2 ^ 16 = 0
  · rw [vbucketByKey_eq_none hzero]
    constructor
    · rintro ⟨vbId, hnone, _⟩
      cases hnone
    · intro hfits
      omega
  · rcases @vbucketByKey_eq_some m key hzero with ⟨vbId, hsome, hvalue⟩
    have hselected : (exists vbId, m.vbucketByKey key = some vbId ∧
        vbId.toNat = midBits key % m.entries.length) <->
        midBits key % (m.entries.length % 2 ^ 16) = midBits key % m.entries.length := by
      constructor
      · rintro ⟨vbId', hsome', hvalue'⟩
        cases hsome.symm.trans hsome'
        exact hvalue.symm.trans hvalue'
      · intro heq
        exact ⟨vbId, hsome, hvalue.trans heq⟩
    rw [hselected]
    by_cases hsmall : m.entries.length < 2 ^ 16
    · rw [Nat.mod_eq_of_lt hsmall]
      exact iff_of_true rfl (Or.inl hsmall)
    · have hlong : midBits key < m.entries.length :=
        Nat.lt_of_lt_of_le hbits (Nat.not_lt.mp hsmall)
      rw [Nat.mod_eq_of_lt hlong]
      constructor
      · intro heq
        rw [← heq]
        exact Or.inr (Nat.mod_lt _ (Nat.pos_of_ne_zero hzero))
      · rintro (hshort | hlt)
        · exact absurd hshort hsmall
        · exact Nat.mod_eq_of_lt hlt

/-!
# The copies of a vbucket
-/

theorem numServers_toNat (numReplicas : Nat) :
    (UInt32.ofNat numReplicas + 1).toNat = (numReplicas + 1) % 2 ^ 32 := by
  rw [UInt32.toNat_add, UInt32.toNat_ofNat']
  exact Nat.mod_add_mod numReplicas (2 ^ 32) 1

theorem numServers_panics_iff (numReplicas : Nat) :
    UInt32.ofNat numReplicas = 0xFFFFFFFF <-> (numReplicas + 1) % 2 ^ 32 = 0 := by
  rw [← UInt32.toNat_inj, UInt32.toNat_ofNat']
  change numReplicas % 2 ^ 32 = 4294967295 <-> _
  omega

section Replicas

variable {overflowChecks : Bool} {m : VbucketMap} {vbServerIdx : UInt32}

/-- What is answered where the call does not panic. -/
theorem nodeByVbucketIn_some (h : overflowChecks = true -> (m.numReplicas + 1) % 2 ^ 32 ≠ 0)
    (vbId : UInt16) :
    m.nodeByVbucketIn overflowChecks vbId vbServerIdx =
      some (m.nodeByVbucket vbId vbServerIdx) := by
  apply if_neg
  rintro ⟨hchecks, hlast⟩
  exact h hchecks ((numServers_panics_iff _).mp hlast)

theorem nodeByVbucketIn_none (hchecks : overflowChecks = true)
    (hzero : (m.numReplicas + 1) % 2 ^ 32 = 0) (vbId : UInt16) :
    m.nodeByVbucketIn overflowChecks vbId vbServerIdx = none :=
  if_pos ⟨hchecks, (numServers_panics_iff _).mpr hzero⟩

theorem nodeByVbucket_rejects (vbId : UInt16)
    (h : (m.numReplicas + 1) % 2 ^ 32 < vbServerIdx.toNat) :
    m.nodeByVbucket vbId vbServerIdx =
      .error (.invalidReplica vbServerIdx ((m.numReplicas + 1) % 2 ^ 32)) := by
  have hlt : vbServerIdx > UInt32.ofNat m.numReplicas + 1 := by
    apply UInt32.lt_iff_toNat_lt.mpr
    rw [numServers_toNat]
    exact h
  unfold VbucketMap.nodeByVbucket
  dsimp only
  rw [if_pos hlt, numServers_toNat]

theorem not_rejects {m : VbucketMap} {vbServerIdx : UInt32}
    (h : vbServerIdx.toNat ≤ (m.numReplicas + 1) % 2 ^ 32) :
    ¬ vbServerIdx > UInt32.ofNat m.numReplicas + 1 := by
  intro hlt
  have hnat := UInt32.lt_iff_toNat_lt.mp hlt
  rw [numServers_toNat] at hnat
  exact Nat.not_lt.mpr h hnat

theorem nodeByVbucket_row {vbId : UInt16} {entry : List Int16}
    (h : vbServerIdx.toNat ≤ (m.numReplicas + 1) % 2 ^ 32)
    (hentry : m.entries[vbId.toNat]? = some entry) :
    m.nodeByVbucket vbId vbServerIdx = .ok (entry[vbServerIdx.toNat]?.getD (-1)) := by
  unfold VbucketMap.nodeByVbucket
  dsimp only
  rw [if_neg (not_rejects h), hentry]
  cases hnode : entry[vbServerIdx.toNat]? with
  | none => simp only [hnode, Option.getD_none]
  | some node => simp only [hnode, Option.getD_some]

theorem nodeByVbucket_unknown {vbId : UInt16}
    (h : vbServerIdx.toNat ≤ (m.numReplicas + 1) % 2 ^ 32)
    (hentry : m.entries[vbId.toNat]? = none) :
    m.nodeByVbucket vbId vbServerIdx = .error (.invalidVbucket vbId m.entries.length) := by
  unfold VbucketMap.nodeByVbucket
  dsimp only
  rw [if_neg (not_rejects h), hentry]

/-- A copy is rejected behind the number of servers. -/
theorem rejectsReplica_iff (h : overflowChecks = true -> (m.numReplicas + 1) % 2 ^ 32 ≠ 0)
    (vbId : UInt16) :
    RejectsReplica overflowChecks m vbServerIdx vbId <->
      (m.numReplicas + 1) % 2 ^ 32 < vbServerIdx.toNat := by
  unfold RejectsReplica
  rw [nodeByVbucketIn_some h]
  constructor
  · rintro ⟨requested, servers, hrejects⟩
    by_contra hle
    cases hentry : m.entries[vbId.toNat]? with
    | some entry =>
        rw [nodeByVbucket_row (Nat.not_lt.mp hle) hentry] at hrejects
        cases hrejects
    | none =>
        rw [nodeByVbucket_unknown (Nat.not_lt.mp hle) hentry] at hrejects
        cases hrejects
  · intro hlt
    exact ⟨_, _, congrArg some (nodeByVbucket_rejects vbId hlt)⟩

/-- The vbucket of a key has a row. -/
theorem known_of_key {vbId : UInt16} (hkey : vbId.toNat < m.entries.length)
    (requested : UInt16) (vbuckets : Nat) :
    m.nodeByVbucketIn overflowChecks vbId vbServerIdx ≠
      some (.error (.invalidVbucket requested vbuckets)) := by
  intro hunknown
  by_cases h : overflowChecks = true -> (m.numReplicas + 1) % 2 ^ 32 ≠ 0
  · rw [nodeByVbucketIn_some h] at hunknown
    by_cases hle : vbServerIdx.toNat ≤ (m.numReplicas + 1) % 2 ^ 32
    · rw [nodeByVbucket_row hle (List.getElem?_eq_getElem hkey)] at hunknown
      cases hunknown
    · rw [nodeByVbucket_rejects vbId (Nat.not_le.mp hle)] at hunknown
      cases hunknown
  · rcases Classical.not_imp.mp h with ⟨hchecks, hzero⟩
    rw [nodeByVbucketIn_none hchecks (not_not.mp hzero)] at hunknown
    cases hunknown

theorem not_panics_of_fits (hfits : ReplicaFits overflowChecks m vbServerIdx) :
    overflowChecks = true -> (m.numReplicas + 1) % 2 ^ 32 ≠ 0 := by
  intro hchecks
  rcases hfits with ⟨hsmall, _⟩ | ⟨_, _, hnonzero⟩
  · omega
  · exact hnonzero hchecks

/-- The copies are answered as they should be if and only if the copy that is asked for is
not the one behind the last replica. -/
theorem replicas_iff_fits (hentries : m.entries ≠ []) :
    (forall vbId, RejectsReplica overflowChecks m vbServerIdx vbId <->
        m.numReplicas < vbServerIdx.toNat) ∧
      (forall (vbId : UInt16) entry, m.entries[vbId.toNat]? = some entry ->
        vbServerIdx.toNat ≤ m.numReplicas ->
          m.nodeByVbucketIn overflowChecks vbId vbServerIdx =
            some (.ok (entry[vbServerIdx.toNat]?.getD (-1)))) <->
      ReplicaFits overflowChecks m vbServerIdx := by
  have hbound := vbServerIdx.toNat_lt
  constructor
  · rintro ⟨hreplica, hnode⟩
    unfold ReplicaFits
    by_cases h : overflowChecks = true -> (m.numReplicas + 1) % 2 ^ 32 ≠ 0
    · have hiff := (rejectsReplica_iff h 0).symm.trans (hreplica 0)
      by_cases hsmall : m.numReplicas + 1 < 2 ^ 32
      · left
        rw [Nat.mod_eq_of_lt hsmall] at hiff
        refine ⟨hsmall, fun heq => ?_⟩
        have hlt := hiff.mpr (by omega)
        omega
      · right
        refine ⟨Nat.not_lt.mp hsmall, ?_, h⟩
        by_contra hlt
        have hmore := hiff.mp (Nat.not_le.mp hlt)
        omega
    · rcases Classical.not_imp.mp h with ⟨hchecks, hzero⟩
      cases hrows : m.entries with
      | nil => exact absurd hrows hentries
      | cons entry rest =>
          have hfirst : m.entries[(0 : UInt16).toNat]? = some entry := by
            rw [hrows]
            rfl
          have hanswer := hnode 0 entry hfirst (by omega)
          rw [nodeByVbucketIn_none hchecks (not_not.mp hzero)] at hanswer
          cases hanswer
  · intro hfits
    have h := not_panics_of_fits hfits
    constructor
    · intro vbId
      rw [rejectsReplica_iff h]
      rcases hfits with ⟨hsmall, hne⟩ | ⟨hlarge, hle, _⟩
      · rw [Nat.mod_eq_of_lt hsmall]
        omega
      · omega
    · intro vbId entry hentry hle
      rw [nodeByVbucketIn_some h]
      apply congrArg some
      apply nodeByVbucket_row _ hentry
      rcases hfits with ⟨hsmall, _⟩ | ⟨_, hle', _⟩
      · rw [Nat.mod_eq_of_lt hsmall]
        exact Nat.le_succ_of_le hle
      · exact hle'

end Replicas

/-!
# Vbucket selection
-/

theorem entries_of_new {entries : List (List Int16)} {numReplicas : Nat} {m : VbucketMap}
    (h : VbucketMap.new entries numReplicas = .ok m) : m.entries ≠ [] := by
  unfold VbucketMap.new at h
  cases entries with
  | nil => cases h
  | cons entry rest =>
      cases h
      exact List.cons_ne_nil _ _

/-- A vbucket and its nodes are selected as they should be if and only if the rows fit and the
copy that is asked for is not the one behind the last replica. -/
theorem selects_vbucket_iff {entries : List (List Int16)} {numReplicas : Nat} {m : VbucketMap}
    (hnew : VbucketMap.new entries numReplicas = .ok m) (overflowChecks : Bool)
    (key : List UInt8) (vbServerIdx : UInt32) :
    SelectsVbucket overflowChecks m key vbServerIdx <->
      RowsFit m key ∧ ReplicaFits overflowChecks m vbServerIdx := by
  have hentries := entries_of_new hnew
  rw [← selected_iff_rowsFit hentries, ← replicas_iff_fits hentries]
  constructor
  · intro h
    exact ⟨h.selected, h.replica, h.node⟩
  · rintro ⟨hselected, hreplica, hnode⟩
    exact
      { selected := hselected
        known := fun vbId hkey => known_of_key (vbucketByKey_lt hkey)
        replica := hreplica
        node := hnode }

theorem selects_vbucket_first_copy :
    SelectsVbucket true ⟨[[0, 1]], 1⟩ [104] 0 :=
  (@selects_vbucket_iff [[0, 1]] 1 ⟨[[0, 1]], 1⟩ rfl true [104] 0).mpr
    ⟨Or.inl (by decide), Or.inl ⟨by decide, by decide⟩⟩

/-- The copy behind the only replica is not rejected. -/
theorem not_selects_vbucket_behind :
    ¬ SelectsVbucket true ⟨[[0, 1]], 1⟩ [104] 2 := by
  intro h
  rcases (h.replica 0).mpr (by decide) with ⟨requested, servers, hrejects⟩
  cases hrejects

end Config
end CouchbaseSdk
