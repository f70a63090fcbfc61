import CouchbaseSdk.Config.Topology
import CouchbaseSdk.Config.VbucketMap

/-!
# The vbucket router

The router finds the endpoint for a key or a vbucket: the vbucket map gives a position in
the list of servers.  Both lists were made from one config.
-/

namespace CouchbaseSdk
namespace Routing

open Config

def getVbucketInfo (info : VbucketRoutingInfo) : Except ErrorKind VbucketMap :=
  match info.vbucketInfo with
  | some i => .ok i
  | none => .error .noVbucketMap

/-- `server_list.get(idx as usize)` -/
def serverAt (info : VbucketRoutingInfo) (idx : Int16) : Option String :=
  info.serverList[idx.toInt.toNat]?

/-- The server of a vbucket's active copy or of one of its replicas. -/
def dispatchWithin (info : VbucketRoutingInfo) (vbucketInfo : VbucketMap) (vbId : UInt16)
    (vbServerIdx : UInt32) : Except ErrorKind (String × UInt16) :=
  match vbucketInfo.nodeByVbucket vbId vbServerIdx with
  | .error e => .error e
  | .ok idx =>
      if idx ≥ 0 then
        match serverAt info idx with
        | some server => .ok (server, vbId)
        | none => .error (.noServerAssigned vbId)
      else .error (.noServerAssigned vbId)

/-- `none` says that the call panics. -/
def dispatchByKey (info : VbucketRoutingInfo) (key : List UInt8) (vbServerIdx : UInt32) :
    Option (Except ErrorKind (String × UInt16)) :=
  if !info.bucketSelected then some (.error .noBucket)
  else
    match getVbucketInfo info with
    | .error e => some (.error e)
    | .ok vbucketInfo =>
        (vbucketInfo.vbucketByKey key).map fun vbId =>
          dispatchWithin info vbucketInfo vbId vbServerIdx

/-- The first server of the list is never returned here. -/
def dispatchToVbucket (info : VbucketRoutingInfo) (vbId : UInt16) : Except ErrorKind String :=
  if !info.bucketSelected then .error .noBucket
  else
    match getVbucketInfo info with
    | .error e => .error e
    | .ok vbucketInfo =>
        match vbucketInfo.nodeByVbucket vbId 0 with
        | .error e => .error e
        | .ok idx =>
            if idx > 0 then
              match serverAt info idx with
              | some server => .ok server
              | none => .error (.noServerAssigned vbId)
            else .error (.noServerAssigned vbId)

/-!
# What can be returned
-/

/-- The endpoint is returned for some key or some vbucket. -/
inductive CanDispatch (info : VbucketRoutingInfo) (endpoint : String) : Prop where
  | byKey (key : List UInt8) (vbServerIdx : UInt32) (vbId : UInt16) :
      dispatchByKey info key vbServerIdx = some (.ok (endpoint, vbId)) ->
        CanDispatch info endpoint
  | toVbucket (vbId : UInt16) : dispatchToVbucket info vbId = .ok endpoint ->
      CanDispatch info endpoint

theorem getVbucketInfo_ok {info : VbucketRoutingInfo} {m : VbucketMap}
    (h : getVbucketInfo info = .ok m) : info.vbucketInfo = some m := by
  unfold getVbucketInfo at h
  split at h
  · rename_i i hinfo
    cases h
    exact hinfo
  · cases h

theorem dispatchWithin_ok {info : VbucketRoutingInfo} {m : VbucketMap} {vbId vbId' : UInt16}
    {vbServerIdx : UInt32} {endpoint : String}
    (h : dispatchWithin info m vbId vbServerIdx = .ok (endpoint, vbId')) :
    exists idx, m.nodeByVbucket vbId vbServerIdx = .ok idx ∧ 0 ≤ idx ∧
      serverAt info idx = some endpoint := by
  unfold dispatchWithin at h
  split at h
  · cases h
  · rename_i idx hnode
    split at h
    · rename_i hge
      split at h
      · rename_i server hserver
        cases h
        exact ⟨idx, hnode, hge, hserver⟩
      · cases h
    · cases h

/-- Whatever is returned stands in the server list at a position of the map. -/
theorem canDispatch_inv {info : VbucketRoutingInfo} {endpoint : String}
    (h : CanDispatch info endpoint) :
    exists m vbId vbServerIdx idx, info.vbucketInfo = some m ∧
      m.nodeByVbucket vbId vbServerIdx = .ok idx ∧ 0 ≤ idx ∧
        serverAt info idx = some endpoint := by
  cases h with
  | byKey key vbServerIdx vbId h =>
      unfold dispatchByKey at h
      split at h
      · cases h
      · split at h
        · cases h
        · rename_i m hinfo
          rcases Option.map_eq_some_iff.mp h with ⟨vbId', _, hwithin⟩
          rcases dispatchWithin_ok hwithin with ⟨idx, hnode, hge, hserver⟩
          exact ⟨m, vbId', vbServerIdx, idx, getVbucketInfo_ok hinfo, hnode, hge, hserver⟩
  | toVbucket vbId h =>
      unfold dispatchToVbucket at h
      split at h
      · cases h
      · split at h
        · cases h
        · rename_i m hinfo
          split at h
          · cases h
          · rename_i idx hnode
            split at h
            · rename_i hgt
              split at h
              · rename_i server hserver
                cases h
                exact ⟨m, vbId, 0, idx, getVbucketInfo_ok hinfo, hnode,
                  Int16.le_of_lt hgt, hserver⟩
              · cases h
            · cases h

/-!
# The two entry points of the router

A key is routed through its vbucket, and a vbucket is routed by itself.  The second way leaves
out the first server of the list.
-/

section Spec

variable (info : VbucketRoutingInfo) (key : List UInt8) (vbId : UInt16)

/-- Without a vbucket map every vbucket stands for the key. -/
def IsVbucketOf : Prop :=
  forall m, info.vbucketInfo = some m -> m.vbucketByKey key = some vbId

/-- Both ways return the same endpoint, or fail with the same error. -/
structure EntryPointsAgree : Prop where
  returned : forall endpoint, dispatchToVbucket info vbId = .ok endpoint <->
    dispatchByKey info key 0 = some (.ok (endpoint, vbId))
  failed : forall e, dispatchToVbucket info vbId = .error e <->
    dispatchByKey info key 0 = some (.error e)

/-- The active copy of the vbucket is at the first server of the list. -/
def AtFirstServer : Prop :=
  info.bucketSelected = true ∧ info.serverList ≠ [] ∧
    exists m entry, info.vbucketInfo = some m ∧ m.entries[vbId.toNat]? = some entry ∧
      entry.head? = some 0

end Spec

variable {info : VbucketRoutingInfo} {key : List UInt8} {vbId : UInt16}

/-!
# What is left of a server
-/

/-- The server that was found, or the error that there is none. -/
def serverOr (vbId : UInt16) (server : Option String) : Except ErrorKind String :=
  server.elim (.error (.noServerAssigned vbId)) .ok

/-- The two ways agree where they have found the same server. -/
theorem agree_iff_same {found other : Option String}
    (hvbucket : dispatchToVbucket info vbId = serverOr vbId found)
    (hkey : dispatchByKey info key 0 =
      some ((serverOr vbId other).map fun server => (server, vbId))) :
    EntryPointsAgree info key vbId <-> found = other := by
  constructor
  · intro h
    cases other with
    | some server =>
        have hreturned := (h.returned server).mpr hkey
        rw [hvbucket] at hreturned
        cases found with
        | none => cases hreturned
        | some server' =>
            cases hreturned
            rfl
    | none =>
        have hfailed := (h.failed (.noServerAssigned vbId)).mpr hkey
        rw [hvbucket] at hfailed
        cases found with
        | none => rfl
        | some server' => cases hfailed
  · rintro rfl
    constructor
    · intro endpoint
      rw [hvbucket, hkey]
      cases found with
      | none =>
          constructor
          · intro h
            cases h
          · intro h
            cases h
      | some server =>
          constructor
          · intro h
            cases h
            rfl
          · intro h
            cases h
            rfl
    · intro e
      rw [hvbucket, hkey]
      cases found with
      | none =>
          constructor
          · intro h
            cases h
            rfl
          · intro h
            cases h
            rfl
      | some server =>
          constructor
          · intro h
            cases h
          · intro h
            cases h

/-- Where there is no bucket or no map, both ways fail before they look for a server. -/
theorem agree_of_failed {e : ErrorKind} (hvbucket : dispatchToVbucket info vbId = .error e)
    (hkey : dispatchByKey info key 0 = some (.error e)) : EntryPointsAgree info key vbId := by
  constructor
  · intro endpoint
    rw [hvbucket, hkey]
    constructor
    · intro h
      cases h
    · intro h
      cases h
  · intro e'
    rw [hvbucket, hkey]
    constructor
    · intro h
      cases h
      rfl
    · intro h
      cases h
      rfl

/-!
# With a vbucket map
-/

section Map

variable {m : VbucketMap} {idx : Int16}

theorem dispatchByKey_eq (hselected : info.bucketSelected = true)
    (hm : info.vbucketInfo = some m) (hkey : m.vbucketByKey key = some vbId)
    (hidx : m.nodeByVbucket vbId 0 = .ok idx) :
    dispatchByKey info key 0 =
      some ((serverOr vbId (if idx ≥ 0 then serverAt info idx else none)).map
        fun server => (server, vbId)) := by
  have hinfo : getVbucketInfo info = .ok m := by
    unfold getVbucketInfo
    rw [hm]
  unfold dispatchByKey
  rw [hselected, hinfo]
  simp only [Bool.not_true, Bool.false_eq_true, if_false, hkey, Option.map_some]
  apply congrArg some
  unfold dispatchWithin
  rw [hidx]
  by_cases hge : idx ≥ 0
  · rw [if_pos hge]
    simp only [if_pos hge]
    cases serverAt info idx <;> rfl
  · rw [if_neg hge]
    simp only [if_neg hge]
    rfl

theorem dispatchToVbucket_eq (hselected : info.bucketSelected = true)
    (hm : info.vbucketInfo = some m) (hidx : m.nodeByVbucket vbId 0 = .ok idx) :
    dispatchToVbucket info vbId =
      serverOr vbId (if idx > 0 then serverAt info idx else none) := by
  have hinfo : getVbucketInfo info = .ok m := by
    unfold getVbucketInfo
    rw [hm]
  unfold dispatchToVbucket
  rw [hselected, hinfo]
  simp only [Bool.not_true, Bool.false_eq_true, if_false, hidx]
  by_cases hgt : idx > 0
  · simp only [if_pos hgt]
    cases serverAt info idx <;> rfl
  · simp only [if_neg hgt]
    rfl

/-- The two comparisons differ at the first server alone. -/
theorem found_same_iff :
    (if idx > 0 then serverAt info idx else none) =
        (if idx ≥ 0 then serverAt info idx else none) <->
      ¬ (idx = 0 ∧ info.serverList ≠ []) := by
  by_cases hzero : idx = 0
  · subst hzero
    have hfirst : serverAt info 0 = info.serverList.head? := List.head?_eq_getElem?.symm
    rw [if_neg (by decide), if_pos (by decide), hfirst, eq_comm, List.head?_eq_none_iff]
    simp
  · have hiff : idx > 0 <-> idx ≥ 0 := by
      constructor
      · exact Int16.le_of_lt
      · intro hge
        exact Int16.lt_of_le_of_ne hge (Ne.symm hzero)
    simp only [hiff, hzero, false_and, not_false_eq_true]

theorem first_node_iff (entry : List Int16) :
    entry[(0 : UInt32).toNat]?.getD (-1) = 0 <-> entry.head? = some 0 := by
  cases entry with
  | nil =>
      constructor
      · intro h
        cases h
      · intro h
        cases h
  | cons node rest => exact Option.some_inj.symm

end Map

theorem not_selected_agree (hselected : info.bucketSelected = false) :
    EntryPointsAgree info key vbId := by
  apply agree_of_failed
  · unfold dispatchToVbucket
    rw [hselected]
    rfl
  · unfold dispatchByKey
    rw [hselected]
    rfl

theorem no_map_agree (hselected : info.bucketSelected = true) (hm : info.vbucketInfo = none) :
    EntryPointsAgree info key vbId := by
  apply agree_of_failed
  · unfold dispatchToVbucket getVbucketInfo
    rw [hselected, hm]
    rfl
  · unfold dispatchByKey getVbucketInfo
    rw [hselected, hm]
    rfl

/-- The two entry points agree on a key and its vbucket if and only if the active copy is not
at the first server. -/
theorem entry_points_agree_iff (hvbucket : IsVbucketOf info key vbId) :
    EntryPointsAgree info key vbId <-> ¬ AtFirstServer info vbId := by
  cases hselected : info.bucketSelected with
  | false =>
      apply iff_of_true (not_selected_agree hselected)
      rintro ⟨htrue, _⟩
      cases hselected.symm.trans htrue
  | true =>
      cases hm : info.vbucketInfo with
      | none =>
          apply iff_of_true (no_map_agree hselected hm)
          rintro ⟨_, _, m, _, hsome, _⟩
          cases hm.symm.trans hsome
      | some m =>
          have hkey := hvbucket m hm
          have hentry := List.getElem?_eq_getElem (vbucketByKey_lt hkey)
          have hidx := @nodeByVbucket_row m 0 vbId _ (Nat.zero_le _) hentry
          rw [agree_iff_same (dispatchToVbucket_eq hselected hm hidx)
            (dispatchByKey_eq hselected hm hkey hidx), found_same_iff, not_iff_not,
            first_node_iff]
          constructor
          · rintro ⟨hfirst, hservers⟩
            exact ⟨hselected, hservers, m, _, hm, hentry, hfirst⟩
          · rintro ⟨_, hservers, m', entry, hm', hentry', hfirst⟩
            cases hm.symm.trans hm'
            cases hentry.symm.trans hentry'
            exact ⟨hfirst, hservers⟩

/-- A vbucket with its active copy at the second server. -/
theorem entry_points_agree_second :
    EntryPointsAgree ⟨some ⟨[[1]], 0⟩, ["a", "b"], true⟩ [104] 0 := by
  apply (@entry_points_agree_iff ⟨some ⟨[[1]], 0⟩, ["a", "b"], true⟩ [104] 0 ?_).mpr
  · rintro ⟨_, _, m, entry, hm, hentry, hhead⟩
    cases hm
    cases hentry
    cases hhead
  · intro m hm
    cases hm
    decide +kernel

/-- The first server is found for a key, and not for its vbucket. -/
theorem entry_points_disagree_first :
    ¬ EntryPointsAgree ⟨some ⟨[[0]], 0⟩, ["a"], true⟩ [104] 0 := by
  intro h
  have hkey : dispatchByKey ⟨some ⟨[[0]], 0⟩, ["a"], true⟩ [104] 0 = some (.ok ("a", 0)) := by
    decide +kernel
  have hvbucket := (h.returned "a").mpr hkey
  cases hvbucket

end Routing
end CouchbaseSdk
