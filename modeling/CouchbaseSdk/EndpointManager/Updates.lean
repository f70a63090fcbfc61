import CouchbaseSdk.EndpointManager.Model

/-!
# Updates keep the table

An update takes over the pools of the endpoints that stay, makes the missing ones, and
keeps or closes the rest.  Over every sequence of updates each pool that was made is in the
table and open, or it was closed once.
-/

namespace CouchbaseSdk
namespace EndpointManager

open Foundation
open Config (KvTarget)

/-!
# Going through the endpoints
-/

/-- Every pool that was made is in the table and open, or out of it and closed once. -/
structure Accounted (m : Store) : Prop where
  published : forall endpoint, m.fastState.lookup endpoint = m.slowState.lookup endpoint
  present : forall endpoint p, m.slowState.lookup endpoint = some p ->
    p < m.made ∧ (m.pools p).endpointId = endpoint ∧ (m.pools p).closes = 0 ∧
      (m.pools p).targets.length = m.numPoolConnections
  absent : forall p, p < m.made -> (forall endpoint, m.slowState.lookup endpoint ≠ some p) ->
    (m.pools p).closes = 1

/-- The loop has gone past the endpoint. -/
def Processed (endpoints : FiniteMap Endpoint KvTarget)
    (rest : List (Sigma fun _ : Endpoint => KvTarget)) (endpoint : Endpoint) : Prop :=
  endpoint ∈ endpoints ∧ endpoint ∉ rest.keys

/-- What the loop has done to the table `m` when the rest of the endpoints is to come. -/
structure Rebuilding (m : Store) (endpoints : FiniteMap Endpoint KvTarget)
    (rest : List (Sigma fun _ : Endpoint => KvTarget)) (r : Rebuild) : Prop where
  size : r.store.numPoolConnections = m.numPoolConnections
  made : m.made ≤ r.store.made
  old : forall endpoint p, r.oldPools.lookup endpoint = some p <->
    m.slowState.lookup endpoint = some p ∧ ¬ Processed endpoints rest endpoint
  keys : forall endpoint, endpoint ∈ r.newPools <-> Processed endpoints rest endpoint
  kept : forall endpoint p, m.slowState.lookup endpoint = some p ->
    endpoint ∈ r.newPools -> r.newPools.lookup endpoint = some p
  taken : forall endpoint p, r.newPools.lookup endpoint = some p ->
    (m.slowState.lookup endpoint = some p ∨ m.made ≤ p) ∧ p < r.store.made ∧
      (r.store.pools p).endpointId = endpoint ∧ (r.store.pools p).closes = 0 ∧
        forall target, endpoints.lookup endpoint = some target ->
          (r.store.pools p).targets = List.replicate m.numPoolConnections target
  fresh : forall p, m.made ≤ p -> p < r.store.made ->
    exists endpoint, r.newPools.lookup endpoint = some p
  untouched : forall p, p < m.made -> (forall endpoint, r.newPools.lookup endpoint ≠ some p) ->
    r.store.pools p = m.pools p

section
variable {m : Store} {endpoints : FiniteMap Endpoint KvTarget}
  {rest : List (Sigma fun _ : Endpoint => KvTarget)}

theorem rebuilding_start (m : Store) (endpoints : FiniteMap Endpoint KvTarget) :
    Rebuilding m endpoints endpoints.entries
      { store := m, oldPools := m.slowState, newPools := ∅ } := by
  have hnone : forall endpoint, ¬ Processed endpoints endpoints.entries endpoint :=
    fun endpoint h => h.2 h.1
  constructor
  · rfl
  · exact Nat.le_refl _
  · intro endpoint p
    exact ⟨fun h => ⟨h, hnone endpoint⟩, fun h => h.1⟩
  · intro endpoint
    constructor
    · intro h
      exact (AList.notMem_empty endpoint h).elim
    · intro h
      exact (hnone endpoint h).elim
  · intro endpoint p _ h
    exact (AList.notMem_empty endpoint h).elim
  · intro endpoint p h
    cases h
  · intro p hle hlt
    exact (Nat.not_lt.mpr hle hlt).elim
  · intro p _ _
    rfl

variable {item : Sigma fun _ : Endpoint => KvTarget}

theorem processed_step (hmem : item ∈ endpoints.entries) (hfresh : item.1 ∉ rest.keys)
    (endpoint : Endpoint) :
    Processed endpoints rest endpoint <->
      endpoint = item.1 ∨ Processed endpoints (item :: rest) endpoint := by
  have hkeys : (item :: rest).keys = item.1 :: rest.keys := List.keys_cons
  unfold Processed
  rw [hkeys]
  constructor
  · rintro ⟨hin, hout⟩
    by_cases he : endpoint = item.1
    · exact Or.inl he
    · exact Or.inr ⟨hin, fun hcons => (List.mem_cons.mp hcons).elim he hout⟩
  · rintro (rfl | ⟨hin, hout⟩)
    · exact ⟨List.mem_keys_of_mem hmem, hfresh⟩
    · exact ⟨hin, fun h => hout (List.mem_cons_of_mem _ h)⟩

/-- One more endpoint has its pool: the old one, or one that was made for it. -/
theorem rebuilding_insert {r : Rebuild} {store : Store} {oldPools : ClientPools} {p : PoolId}
    (hr : Rebuilding m endpoints (item :: rest) r) (hmem : item ∈ endpoints.entries)
    (hfresh : item.1 ∉ rest.keys)
    (hsize : store.numPoolConnections = m.numPoolConnections)
    (hold : forall endpoint q, oldPools.lookup endpoint = some q <->
      endpoint ≠ item.1 ∧ r.oldPools.lookup endpoint = some q)
    (hpool : (store.pools p).endpointId = item.1 ∧ (store.pools p).closes = 0 ∧
      (store.pools p).targets = List.replicate m.numPoolConnections item.2)
    (hothers : forall q, q ≠ p -> store.pools q = r.store.pools q)
    (hnew : forall endpoint, r.newPools.lookup endpoint ≠ some p)
    (hp : (m.slowState.lookup item.1 = some p ∧ p < m.made ∧ store.made = r.store.made) ∨
      (m.slowState.lookup item.1 = none ∧ p = r.store.made ∧ store.made = r.store.made + 1)) :
    Rebuilding m endpoints rest
      { store := store, oldPools := oldPools, newPools := r.newPools.insert item.1 p } := by
  have hmade : r.store.made ≤ store.made := by
    rcases hp with ⟨_, _, h⟩ | ⟨_, _, h⟩
    · exact Nat.le_of_eq h.symm
    · exact Nat.le_of_lt (Nat.lt_of_lt_of_eq (Nat.lt_succ_self _) h.symm)
  have hbound : p < store.made := by
    rcases hp with ⟨_, hlt, h⟩ | ⟨_, rfl, h⟩
    · exact Nat.lt_of_lt_of_le hlt (Nat.le_trans hr.made hmade)
    · exact Nat.lt_of_lt_of_eq (Nat.lt_succ_self _) h.symm
  have hitem : endpoints.lookup item.1 = some item.2 := AList.mem_lookup_iff.mpr hmem
  have hkey : forall endpoint q, r.newPools.lookup endpoint = some q -> endpoint ≠ item.1 := by
    rintro endpoint q hlookup rfl
    have hin : item.1 ∈ r.newPools := FiniteMap.mem_of_lookup hlookup
    exact ((hr.keys item.1).mp hin).2 List.mem_cons_self
  constructor
  case size => exact hsize
  case made => exact Nat.le_trans hr.made hmade
  case old =>
    intro endpoint q
    rw [hold, hr.old, processed_step hmem hfresh, not_or]
    tauto
  case keys =>
    intro endpoint
    rw [AList.mem_insert, hr.keys, processed_step hmem hfresh]
  case kept =>
    intro endpoint q hslow hin
    by_cases he : endpoint = item.1
    · subst he
      rw [AList.lookup_insert]
      rcases hp with ⟨h, _⟩ | ⟨h, _⟩
      · exact h.symm.trans hslow
      · cases h.symm.trans hslow
    · rw [AList.lookup_insert_ne he]
      exact hr.kept endpoint q hslow (((AList.mem_insert _).mp hin).resolve_left he)
  case taken =>
    intro endpoint q hlookup
    rcases FiniteMap.lookup_insert_some hlookup with ⟨rfl, rfl⟩ | ⟨_, hbefore⟩
    · refine ⟨?_, hbound, hpool.1, hpool.2.1, fun target htarget => ?_⟩
      · rcases hp with ⟨h, _⟩ | ⟨_, rfl, _⟩
        · exact Or.inl h
        · exact Or.inr hr.made
      · cases hitem.symm.trans htarget
        exact hpool.2.2
    · have hne : q ≠ p := by
        rintro rfl
        exact hnew endpoint hbefore
      rw [hothers q hne]
      rcases hr.taken endpoint q hbefore with ⟨hsource, hlt, htaken⟩
      exact ⟨hsource, Nat.lt_of_lt_of_le hlt hmade, htaken⟩
  case fresh =>
    intro q hle hlt
    by_cases hq : q = p
    · exact ⟨item.1, by rw [hq, AList.lookup_insert]⟩
    · have hlt' : q < r.store.made := by
        rcases hp with ⟨_, _, h⟩ | ⟨_, rfl, h⟩
        · exact Nat.lt_of_lt_of_eq hlt h
        · exact Nat.lt_of_le_of_ne (Nat.le_of_lt_succ (Nat.lt_of_lt_of_eq hlt h)) hq
      rcases hr.fresh q hle hlt' with ⟨endpoint, hlookup⟩
      exact ⟨endpoint, (AList.lookup_insert_ne (hkey endpoint q hlookup)).trans hlookup⟩
  case untouched =>
    intro q hlt hnone
    have hne : q ≠ p := by
      rintro rfl
      exact hnone item.1 (AList.lookup_insert _)
    rw [hothers q hne]
    refine hr.untouched q hlt (fun endpoint hlookup => hnone endpoint ?_)
    exact (AList.lookup_insert_ne (hkey endpoint q hlookup)).trans hlookup

/-- A pool that is still to be taken over is in the new table under no endpoint. -/
theorem old_not_new {r : Rebuild} {endpoint : Endpoint} {p : PoolId} (hm : Accounted m)
    (hr : Rebuilding m endpoints rest r) (h : r.oldPools.lookup endpoint = some p)
    (other : Endpoint) : r.newPools.lookup other ≠ some p := by
  intro hnew
  rcases (hr.old endpoint p).mp h with ⟨hslow, hpending⟩
  rcases hm.present endpoint p hslow with ⟨hlt, hid, _⟩
  have he : other = endpoint := by
    rcases (hr.taken other p hnew).1 with hsource | hle
    · exact (hm.present other p hsource).2.1.symm.trans hid
    · exact (Nat.not_lt.mpr hle hlt).elim
  have hin : other ∈ r.newPools := FiniteMap.mem_of_lookup hnew
  rw [he] at hin
  exact hpending ((hr.keys endpoint).mp hin)

theorem rebuilding_step {r : Rebuild} (hm : Accounted m)
    (hr : Rebuilding m endpoints (item :: rest) r) (hmem : item ∈ endpoints.entries)
    (hfresh : item.1 ∉ rest.keys) : Rebuilding m endpoints rest (takePool r item) := by
  have hout : ¬ Processed endpoints (item :: rest) item.1 :=
    fun h => h.2 List.mem_cons_self
  unfold takePool
  cases hlookup : r.oldPools.lookup item.1 with
  | some p =>
      have hslow : m.slowState.lookup item.1 = some p := ((hr.old item.1 p).mp hlookup).1
      rcases hm.present item.1 p hslow with ⟨hlt, hid, hcloses, hlen⟩
      have hnew := old_not_new hm hr hlookup
      have hsame : r.store.pools p = m.pools p := hr.untouched p hlt hnew
      refine rebuilding_insert hr hmem hfresh hr.size ?_ ?_ (fun q hq => modify_ne hq) hnew
        (Or.inl ⟨hslow, hlt, rfl⟩)
      · intro endpoint q
        constructor
        · exact FiniteMap.lookup_erase_some
        · rintro ⟨hne, h⟩
          exact (AList.lookup_erase_ne hne).trans h
      · rw [modify_self, hsame]
        refine ⟨hid, hcloses, ?_⟩
        show (m.pools p).targets.map (fun _ => item.2) = _
        rw [List.map_const', hlen]
  | none =>
      have hslow : m.slowState.lookup item.1 = none := by
        cases h : m.slowState.lookup item.1 with
        | none => rfl
        | some p => cases hlookup.symm.trans ((hr.old item.1 p).mpr ⟨h, hout⟩)
      refine rebuilding_insert hr hmem hfresh hr.size ?_ ?_ ?_ ?_ (Or.inr ⟨hslow, rfl, rfl⟩)
      · intro endpoint q
        constructor
        · intro h
          refine ⟨?_, h⟩
          rintro rfl
          cases hlookup.symm.trans h
        · exact fun h => h.2
      · rw [newPool_self, hr.size]
        exact ⟨rfl, rfl, rfl⟩
      · intro q hq
        exact Function.update_of_ne hq ..
      · intro endpoint h
        exact Nat.lt_irrefl _ (hr.taken endpoint _ h).2.1

theorem rebuilding_foldl (hm : Accounted m) {r : Rebuild}
    (hr : Rebuilding m endpoints rest r) (hmem : forall item, item ∈ rest ->
      item ∈ endpoints.entries) (hnodup : rest.NodupKeys) :
    Rebuilding m endpoints [] (rest.foldl takePool r) := by
  induction rest generalizing r with
  | nil => exact hr
  | cons item rest ih =>
      rcases List.nodupKeys_cons.mp hnodup with ⟨hfresh, hrest⟩
      refine ih (rebuilding_step hm hr (hmem item List.mem_cons_self) hfresh) ?_ hrest
      exact fun item hitem => hmem item (List.mem_cons_of_mem _ hitem)

/-- The loop over all endpoints. -/
theorem rebuilding_all (hm : Accounted m) (endpoints : FiniteMap Endpoint KvTarget) :
    Rebuilding m endpoints [] (endpoints.entries.foldl takePool
      { store := m, oldPools := m.slowState, newPools := ∅ }) :=
  rebuilding_foldl hm (rebuilding_start m endpoints) (fun _ h => h) endpoints.nodupKeys

end

/-!
# Updates
-/

/-- What is done with the pools that no endpoint has taken. -/
structure Installed (r : Rebuild) (addOnly : Bool) (m' : Store) : Prop where
  size : m'.numPoolConnections = r.store.numPoolConnections
  made : m'.made = r.store.made
  published : forall endpoint, m'.fastState.lookup endpoint = m'.slowState.lookup endpoint
  table : forall endpoint p, m'.slowState.lookup endpoint = some p <->
    r.newPools.lookup endpoint = some p ∨ addOnly = true ∧ r.oldPools.lookup endpoint = some p
  closed : forall endpoint p, addOnly = false -> r.oldPools.lookup endpoint = some p ->
    m'.pools p = (r.store.pools p).close
  others : forall p, addOnly = true ∨ (forall endpoint, r.oldPools.lookup endpoint ≠ some p) ->
    m'.pools p = r.store.pools p

section
variable {m : Store} {call : Update} {r : Rebuild}

theorem installed_of_addOnly (hdisjoint : forall endpoint p, r.oldPools.lookup endpoint = some p ->
      r.newPools.lookup endpoint = none) :
    Installed r true (r.store.publish (addAll r.newPools r.oldPools)) := by
  have hlookup : forall endpoint, (addAll r.newPools r.oldPools).lookup endpoint =
      (r.oldPools.lookup endpoint).or (r.newPools.lookup endpoint) := by
    intro endpoint
    refine lookup_addAll (fun hin => ?_)
    rcases FiniteMap.exists_lookup hin with ⟨p, hp⟩
    exact hdisjoint endpoint p hp
  constructor
  case size | made => rfl
  case published => exact lookup_publish _ _
  case table =>
    intro endpoint p
    show (addAll r.newPools r.oldPools).lookup endpoint = some p <-> _
    rw [hlookup endpoint]
    cases hold : r.oldPools.lookup endpoint with
    | some q =>
        rw [hdisjoint endpoint q hold]
        exact ⟨fun h => Or.inr ⟨rfl, h⟩, fun h => (h.resolve_left nofun).2⟩
    | none => exact ⟨Or.inl, fun h => h.resolve_right nofun⟩
  case closed =>
    intro endpoint p h
    cases h
  case others =>
    intro p _
    rfl

theorem installed_of_removal
    (hinj : forall e e' p, r.oldPools.lookup e = some p -> r.oldPools.lookup e' = some p ->
      e = e') :
    Installed r false
      ((r.store.closePools (FiniteMap.values r.oldPools)).publish r.newPools) := by
  have hframe := closePools_frame r.store (FiniteMap.values r.oldPools)
  have hnodup := FiniteMap.values_nodup hinj
  constructor
  case size => exact hframe.2
  case made => exact hframe.1
  case published => exact lookup_publish _ _
  case table =>
    intro endpoint p
    exact ⟨Or.inl, fun h => h.resolve_right nofun⟩
  case closed =>
    intro endpoint p _ hold
    exact closePools_of_mem hnodup (FiniteMap.mem_values.mpr ⟨endpoint, hold⟩)
  case others =>
    intro p hp
    refine closePools_of_not_mem (fun hmem => ?_)
    rcases FiniteMap.mem_values.mp hmem with ⟨endpoint, hold⟩
    exact hp.resolve_left nofun endpoint hold

theorem installed_update (hm : Accounted m) :
    Installed (call.endpoints.entries.foldl takePool
        { store := m, oldPools := m.slowState, newPools := ∅ })
      call.addOnly (m.updateEndpoints call.endpoints call.addOnly) := by
  have hr := rebuilding_all hm call.endpoints
  unfold Store.updateEndpoints
  cases call.addOnly with
  | true =>
      refine installed_of_addOnly (fun endpoint p hold => ?_)
      cases hnew : AList.lookup endpoint _ with
      | none => rfl
      | some q =>
          have hin : endpoint ∈ _ := FiniteMap.mem_of_lookup hnew
          exact (((hr.old endpoint p).mp hold).2 ((hr.keys endpoint).mp hin)).elim
  | false =>
      refine installed_of_removal (fun e e' p he he' => ?_)
      have hid := (hm.present e p ((hr.old e p).mp he).1).2.1
      have hid' := (hm.present e' p ((hr.old e' p).mp he').1).2.1
      exact hid.symm.trans hid'

/-- What a call of `update_endpoints` does to the table. -/
structure Updated (m m' : Store) (call : Update) : Prop where
  published : forall endpoint, m'.fastState.lookup endpoint = m'.slowState.lookup endpoint
  keys : forall endpoint, endpoint ∈ m'.slowState <->
    endpoint ∈ call.endpoints ∨ call.addOnly = true ∧ endpoint ∈ m.slowState
  kept : forall endpoint p, m.slowState.lookup endpoint = some p -> endpoint ∈ m'.slowState ->
    m'.slowState.lookup endpoint = some p
  targets : forall endpoint p target, m'.slowState.lookup endpoint = some p ->
    call.endpoints.lookup endpoint = some target ->
      (m'.pools p).targets = List.replicate m'.numPoolConnections target
  retained : forall endpoint p, m'.slowState.lookup endpoint = some p ->
    endpoint ∉ call.endpoints -> m'.pools p = m.pools p
  accounted : forall p, p < m'.made ->
    (exists endpoint, m'.slowState.lookup endpoint = some p) ∧ (m'.pools p).closes = 0 ∨
      (forall endpoint, m'.slowState.lookup endpoint ≠ some p) ∧ (m'.pools p).closes = 1
  created : m.made ≤ m'.made ∧ forall p, m.made ≤ p -> p < m'.made -> (m'.pools p).closes = 0
  closes : forall p, p < m.made -> (m'.pools p).closes ≠ (m.pools p).closes ->
    call.addOnly = false ∧ (m'.pools p).closes = (m.pools p).closes + 1 ∧
      exists endpoint, (m.pools p).endpointId = endpoint ∧
        m.slowState.lookup endpoint = some p ∧ endpoint ∉ call.endpoints

theorem processed_all {endpoints : FiniteMap Endpoint KvTarget} {endpoint : Endpoint} :
    Processed endpoints [] endpoint <-> endpoint ∈ endpoints :=
  ⟨fun h => h.1, fun h => ⟨h, List.not_mem_nil⟩⟩

section
variable {m' : Store} (hm : Accounted m) (hr : Rebuilding m call.endpoints [] r)
  (hi : Installed r call.addOnly m')
include hm hr

theorem old_pool {endpoint : Endpoint} {p : PoolId} (h : r.oldPools.lookup endpoint = some p) :
    m.slowState.lookup endpoint = some p ∧ endpoint ∉ call.endpoints ∧
      r.store.pools p = m.pools p := by
  rcases (hr.old endpoint p).mp h with ⟨hslow, hpending⟩
  have hlt := (hm.present endpoint p hslow).1
  exact ⟨hslow, fun hin => hpending (processed_all.mpr hin),
    hr.untouched p hlt (old_not_new hm hr h)⟩

include hi

theorem installed_mem {endpoint : Endpoint} :
    endpoint ∈ m'.slowState <->
      endpoint ∈ call.endpoints ∨ call.addOnly = true ∧ endpoint ∈ m.slowState := by
  constructor
  · intro hin
    rcases FiniteMap.exists_lookup hin with ⟨p, hp⟩
    rcases (hi.table endpoint p).mp hp with hnew | ⟨hadd, hold⟩
    · have hmem : endpoint ∈ r.newPools := FiniteMap.mem_of_lookup hnew
      exact Or.inl ((hr.keys endpoint).mp hmem).1
    · have hslow := (old_pool hm hr hold).1
      exact Or.inr ⟨hadd, FiniteMap.mem_of_lookup hslow⟩
  · intro h
    have hsome : forall p, r.newPools.lookup endpoint = some p ∨
        call.addOnly = true ∧ r.oldPools.lookup endpoint = some p -> endpoint ∈ m'.slowState := by
      intro p hp
      have hlookup := (hi.table endpoint p).mpr hp
      exact FiniteMap.mem_of_lookup hlookup
    by_cases hin : endpoint ∈ call.endpoints
    · have hmem := (hr.keys endpoint).mpr (processed_all.mpr hin)
      rcases FiniteMap.exists_lookup hmem with ⟨p, hp⟩
      exact hsome p (Or.inl hp)
    · rcases h.resolve_left hin with ⟨hadd, hmem⟩
      rcases FiniteMap.exists_lookup hmem with ⟨p, hp⟩
      exact hsome p (Or.inr ⟨hadd, (hr.old endpoint p).mpr ⟨hp, fun h => hin h.1⟩⟩)

/-- A pool of the new table was there before or is new. -/
theorem installed_source {endpoint : Endpoint} {p : PoolId}
    (h : m'.slowState.lookup endpoint = some p) :
    m.slowState.lookup endpoint = some p ∨ m.made ≤ p := by
  rcases (hi.table endpoint p).mp h with hnew | ⟨_, hold⟩
  · exact (hr.taken endpoint p hnew).1
  · exact Or.inl (old_pool hm hr hold).1

/-- A pool in the table after the update was not closed by it. -/
theorem installed_open {endpoint : Endpoint} {p : PoolId}
    (h : m'.slowState.lookup endpoint = some p) : m'.pools p = r.store.pools p := by
  apply hi.others p
  rcases (hi.table endpoint p).mp h with hnew | ⟨hadd, _⟩
  · exact Or.inr (fun other hold => old_not_new hm hr hold endpoint hnew)
  · exact Or.inl hadd

theorem accounted_update : Accounted m' := by
  have hpresent : forall endpoint p, m'.slowState.lookup endpoint = some p ->
      p < m'.made ∧ (m'.pools p).endpointId = endpoint ∧ (m'.pools p).closes = 0 ∧
        (m'.pools p).targets.length = m'.numPoolConnections := by
    intro endpoint p h
    rw [installed_open hm hr hi h, hi.made, hi.size, hr.size]
    rcases (hi.table endpoint p).mp h with hnew | ⟨_, hold⟩
    · rcases hr.taken endpoint p hnew with ⟨_, hlt, hid, hcloses, htargets⟩
      have hmem : endpoint ∈ r.newPools := FiniteMap.mem_of_lookup hnew
      have hin : endpoint ∈ call.endpoints := ((hr.keys endpoint).mp hmem).1
      rcases FiniteMap.exists_lookup hin with ⟨target, ht⟩
      refine ⟨hlt, hid, hcloses, ?_⟩
      rw [htargets target ht, List.length_replicate]
    · rcases old_pool hm hr hold with ⟨hslow, _, hsame⟩
      rw [hsame]
      rcases hm.present endpoint p hslow with ⟨hlt, hid, hcloses, hlen⟩
      exact ⟨Nat.lt_of_lt_of_le hlt hr.made, hid, hcloses, hlen⟩
  constructor
  case published => exact hi.published
  case present => exact hpresent
  case absent =>
    intro p hlt hnone
    rw [hi.made] at hlt
    have hnew : forall endpoint, r.newPools.lookup endpoint ≠ some p :=
      fun endpoint h => hnone endpoint ((hi.table endpoint p).mpr (Or.inl h))
    have hbefore : p < m.made := by
      rcases Nat.lt_or_ge p m.made with h | hge
      · exact h
      · rcases hr.fresh p hge hlt with ⟨endpoint, h⟩
        exact (hnew endpoint h).elim
    have hsame := hr.untouched p hbefore hnew
    by_cases hold : exists endpoint, r.oldPools.lookup endpoint = some p
    · rcases hold with ⟨endpoint, hold⟩
      have hadd : call.addOnly = false := by
        cases hadd : call.addOnly with
        | false => rfl
        | true => exact (hnone endpoint ((hi.table endpoint p).mpr (Or.inr ⟨hadd, hold⟩))).elim
      rw [hi.closed endpoint p hadd hold, hsame]
      have hzero := (hm.present endpoint p (old_pool hm hr hold).1).2.2.1
      show (m.pools p).closes + 1 = 1
      rw [hzero]
    · have hold' : forall endpoint, r.oldPools.lookup endpoint ≠ some p :=
        fun endpoint h => hold ⟨endpoint, h⟩
      rw [hi.others p (Or.inr hold'), hsame]
      refine hm.absent p hbefore (fun endpoint hslow => ?_)
      by_cases hin : endpoint ∈ call.endpoints
      · have hmem := (hr.keys endpoint).mpr (processed_all.mpr hin)
        exact hnew endpoint (hr.kept endpoint p hslow hmem)
      · exact hold' endpoint ((hr.old endpoint p).mpr ⟨hslow, fun h => hin h.1⟩)

theorem updated_update : Updated m m' call := by
  have hafter := accounted_update hm hr hi
  constructor
  case published => exact hi.published
  case keys => exact fun endpoint => installed_mem hm hr hi
  case kept =>
    intro endpoint p hslow hin
    refine (hi.table endpoint p).mpr ?_
    by_cases hgiven : endpoint ∈ call.endpoints
    · exact Or.inl (hr.kept endpoint p hslow ((hr.keys endpoint).mpr (processed_all.mpr hgiven)))
    · rcases ((installed_mem hm hr hi).mp hin).resolve_left hgiven with ⟨hadd, _⟩
      exact Or.inr ⟨hadd, (hr.old endpoint p).mpr ⟨hslow, fun h => hgiven h.1⟩⟩
  case targets =>
    intro endpoint p target h htarget
    rw [installed_open hm hr hi h, hi.size, hr.size]
    rcases (hi.table endpoint p).mp h with hnew | ⟨_, hold⟩
    · exact (hr.taken endpoint p hnew).2.2.2.2 target htarget
    · exact ((old_pool hm hr hold).2.1 (FiniteMap.mem_of_lookup htarget)).elim
  case retained =>
    intro endpoint p h hout
    rw [installed_open hm hr hi h]
    rcases (hi.table endpoint p).mp h with hnew | ⟨_, hold⟩
    · exact (hout ((hr.keys endpoint).mp (FiniteMap.mem_of_lookup hnew)).1).elim
    · exact (old_pool hm hr hold).2.2
  case accounted =>
    intro p hlt
    by_cases hin : exists endpoint, m'.slowState.lookup endpoint = some p
    · rcases hin with ⟨endpoint, h⟩
      exact Or.inl ⟨⟨endpoint, h⟩, (hafter.present endpoint p h).2.2.1⟩
    · have hnone : forall endpoint, m'.slowState.lookup endpoint ≠ some p :=
        fun endpoint h => hin ⟨endpoint, h⟩
      exact Or.inr ⟨hnone, hafter.absent p hlt hnone⟩
  case created =>
    rw [hi.made]
    refine ⟨hr.made, fun p hge hlt => ?_⟩
    rcases hr.fresh p hge hlt with ⟨endpoint, hnew⟩
    exact (hafter.present endpoint p ((hi.table endpoint p).mpr (Or.inl hnew))).2.2.1
  case closes =>
    intro p hlt hchanged
    have hnew : forall endpoint, r.newPools.lookup endpoint ≠ some p := by
      intro endpoint h
      have hopen := (hafter.present endpoint p ((hi.table endpoint p).mpr (Or.inl h))).2.2.1
      rcases (hr.taken endpoint p h).1 with hslow | hge
      · exact hchanged (hopen.trans (hm.present endpoint p hslow).2.2.1.symm)
      · exact Nat.not_lt.mpr hge hlt
    have hsame := hr.untouched p hlt hnew
    have hold : exists endpoint, r.oldPools.lookup endpoint = some p := by
      by_contra hnone
      have hothers := hi.others p (Or.inr (fun endpoint h => hnone ⟨endpoint, h⟩))
      exact hchanged (by rw [hothers, hsame])
    rcases hold with ⟨endpoint, hold⟩
    have hadd : call.addOnly = false := by
      cases hadd : call.addOnly with
      | false => rfl
      | true => exact (hchanged (by rw [hi.others p (Or.inl hadd), hsame])).elim
    rcases old_pool hm hr hold with ⟨hslow, hout, _⟩
    have hid := (hm.present endpoint p hslow).2.1
    refine ⟨hadd, ?_, endpoint, hid, hslow, hout⟩
    rw [hi.closed endpoint p hadd hold, hsame]
    rfl

end

end

theorem accounted_empty (numPoolConnections : Nat) :
    Accounted (Store.empty numPoolConnections) := by
  constructor
  · intro endpoint
    rfl
  · intro endpoint p h
    cases h
  · intro p h
    exact (Nat.not_lt_zero p h).elim

theorem updated_of_accounted {m : Store} (hm : Accounted m) (call : Update) :
    Updated m (m.updateEndpoints call.endpoints call.addOnly) call :=
  updated_update hm (rebuilding_all hm call.endpoints) (installed_update hm)

theorem source_of_accounted {m : Store} (hm : Accounted m) (call : Update)
    {endpoint : Endpoint} {p : PoolId}
    (h : (m.updateEndpoints call.endpoints call.addOnly).slowState.lookup endpoint = some p) :
    m.slowState.lookup endpoint = some p ∨ m.made ≤ p :=
  installed_source hm (rebuilding_all hm call.endpoints) (installed_update hm) h

theorem accounted_run {m : Store} (hm : Accounted m) (calls : List Update) :
    Accounted (m.run calls) := by
  induction calls generalizing m with
  | nil => exact hm
  | cons call rest ih =>
      apply ih
      exact accounted_update hm (rebuilding_all hm call.endpoints) (installed_update hm)

theorem run_concat (m : Store) (calls : List Update) (call : Update) :
    m.run (calls ++ [call]) =
      (m.run calls).updateEndpoints call.endpoints call.addOnly := by
  unfold Store.run
  rw [List.foldl_append]
  rfl

/-- Every call in every sequence of updates. -/
theorem updateEndpoints_of_run (numPoolConnections : Nat) (calls : List Update)
    (call : Update) :
    Updated ((Store.empty numPoolConnections).run calls)
      ((Store.empty numPoolConnections).run (calls ++ [call])) call := by
  rw [run_concat]
  exact updated_of_accounted (accounted_run (accounted_empty numPoolConnections) calls) call

end EndpointManager
end CouchbaseSdk
