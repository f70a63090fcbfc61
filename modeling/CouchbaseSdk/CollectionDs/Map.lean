import CouchbaseSdk.CollectionDs.Collection
import CouchbaseSdk.CollectionDs.Server
import Mathlib.Data.Finmap

/-!
# Members of an object

The members of an object whose names are all different are a finite map, and the changes of single
members are those of a finite map.
-/

namespace CouchbaseSdk
namespace CollectionDs

open Foundation

abbrev JsonMap := Finmap fun _ : String => JsonValue

def names (members : Members) : List String :=
  members.map Prod.fst

def toMap (members : Members) : JsonMap :=
  List.toFinmap (members.map fun m => Sigma.mk m.1 m.2)

/-!
# Looking up
-/

@[simp] theorem lookup_toMap (members : Members) (k : String) :
    (toMap members).lookup k = members.lookup k := by
  unfold toMap
  rw [Finmap.dlookup_list_toFinmap]
  induction members with
  | nil => rfl
  | cons m members ih =>
      rw [List.map_cons, List.lookup_cons]
      by_cases hk : k = m.1
      · cases hk
        rw [List.dlookup_cons_eq, beq_self_eq_true]
      · rw [List.dlookup_cons_ne _ _ hk, ih, beq_eq_false_iff_ne.mpr hk]

theorem lookup_isSome_iff (members : Members) (k : String) :
    (members.lookup k).isSome = true <-> k ∈ names members := by
  induction members with
  | nil => simp [names]
  | cons m members ih =>
      rw [List.lookup_cons, names, List.map_cons, List.mem_cons]
      by_cases hk : k = m.1
      · simp [hk]
      · rw [beq_eq_false_iff_ne.mpr hk]
        constructor
        · intro h
          exact Or.inr (ih.mp h)
        · intro h
          exact ih.mpr (h.resolve_left hk)

theorem mem_toMap (members : Members) (k : String) : k ∈ toMap members <-> k ∈ names members := by
  rw [← Finmap.lookup_isSome, lookup_toMap]
  exact lookup_isSome_iff members k

theorem keys_toMap (members : Members) : (toMap members).keys = (names members).toFinset := by
  ext k
  rw [Finmap.mem_keys, mem_toMap, List.mem_toFinset]

theorem card_keys_toMap {members : Members} (h : (names members).Nodup) :
    (toMap members).keys.card = members.length := by
  rw [keys_toMap, List.toFinset_card_of_nodup h, names, List.length_map]

/-!
# Setting and removing
-/

theorem lookup_replaced (members : Members) (k k' : String) (value : JsonValue) :
    (members.map fun m => if m.1 = k then (k, value) else m).lookup k' =
      if k' = k then (members.lookup k).map fun _ => value else members.lookup k' := by
  induction members with
  | nil => simp
  | cons m members ih =>
      rw [List.map_cons, List.lookup_cons, List.lookup_cons, List.lookup_cons, ih]
      by_cases hk : k' = k
      · by_cases hm : m.1 = k
        · simp [hk, hm]
        · have hne : (k == m.1) = false := beq_eq_false_iff_ne.mpr fun heq => hm heq.symm
          simp [hk, hm, hne]
      · by_cases hm : m.1 = k
        · have hne : (k' == k) = false := beq_eq_false_iff_ne.mpr hk
          simp [hk, hm, hne]
        · simp [hk, hm]

theorem lookup_setMember (members : Members) (k k' : String) (value : JsonValue) :
    (setMember members k value).lookup k' =
      if k' = k then some value else members.lookup k' := by
  unfold setMember
  split
  · next hsome =>
      rcases Option.isSome_iff_exists.mp hsome with ⟨v, hv⟩
      rw [lookup_replaced, hv, Option.map_some]
  · next hnone =>
      have hlookup : members.lookup k = none := by
        cases h : members.lookup k with
        | none => rfl
        | some v =>
            rw [h] at hnone
            exact absurd rfl hnone
      rw [List.lookup_append]
      by_cases hk : k' = k
      · rw [hk, hlookup, if_pos rfl]
        simp
      · have hne : (k' == k) = false := beq_eq_false_iff_ne.mpr hk
        rw [if_neg hk]
        simp [List.lookup_cons, hne]

theorem lookup_removeMember (members : Members) (k k' : String) :
    (removeMember members k).lookup k' = if k' = k then none else members.lookup k' := by
  unfold removeMember
  induction members with
  | nil => simp
  | cons m members ih =>
      rw [List.lookup_cons]
      by_cases hm : m.1 = k
      · rw [List.filter_cons_of_neg (by simp [hm]), ih]
        by_cases hk : k' = k
        · simp [hk]
        · have hne : (k' == m.1) = false := beq_eq_false_iff_ne.mpr fun heq => hk (heq.trans hm)
          simp [hk, hne]
      · rw [List.filter_cons_of_pos (by simp [hm]), List.lookup_cons, ih]
        by_cases hk : k' = k
        · have hne : (k == m.1) = false := beq_eq_false_iff_ne.mpr fun heq => hm heq.symm
          simp [hk, hne]
        · simp [hk]

theorem toMap_setMember (members : Members) (k : String) (value : JsonValue) :
    toMap (setMember members k value) = (toMap members).insert k value := by
  apply Finmap.ext_lookup
  intro k'
  rw [lookup_toMap, lookup_setMember]
  by_cases hk : k' = k
  · rw [if_pos hk, hk, Finmap.lookup_insert]
  · rw [if_neg hk, Finmap.lookup_insert_of_ne _ hk, lookup_toMap]

theorem toMap_removeMember (members : Members) (k : String) :
    toMap (removeMember members k) = (toMap members).erase k := by
  apply Finmap.ext_lookup
  intro k'
  rw [lookup_toMap, lookup_removeMember]
  by_cases hk : k' = k
  · rw [if_pos hk, hk, Finmap.lookup_erase]
  · rw [if_neg hk, Finmap.lookup_erase_ne hk, lookup_toMap]

/-!
# Names stay different
-/

theorem names_replaced (members : Members) (k : String) (value : JsonValue) :
    names (members.map fun m => if m.1 = k then (k, value) else m) = names members := by
  unfold names
  rw [List.map_map]
  apply List.map_congr_left
  intro m _
  by_cases hm : m.1 = k
  · simp [hm]
  · simp [hm]

theorem nodup_names_setMember {members : Members} (h : (names members).Nodup) (k : String)
    (value : JsonValue) : (names (setMember members k value)).Nodup := by
  unfold setMember
  split
  · rw [names_replaced]
    exact h
  · next hnone =>
      rw [lookup_isSome_iff] at hnone
      rw [names, List.map_append]
      exact List.Nodup.append h (List.nodup_singleton k) (List.disjoint_singleton.mpr hnone)

theorem nodup_names_removeMember {members : Members} (h : (names members).Nodup) (k : String) :
    (names (removeMember members k)).Nodup :=
  List.Nodup.sublist (List.Sublist.map Prod.fst List.filter_sublist) h

/-!
# Maps

A map is an object.  Clients name its members one at a time by paths, and read all of them from the
whole document.
-/

open Kv (Deserialize ErrorKind LookupInSpec MutateInSpec checkIsMacro decodeCommonFlags)
open Memdx (MutateInOp Status SubdocDocFlag)

inductive MapOp where
  | insert (k : String) (value : JsonValue)
  | remove (k : String)
  | get (k : String)
  | containsKey (k : String)
  | len
  | keys

inductive MapResult (alpha : Type) where
  | inserted (r : Except ErrorKind Unit)
  | removed (r : Except ErrorKind Unit)
  | got (r : Except ErrorKind alpha)
  | contained (r : Except ErrorKind Bool)
  | length (r : Except ErrorKind Nat)
  | keys (r : Except ErrorKind (List String))

namespace CouchbaseMap

section Programs

variable {alpha : Type} (readAs : Deserialize alpha) (order : List String -> List String)

def get (k : String) : DsProgram (MapResult alpha) :=
  lookupIn [LookupInSpec.get k none] fun res =>
    .done (.got (res.bind fun res => res.contentAs readAs 0))

def insert (k : String) (value : JsonValue) : DsProgram (MapResult alpha) :=
  mutateIn [MutateInSpec.upsert k value {}] { storeSemantics := some .upsert } fun res =>
    .done (.inserted (res.map fun _ => ()))

def remove (k : String) : DsProgram (MapResult alpha) :=
  mutateIn [MutateInSpec.remove k {}] {} fun res =>
    .done (.removed (res.map fun _ => ()))

def containsKey (k : String) : DsProgram (MapResult alpha) :=
  lookupIn [LookupInSpec.exists_ k none] fun res =>
    .done (.contained (res.bind fun res => res.exists_ 0))

def len : DsProgram (MapResult alpha) :=
  lookupIn [LookupInSpec.count "" none] fun res =>
    .done (.length (res.bind fun res => res.contentAs JsonValue.toNat 0))

/-- The keys of a hash map, which has each once. -/
def deserializeKeys : Deserialize (List String)
  | .object members => some (names members).dedup
  | _ => none

/-- In the order of the hash map. -/
def keys : DsProgram (MapResult alpha) :=
  CollectionDs.get fun res =>
    .done (.keys (res.bind fun res => (res.contentAs deserializeKeys).map order))

def program : MapOp -> DsProgram (MapResult alpha)
  | .insert k value => insert k value
  | .remove k => remove k
  | .get k => get readAs k
  | .containsKey k => containsKey k
  | .len => len
  | .keys => keys order

end Programs

end CouchbaseMap

/-!
# What the operations of a map do
-/

/-- On a finite map. -/
inductive MapDoes {alpha : Type} (readAs : Deserialize alpha) :
    MapOp -> JsonMap -> MapResult alpha -> JsonMap -> Prop where
  | insert (k : String) (value : JsonValue) (m : JsonMap) :
      MapDoes readAs (.insert k value) m (.inserted (.ok ())) (m.insert k value)
  | remove (k : String) (m : JsonMap) (h : k ∈ m) :
      MapDoes readAs (.remove k) m (.removed (.ok ())) (m.erase k)
  | removeAbsent (k : String) (m : JsonMap) (e : ErrorKind) (h : k ∉ m) :
      MapDoes readAs (.remove k) m (.removed (.error e)) m
  | get (k : String) (m : JsonMap) (v : JsonValue) (value : alpha) (h : m.lookup k = some v)
      (hread : readAs v = some value) : MapDoes readAs (.get k) m (.got (.ok value)) m
  | getUnread (k : String) (m : JsonMap) (v : JsonValue) (e : ErrorKind)
      (h : m.lookup k = some v) (hread : readAs v = none) :
      MapDoes readAs (.get k) m (.got (.error e)) m
  | getAbsent (k : String) (m : JsonMap) (e : ErrorKind) (h : k ∉ m) :
      MapDoes readAs (.get k) m (.got (.error e)) m
  | containsKey (k : String) (m : JsonMap) (found : Bool) (h : found = true <-> k ∈ m) :
      MapDoes readAs (.containsKey k) m (.contained (.ok found)) m
  | len (m : JsonMap) : MapDoes readAs .len m (.length (.ok m.keys.card)) m
  | keys (m : JsonMap) (ks : List String) (hnodup : ks.Nodup) (hkeys : forall k, k ∈ ks <-> k ∈ m) :
      MapDoes readAs .keys m (.keys (.ok ks)) m

/-- The keys are paths of one component, and the value is no macro. -/
def MapOp.Plain : MapOp -> Prop
  | .insert k value => parsePath k = some [.key k] ∧ checkIsMacro value.toVec = false
  | .remove k => parsePath k = some [.key k]
  | .get k => parsePath k = some [.key k]
  | .containsKey k => parsePath k = some [.key k]
  | .len => True
  | .keys => True

def MapOp.makesDocument : MapOp -> Bool
  | .insert _ _ => true
  | _ => false

/-- Without a document these fail, where on an empty map they would not. -/
def MapOp.needsDocument : MapOp -> Bool
  | .containsKey _ => true
  | .len => true
  | .keys => true
  | _ => false

/-- No document, or an object whose members have different names. -/
def IsMap : Option Document -> Prop
  | none => True
  | some d => decodeCommonFlags d.flags = .json ∧
      exists members, d.content = .object members ∧ (names members).Nodup

def membersOf : Option Document -> Members
  | some { content := .object members, .. } => members
  | _ => []

def mapOf (doc : Option Document) : JsonMap :=
  toMap (membersOf doc)

/-- What an operation does to a map. -/
structure Answers {alpha : Type} (readAs : Deserialize alpha) (o : MapOp)
    (before : Option Document) (r : MapResult alpha) (after : Option Document) : Prop where
  isMap : IsMap after
  document : before.isSome = true ∨ o.makesDocument = true -> after.isSome = true
  does : (o.needsDocument = true -> before.isSome = true) ->
    MapDoes readAs o (mapOf before) r (mapOf after)

/-- What the plain operations do. -/
def DocumentDoes {alpha : Type} (readAs : Deserialize alpha) (o : MapOp)
    (before : Option Document) (r : MapResult alpha) (after : Option Document) : Prop :=
  o.Plain -> IsMap before -> Answers readAs o before r after

namespace CouchbaseMap

open Server

/-!
# Maps and documents
-/

theorem isMap_cases {doc : Option Document} (h : IsMap doc) :
    doc = none ∨ exists d members, doc = some d ∧ decodeCommonFlags d.flags = .json ∧
      d.content = .object members ∧ (names members).Nodup ∧ mapOf doc = toMap members := by
  cases doc with
  | none => exact Or.inl rfl
  | some d =>
      rcases d with ⟨cas, flags, content⟩
      rcases h with ⟨hflags, members, rfl, hnodup⟩
      exact Or.inr ⟨_, members, rfl, hflags, rfl, hnodup, rfl⟩

theorem mapOf_none : mapOf none = ∅ := rfl

/-- The document that a change leaves. -/
theorem isMap_of_members {cas : UInt64} {flags : UInt32} {members : Members}
    (hflags : decodeCommonFlags flags = .json) (hnodup : (names members).Nodup) :
    IsMap (some { cas := cas, flags := flags, content := .object members }) :=
  ⟨hflags, members, rfl, hnodup⟩

/-- What changes nothing leaves a map. -/
theorem Answers.of_same {alpha : Type} {readAs : Deserialize alpha} {o : MapOp}
    {doc : Option Document} {r : MapResult alpha} (hmap : IsMap doc)
    (hmakes : o.makesDocument = false)
    (hdoes : (o.needsDocument = true -> doc.isSome = true) ->
      MapDoes readAs o (mapOf doc) r (mapOf doc)) : Answers readAs o doc r doc where
  isMap := hmap
  document := by
    intro h
    rcases h with h | h
    · exact h
    · rw [hmakes] at h
      cases h
  does := hdoes

theorem find_key (members : Members) (k : String) :
    find [.key k] (.object members) = orNotFound (members.lookup k) := by
  simp only [find, item]
  cases members.lookup k <;> rfl

/-!
# The requests of a map
-/

def setOp (k : String) (value : JsonValue) : MutateInOp :=
  { op := .dictSet, flags := 0, path := Kv.asBytes k, value := value.toVec }

def removeOp (k : String) : MutateInOp :=
  { op := .delete, flags := 0, path := Kv.asBytes k, value := [] }

theorem ne_empty_of_parsePath {k : String} (h : parsePath k = some [.key k]) : k ≠ "" :=
  ((parsePath_key_iff k).mp h).1

theorem toOp_upsert {k : String} {value : JsonValue} (hne : k ≠ "")
    (hmacros : checkIsMacro value.toVec = false) :
    (MutateInSpec.upsert k value {}).toOp = .ok (setOp k value) := by
  simp [MutateInSpec.toOp, MutateInSpec.toOpType, MutateInSpec.opFlags, MutateInSpec.upsert,
    MutateInSpec.upsertRaw, MutateInSpec.withMacro, setOp, hne, hmacros, Except.map]

theorem toOp_remove {k : String} (hne : k ≠ "") :
    (MutateInSpec.remove k {}).toOp = .ok (removeOp k) := by
  simp [MutateInSpec.toOp, MutateInSpec.toOpType, MutateInSpec.opFlags, MutateInSpec.remove,
    removeOp, hne, Except.map]

theorem mutateOne_set {k : String} (hparse : parsePath k = some [.key k]) (value : JsonValue)
    (members : Members) : mutateOne (setOp k value) (.object members) =
      .ok (some (.object (setMember members k value))) := by
  have hbody : mutateOne (setOp k value) (.object members) =
      mutateBody (setOp k value) [.key k] (.object members) :=
    mutateOne_body rfl hparse rfl (.object members)
  rw [hbody]
  simp only [mutateBody, setOp, JsonValue.fromSlice_toVec]
  rfl

theorem mutateOne_remove {k : String} (hparse : parsePath k = some [.key k]) (members : Members) :
    mutateOne (removeOp k) (.object members) =
      if (members.lookup k).isSome then .ok (some (.object (removeMember members k)))
      else .error .subDocPathNotFound := by
  have hbody : mutateOne (removeOp k) (.object members) =
      mutateBody (removeOp k) [.key k] (.object members) :=
    mutateOne_body rfl hparse rfl (.object members)
  rw [hbody]
  simp only [mutateBody, removeOp, alter, List.getLast?_singleton, List.dropLast_singleton, within,
    delete]
  split <;> rfl

theorem newRoot_set (k : String) (value : JsonValue) :
    newRoot [setOp k value] = .object [] := by
  simp [newRoot, setOp]

/-!
# Looking at one member, at how many there are, and at all
-/

theorem toOp_exists (path : String) :
    (LookupInSpec.exists_ path none).toOp = { op := .exist, flags := 0, path := Kv.asBytes path } :=
  rfl

theorem toOp_count : (LookupInSpec.count "" none).toOp =
    { op := .getCount, flags := 0, path := Kv.asBytes "" } := rfl

theorem exists_key {k : String} {d : Document} {members : Members}
    (hparse : parsePath k = some [.key k]) (hcontent : d.content = .object members) :
    (lookedUp (LookupInSpec.exists_ k none) d).exists_ 0 = .ok (members.lookup k).isSome := by
  have hone : lookupOne d.content (LookupInSpec.exists_ k none).toOp =
      if (members.lookup k).isSome then (.success, none) else (.subDocPathNotFound, none) := by
    rw [toOp_exists, lookupOne_body rfl hparse rfl, hcontent]
    unfold lookupBody
    rw [find_key]
    cases members.lookup k <;> rfl
  unfold lookedUp
  rw [hone, lookupEntries_one]
  cases members.lookup k <;> rfl

theorem count_members {d : Document} {members : Members} (hcontent : d.content = .object members) :
    (lookedUp (LookupInSpec.count "" none) d).contentAs JsonValue.toNat 0 =
      .ok members.length := by
  have hone : lookupOne d.content (LookupInSpec.count "" none).toOp =
      (.success, some (JsonValue.ofNat members.length).toVec) := by
    rw [toOp_count, lookupOne_body rfl parsePath_empty rfl, hcontent]
    rfl
  have hraw : (lookedUp (LookupInSpec.count "" none) d).contentAsRaw 0 =
      .ok (JsonValue.ofNat members.length).toVec := by
    unfold lookedUp
    rw [hone]
    simp only [lookupEntries_one]
    rfl
  unfold Kv.LookupInResult.contentAs
  rw [hraw]
  simp only [JsonValue.fromSlice_toVec, Option.bind_some, JsonValue.toNat_ofNat]

theorem keys_members {d : Document} {members : Members}
    (hflags : decodeCommonFlags d.flags = .json) (hcontent : d.content = .object members)
    (hnodup : (names members).Nodup) :
    d.getResult.contentAs deserializeKeys = .ok (names members) := by
  unfold Document.getResult Kv.GetResult.contentAs
  simp only [hflags, hcontent, JsonValue.fromSlice_toVec, Option.bind_some, deserializeKeys,
    hnodup.dedup]
  rfl

/-!
# Each operation works at one point
-/

section Points

variable {alpha : Type} (readAs : Deserialize alpha)

theorem insert_does {s t : Server} {k : String} {value : JsonValue} {choice : Choice}
    {answer : MutateAnswer} (hparse : parsePath k = some [.key k]) (hmap : IsMap s.doc)
    (h : serve s choice (.mutateIn [setOp k value] SubdocDocFlag.MkDoc none) = some (answer, t)) :
    Answers readAs (.insert k value) s.doc
      (.inserted ((mutateInResult SubdocDocFlag.MkDoc answer).map fun _ => ())) t.doc := by
  have htarget : exists docFlags members, s.target [setOp k value] SubdocDocFlag.MkDoc none =
      .ok (docFlags, .object members) ∧ decodeCommonFlags docFlags = .json ∧
        (names members).Nodup ∧ mapOf s.doc = toMap members := by
    rw [target_upsert]
    rcases isMap_cases hmap with hnone | ⟨d, members, hdoc, hflags, hcontent, hnodup, hmapOf⟩
    · rw [hnone]
      refine ⟨0, [], ?_, Kv.decodeCommonFlags_zero, List.nodup_nil, rfl⟩
      simp only [newRoot_set]
    · rw [hdoc] at hmapOf ⊢
      refine ⟨d.flags, members, ?_, hflags, hnodup, hmapOf⟩
      simp only [hcontent]
  rcases htarget with ⟨docFlags, members, htarget, hflags, hnodup, hmapOf⟩
  rcases serve_mutateIn_document h with ⟨status, hfails, _⟩ | ⟨docFlags', root, hroot, hone⟩
  · rw [htarget] at hfails
    cases hfails
  · rw [htarget] at hroot
    cases hroot
    rw [mutateOne_set hparse] at hone
    rcases hone with ⟨status, hfails, _⟩ | ⟨content, hok, rfl, ht⟩
    · cases hfails
    · cases hok
      rw [ht]
      constructor
      · exact isMap_of_members hflags (nodup_names_setMember hnodup k value)
      · intro _
        rfl
      · intro _
        change MapDoes readAs _ _ _ (toMap (setMember members k value))
        rw [hmapOf, toMap_setMember]
        exact MapDoes.insert k value (toMap members)

theorem insert_proceeds (k : String) (value : JsonValue) (s : Server) :
    Proceeds serve (DocumentDoes readAs) Server.doc (.insert k value) (insert k value) s := by
  by_cases hplain : (MapOp.insert k value).Plain
  · unfold insert
    rw [mutateIn_made (toOp_upsert (ne_empty_of_parsePath hplain.1) hplain.2)]
    apply Proceeds.ask
    intro t _ choice answer u hserve
    constructor
    · intro _ hmap
      exact insert_does readAs hplain.1 hmap hserve
    · trivial
  · unfold insert mutateIn
    split
    · exact Proceeds.done fun h => absurd h hplain
    · apply Proceeds.ask
      intro t _ choice answer u _
      exact ⟨fun h => absurd h hplain, trivial⟩

theorem remove_does {s t : Server} {k : String} {choice : Choice} {answer : MutateAnswer}
    (hparse : parsePath k = some [.key k]) (hmap : IsMap s.doc)
    (h : serve s choice (.mutateIn [removeOp k] 0 none) = some (answer, t)) :
    Answers readAs (.remove k) s.doc
      (.removed ((mutateInResult 0 answer).map fun _ => ())) t.doc := by
  rcases isMap_cases hmap with hnone | ⟨d, members, hdoc, hflags, hcontent, hnodup, hmapOf⟩
  · rcases serve_mutateIn_document h with ⟨status, _, rfl, rfl⟩ | ⟨docFlags, root, hroot, _⟩
    · apply Answers.of_same hmap rfl
      intro _
      apply MapDoes.removeAbsent
      rw [hnone, mapOf_none]
      exact Finmap.notMem_empty
    · rw [target_any, hnone] at hroot
      cases hroot
  · have htarget : s.target [removeOp k] 0 none = .ok (d.flags, .object members) := by
      rw [target_any, hdoc, ← hcontent]
    rcases serve_mutateIn_document h with ⟨status, hfails, _⟩ | ⟨docFlags, root, hroot, hone⟩
    · rw [htarget] at hfails
      cases hfails
    · rw [htarget] at hroot
      cases hroot
      rw [mutateOne_remove hparse] at hone
      have hmem := lookup_isSome_iff members k
      rw [← mem_toMap, ← hmapOf] at hmem
      by_cases hsome : (members.lookup k).isSome = true
      · rw [if_pos hsome] at hone
        rcases hone with ⟨status, hfails, _⟩ | ⟨content, hok, rfl, ht⟩
        · cases hfails
        · cases hok
          rw [ht]
          constructor
          · exact isMap_of_members hflags (nodup_names_removeMember hnodup k)
          · intro _
            rfl
          · intro _
            change MapDoes readAs _ _ _ (toMap (removeMember members k))
            rw [toMap_removeMember, ← hmapOf]
            exact MapDoes.remove k (mapOf s.doc) (hmem.mp hsome)
      · rw [if_neg hsome] at hone
        rcases hone with ⟨status, hfails, rfl, rfl⟩ | ⟨content, hok, _⟩
        · apply Answers.of_same hmap rfl
          intro _
          exact MapDoes.removeAbsent k _ _ fun hk => hsome (hmem.mpr hk)
        · cases hok

theorem remove_proceeds (k : String) (s : Server) :
    Proceeds serve (DocumentDoes readAs) Server.doc (.remove k) (remove k) s := by
  by_cases hplain : (MapOp.remove k).Plain
  · unfold remove
    rw [mutateIn_one (toOp_remove (ne_empty_of_parsePath hplain))
      (show Kv.mutateInFlags none none = 0 by decide)]
    apply Proceeds.ask
    intro t _ choice answer u hserve
    constructor
    · intro _ hmap
      exact remove_does readAs hplain hmap hserve
    · trivial
  · unfold remove mutateIn
    split
    · exact Proceeds.done fun h => absurd h hplain
    · apply Proceeds.ask
      intro t _ choice answer u _
      exact ⟨fun h => absurd h hplain, trivial⟩

/-- A lookup of a document ends with what it was looked up for. -/
theorem lookup_proceeds {o : MapOp} {spec : LookupInSpec}
    {ends : Except ErrorKind Kv.LookupInResult -> MapResult alpha} {s : Server}
    (hmakes : o.makesDocument = false)
    (hnone : o.Plain -> (o.needsDocument = true -> False) ->
      MapDoes readAs o ∅ (ends (lookupInResult [spec] (.error .keyNotFound))) ∅)
    (hsome : forall d members, o.Plain -> d.content = .object members -> (names members).Nodup ->
      MapDoes readAs o (toMap members) (ends (.ok (lookedUp spec d))) (toMap members)) :
    Proceeds serve (DocumentDoes readAs) Server.doc o
      (lookupIn [spec] fun res => .done (ends res)) s := by
  rw [lookupIn_one]
  apply Proceeds.ask
  intro t _ choice answer u hserve
  constructor
  · intro hplain hmap
    rcases serve_lookupIn_one hserve with ⟨rfl, ⟨hdoc, rfl⟩ | ⟨d, hdoc, rfl⟩⟩
    · apply Answers.of_same hmap hmakes
      intro hneeds
      rw [hdoc, mapOf_none]
      apply hnone hplain
      intro hneed
      have hfound := hneeds hneed
      rw [hdoc] at hfound
      cases hfound
    · apply Answers.of_same hmap hmakes
      intro _
      rcases isMap_cases hmap with hnone | ⟨d', members, hdoc', _, hcontent, hnodup, hmapOf⟩
      · rw [hdoc] at hnone
        cases hnone
      · rw [hdoc] at hdoc'
        cases hdoc'
        rw [hmapOf]
        exact hsome d members hplain hcontent hnodup
  · trivial

theorem get_proceeds (k : String) (s : Server) :
    Proceeds serve (DocumentDoes readAs) Server.doc (.get k) (get readAs k) s := by
  apply lookup_proceeds readAs rfl
  · intro _ _
    exact MapDoes.getAbsent k ∅ _ Finmap.notMem_empty
  · intro d members hplain hcontent _
    have hne := ne_empty_of_parsePath hplain
    change MapDoes readAs (.get k) (toMap members)
      (.got ((lookedUp (LookupInSpec.get k none) d).contentAs readAs 0)) (toMap members)
    cases hlookup : members.lookup k with
    | none =>
        have hfind : find [.key k] d.content = .error .subDocPathNotFound := by
          rw [hcontent, find_key, hlookup]
          rfl
        rcases contentAs_get_error readAs hplain hne hfind with ⟨e, he⟩
        rw [he]
        apply MapDoes.getAbsent
        rw [← Finmap.lookup_eq_none, lookup_toMap]
        exact hlookup
    | some v =>
        have hfind : find [.key k] d.content = .ok v := by
          rw [hcontent, find_key, hlookup]
          rfl
        have hmember : (toMap members).lookup k = some v := by
          rw [lookup_toMap]
          exact hlookup
        rw [contentAs_get readAs hplain hne hfind]
        cases hread : readAs v with
        | none => exact MapDoes.getUnread k _ v _ hmember hread
        | some value => exact MapDoes.get k _ v value hmember hread

theorem containsKey_proceeds (k : String) (s : Server) :
    Proceeds serve (DocumentDoes readAs) Server.doc (.containsKey k) (containsKey k) s := by
  apply lookup_proceeds readAs rfl
  · intro _ hneeds
    exact absurd rfl hneeds
  · intro d members hplain hcontent _
    change MapDoes readAs (.containsKey k) (toMap members)
      (.contained ((lookedUp (LookupInSpec.exists_ k none) d).exists_ 0)) (toMap members)
    rw [exists_key hplain hcontent]
    apply MapDoes.containsKey
    rw [lookup_isSome_iff, mem_toMap]

theorem len_proceeds (s : Server) :
    Proceeds serve (DocumentDoes readAs) Server.doc .len len s := by
  apply lookup_proceeds readAs rfl
  · intro _ hneeds
    exact absurd rfl hneeds
  · intro d members _ hcontent hnodup
    change MapDoes readAs .len (toMap members)
      (.length ((lookedUp (LookupInSpec.count "" none) d).contentAs JsonValue.toNat 0))
      (toMap members)
    rw [count_members hcontent, ← card_keys_toMap hnodup]
    exact MapDoes.len (toMap members)

variable {order : List String -> List String}

theorem keys_proceeds (horder : forall ks, (order ks).Perm ks) (s : Server) :
    Proceeds serve (DocumentDoes readAs) Server.doc .keys (keys order) s := by
  apply Proceeds.ask
  intro t _ choice answer u hserve
  constructor
  · intro _ hmap
    rcases serve_get hserve with ⟨rfl, ⟨hdoc, rfl⟩ | ⟨d, hdoc, rfl⟩⟩
    · apply Answers.of_same hmap rfl
      intro hneeds
      have hfound := hneeds rfl
      rw [hdoc] at hfound
      cases hfound
    · apply Answers.of_same hmap rfl
      intro _
      rcases isMap_cases hmap with hnone | ⟨d', members, hdoc', hflags, hcontent, hnodup, hmapOf⟩
      · rw [hdoc] at hnone
        cases hnone
      · rw [hdoc] at hdoc'
        cases hdoc'
        rw [hmapOf]
        change MapDoes readAs .keys (toMap members)
          (.keys ((d.getResult.contentAs deserializeKeys).map order)) (toMap members)
        rw [keys_members hflags hcontent hnodup]
        have hperm := horder (names members)
        apply MapDoes.keys
        · exact hperm.nodup_iff.mpr hnodup
        · intro k
          rw [hperm.mem_iff, mem_toMap]
  · trivial

theorem implements (horder : forall ks, (order ks).Perm ks) :
    Implements serve (DocumentDoes readAs) Server.doc (program readAs order) := by
  intro o s
  cases o with
  | insert k value => exact insert_proceeds readAs k value s
  | remove k => exact remove_proceeds readAs k s
  | get k => exact get_proceeds readAs k s
  | containsKey k => exact containsKey_proceeds readAs k s
  | len => exact len_proceeds readAs s
  | keys => exact keys_proceeds readAs horder s

end Points

end CouchbaseMap

/-!
# Answers of a finite map

In every run whose keys are paths of one component a map answers as a finite map.  A key that is
another path names a part of another value.
-/

open Kv (Deserialize)

namespace CouchbaseMap

open Server

section Runs

variable {alpha : Type} (readAs : Deserialize alpha)

/-- Every operation is plain, and comes after an insertion where it needs a document. -/
def Usual (start : Option Document) (log : List (MapOp × MapResult alpha)) : Prop :=
  forall before o r after, log = before ++ (o, r) :: after ->
    o.Plain ∧ (o.needsDocument = true ->
      start.isSome = true ∨ exists p, p ∈ before ∧ p.1.makesDocument = true)

theorem Usual.of_concat {start : Option Document} {log : List (MapOp × MapResult alpha)}
    {o : MapOp} {r : MapResult alpha} (h : Usual start (log ++ [(o, r)])) : Usual start log := by
  intro before o' r' after hlog
  apply h before o' r' (after ++ [(o, r)])
  rw [hlog, List.append_assoc, List.cons_append]

/-- The document so far is a map, and there is one after an insertion. -/
theorem answers_of_history {start doc : Option Document} {log : List (MapOp × MapResult alpha)}
    (hstart : IsMap start) (h : History (DocumentDoes readAs) start log doc)
    (husual : Usual start log) :
    IsMap doc ∧
    ((start.isSome = true ∨ exists p, p ∈ log ∧ p.1.makesDocument = true) -> doc.isSome = true) ∧
      History (MapDoes readAs) (mapOf start) log (mapOf doc) := by
  induction h with
  | nil =>
      refine ⟨hstart, ?_, History.nil⟩
      intro h
      rcases h with hsome | ⟨p, hp, _⟩
      · exact hsome
      · cases hp
  | @snoc log before after o r _ hdoes ih =>
      rcases ih husual.of_concat with ⟨hmap, hdocument, hhistory⟩
      rcases husual log o r [] rfl with ⟨hplain, hneeds⟩
      have hanswers := hdoes hplain hmap
      refine ⟨hanswers.isMap, ?_, ?_⟩
      · intro h
        apply hanswers.document
        rcases h with hsome | ⟨p, hp, hmakes⟩
        · exact Or.inl (hdocument (Or.inl hsome))
        · rcases List.mem_append.mp hp with hearlier | hlast
          · exact Or.inl (hdocument (Or.inr ⟨p, hearlier, hmakes⟩))
          · rcases List.mem_singleton.mp hlast with rfl
            exact Or.inr hmakes
      · exact hhistory.snoc (hanswers.does fun hneed => hdocument (hneeds hneed))

variable {readAs} {order : List String -> List String}

/-- In every run of clients whose operations are plain and come after an insertion where they need
a document, all the answers are those of a finite map. -/
theorem map_answers (horder : forall ks, (order ks).Perm ks) {client : Type} [DecidableEq client]
    {s : Server} {w : World client MapOp Server Call Answer (MapResult alpha)}
    (hstart : IsMap s.doc)
    (hreach : StepFn.Reach (World.step (program readAs order) serve) StepFn.Always (World.new s) w)
    (husual : Usual s.doc w.log) :
    History (MapDoes readAs) (mapOf s.doc) w.log (mapOf w.shared.doc) :=
  (answers_of_history readAs hstart (linearizable (implements readAs horder) hreach) husual).2.2

/-- A member is inserted and counted. -/
theorem map_answers_insert_len :
    exists w : World Unit MapOp Server Call Answer (MapResult JsonValue),
      w.log = [(.insert "a" .null, .inserted (.ok ())), (.len, .length (.ok 1))] ∧
      History (MapDoes some) ∅ w.log (mapOf w.shared.doc) := by
  have hrun : exists w, StepFn.run (@World.step Unit _ _ _ _ _ _ _ (program some id) serve)
      (World.new Server.empty)
      [.start () (.insert "a" .null), .serve () ⟨1, none⟩, .start () .len,
        .serve () ⟨2, none⟩] = some w ∧
      w.log = [(.insert "a" .null, .inserted (.ok ())), (.len, .length (.ok 1))] :=
    ⟨_, rfl, rfl⟩
  rcases hrun with ⟨w, hrun, hlog⟩
  refine ⟨w, hlog, ?_⟩
  apply @map_answers _ some id List.Perm.refl Unit _ Server.empty w trivial
    (StepFn.reach_of_run hrun)
  rw [hlog]
  intro before o r after hsplit
  rcases before with _ | ⟨p, _ | ⟨q, before⟩⟩
  · cases hsplit
    exact ⟨⟨by decide, by decide⟩, fun hneeds => by cases hneeds⟩
  · cases hsplit
    exact ⟨trivial, fun _ => Or.inr ⟨_, List.mem_cons_self, rfl⟩⟩
  · simp at hsplit

/-- A member whose key has a dot in it is put into the value of another key. -/
theorem map_answers_dotted_key :
    exists w : World Unit MapOp Server Call Answer (MapResult JsonValue),
      StepFn.Reach (World.step (program some id) serve) StepFn.Always (World.new Server.empty) w ∧
      w.log = [(.insert "a" (.object []), .inserted (.ok ())),
        (.insert "a.b" .null, .inserted (.ok ())), (.len, .length (.ok 1))] ∧
      w.shared.content = some (.object [("a", .object [("b", .null)])]) ∧
      forall m, ¬ History (MapDoes some) ∅ w.log m := by
  have hrun : exists w, StepFn.run (@World.step Unit _ _ _ _ _ _ _ (program some id) serve)
      (World.new Server.empty)
      [.start () (.insert "a" (.object [])), .serve () ⟨1, none⟩,
        .start () (.insert "a.b" .null), .serve () ⟨2, none⟩,
        .start () .len, .serve () ⟨3, none⟩] = some w ∧
      w.log = [(.insert "a" (.object []), .inserted (.ok ())),
        (.insert "a.b" .null, .inserted (.ok ())), (.len, .length (.ok 1))] ∧
      w.shared.content = some (.object [("a", .object [("b", .null)])]) := ⟨_, rfl, rfl, rfl⟩
  rcases hrun with ⟨w, hrun, hlog, hcontent⟩
  refine ⟨w, StepFn.reach_of_run hrun, hlog, hcontent, ?_⟩
  intro m hhistory
  rw [hlog] at hhistory
  rcases @History.of_concat _ _ _ _ _ _ [_, _] _ _ hhistory with ⟨m₂, h₂, hlen⟩
  rcases @History.of_concat _ _ _ _ _ _ [_] _ _ h₂ with ⟨m₁, h₁, hdotted⟩
  rcases @History.of_concat _ _ _ _ _ _ [] _ _ h₁ with ⟨m₀, _, hinsert⟩
  generalize hcount : MapResult.length (.ok 1) = r at hlen
  cases hlen
  cases hinsert
  cases hdotted
  injection hcount with hcount
  injection hcount with hcount
  have hboth : forall k, k = "a.b" ∨ k = "a" ->
      k ∈ (Finmap.insert "a.b" JsonValue.null (Finmap.insert "a" (.object []) m₀)).keys := by
    intro k hk
    rw [Finmap.mem_keys, Finmap.mem_insert, Finmap.mem_insert]
    exact hk.imp_right Or.inl
  have hone := Finset.card_le_one.mp (le_of_eq hcount.symm) "a" (hboth "a" (Or.inr rfl))
    "a.b" (hboth "a.b" (Or.inl rfl))
  exact absurd hone (by decide)

end Runs

end CouchbaseMap

end CollectionDs
end CouchbaseSdk
