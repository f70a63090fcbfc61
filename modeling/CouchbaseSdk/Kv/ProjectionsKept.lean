import CouchbaseSdk.Kv.ProjectionPaths

/-!
# Projections that are kept

Lookups of keys, none of which is above another, and what is left of them in the document that is
made of them.  Below one first key only the last projection is left, and a key between backticks is
not the name it is written to.
-/

namespace CouchbaseSdk
namespace Kv

open Foundation
open CollectionDs (parsePath)

/-- A spec of keys with the result of a lookup that found it. -/
structure KeyLookup (fromSlice : Buffer -> Option JsonValue) where
  spec : LookupInSpec
  result : LookupInResultEntry
  keys : List String
  value : JsonValue
  path : parsePath spec.path = some (keys.map .key)
  keys_ne : keys ≠ []
  successful : result.error = none
  read : result.value.bind fromSlice = some value

section Kept

variable (fromSlice : Buffer -> Option JsonValue)

def buildFromLookups (lookups : List (KeyLookup fromSlice)) : Exec ErrorKind Buffer :=
  buildFromSubdocEntries fromSlice (lookups.map KeyLookup.spec) (lookups.map KeyLookup.result)

/-- No path is above another. -/
def Apart (lookups : List (KeyLookup fromSlice)) : Prop :=
  lookups.Pairwise fun l k => ¬ l.keys <+: k.keys ∧ ¬ k.keys <+: l.keys

/-- The values are at their paths, and there is no leaf at a path of another kind. -/
structure HoldsLookups (lookups : List (KeyLookup fromSlice)) (document : JsonValue) : Prop where
  kept : forall l, l ∈ lookups -> document.getPath l.keys = some l.value
  only : forall path leaf, path ≠ [] -> document.getPath path = some leaf -> leaf.IsLeaf ->
    exists l, l ∈ lookups ∧ l.keys <+: path

structure KeepsProjections (lookups : List (KeyLookup fromSlice)) : Prop where
  document : exists document, buildFromLookups fromSlice lookups = .ok document.toVec ∧
    HoldsLookups fromSlice lookups document
  order : forall other : List (KeyLookup fromSlice), other.Perm lookups ->
    buildFromLookups fromSlice other = buildFromLookups fromSlice lookups

/-- No key is between backticks, and no two paths have the same first key. -/
structure PlainAndDistinct (lookups : List (KeyLookup fromSlice)) : Prop where
  plain : forall l, l ∈ lookups -> '\x60' ∉ l.spec.path.toList
  distinct : (lookups.map fun l => l.keys.head?).Nodup

end Kept

/-!
# What is written for a lookup
-/

section Written

variable {fromSlice : Buffer -> Option JsonValue}

namespace KeyLookup

def parts (l : KeyLookup fromSlice) : List SubdocPath :=
  SubdocPath.pathParts l.spec.path

theorem readsKeys (l : KeyLookup fromSlice) : ReadsKeys l.spec.path.toList l.parts l.keys :=
  readsKeys_parsePath l.keys_ne l.path

/-- There is always a part: the first name is that of the first key or has a backtick in front. -/
theorem first_part (l : KeyLookup fromSlice) :
    exists part parts key keys, l.parts = part :: parts ∧ l.keys = key :: keys ∧
      (QuotedName part.path key ∨ part.path = key ∧ '\x60' ∉ key.toList) := by
  rcases List.exists_cons_of_ne_nil l.keys_ne with ⟨key, keys, hkeys⟩
  by_cases hbacktick : '\x60' ∈ l.spec.path.toList
  · have hdeparts := l.readsKeys.quoted hbacktick
    cases hparts : l.parts with
    | nil =>
        rw [hparts] at hdeparts
        cases hdeparts
    | cons part parts =>
        rw [hparts, hkeys] at hdeparts
        refine ⟨part, parts, key, keys, rfl, hkeys, ?_⟩
        cases hdeparts with
        | here _ _ hquoted => exact Or.inl hquoted
        | later hplain _ => exact Or.inr ⟨rfl, hplain⟩
  · rcases l.readsKeys.plain hbacktick with ⟨hparts, hplain⟩
    rw [hkeys] at hparts hplain
    exact ⟨_, _, key, keys, hparts, hkeys, Or.inr ⟨rfl, hplain key List.mem_cons_self⟩⟩

theorem parts_ne (l : KeyLookup fromSlice) : l.parts ≠ [] := by
  rcases l.first_part with ⟨part, parts, key, keys, hparts, _, _⟩
  rw [hparts]
  exact List.cons_ne_nil _ _

/-- The entry of the document that a lookup is written to. -/
def written (l : KeyLookup fromSlice) : String × JsonValue :=
  match l.parts with
  | [] => ("", l.value)
  | part :: parts => (part.path, SubdocPath.child part parts l.value)

theorem top_eq_written (l : KeyLookup fromSlice) :
    SubdocPath.top l.parts l.value = some l.written := by
  unfold written
  rcases l.first_part with ⟨part, parts, key, keys, hparts, _, _⟩
  rw [hparts]
  rfl

theorem lookupValue_eq (l : KeyLookup fromSlice) :
    lookupValue fromSlice l.result = .ok (some l.value) := by
  rcases Option.bind_eq_some_iff.mp l.read with ⟨bytes, hbytes, hread⟩
  unfold lookupValue
  simp only [l.successful, hbytes, hread]

end KeyLookup

def documentOf (lookups : List (KeyLookup fromSlice)) : JsonValue :=
  .object (Ordered.insertAll (lookups.map KeyLookup.written) [])

theorem projectEntries_eq (lookups : List (KeyLookup fromSlice)) (content : JsonValue) :
    projectEntries fromSlice (lookups.map KeyLookup.spec) (lookups.map KeyLookup.result) content =
      SubdocPath.writeAll (lookups.map fun l => (l.parts, l.value)) content := by
  induction lookups generalizing content with
  | nil => rfl
  | cons l lookups ih =>
      rw [List.map_cons, List.map_cons, projectEntries, l.lookupValue_eq, List.map_cons,
        SubdocPath.writeAll, ← funext ih]
      rfl

theorem buildFromLookups_eq (lookups : List (KeyLookup fromSlice)) :
    buildFromLookups fromSlice lookups = .ok (documentOf lookups).toVec := by
  have hparts : forall f, f ∈ lookups.map (fun l => (l.parts, l.value)) -> f.1 ≠ [] := by
    intro f hf
    rcases List.mem_map.mp hf with ⟨l, _, hl⟩
    rw [← hl]
    exact l.parts_ne
  have htops : (lookups.map fun l => (l.parts, l.value)).filterMap
      (fun f => SubdocPath.top f.1 f.2) = lookups.map KeyLookup.written := by
    rw [List.filterMap_map]
    have hsome : (fun f => SubdocPath.top f.1 f.2) ∘ (fun l => (l.parts, l.value)) =
        some ∘ @KeyLookup.written fromSlice :=
      funext fun l => l.top_eq_written
    rw [hsome, List.filterMap_eq_map]
  unfold buildFromLookups buildFromSubdocEntries
  rw [projectEntries_eq, SubdocPath.writeAll_object hparts, htops]
  rfl

theorem get_documentOf (lookups : List (KeyLookup fromSlice)) (name : String) :
    (documentOf lookups).get name = (lookups.map KeyLookup.written).reverse.lookup name := by
  rw [documentOf, JsonValue.get_object, Ordered.lookup_insertAll, List.lookup_nil, Option.or_none]

/-!
# Plain keys that begin differently
-/

theorem written_plain {l : KeyLookup fromSlice} (h : '\x60' ∉ l.spec.path.toList) :
    exists key keys, l.keys = key :: keys ∧ l.written = (key, JsonValue.nest keys l.value) := by
  rcases List.exists_cons_of_ne_nil l.keys_ne with ⟨key, keys, hkeys⟩
  have hparts := (l.readsKeys.plain h).1
  rw [hkeys] at hparts
  refine ⟨key, keys, hkeys, ?_⟩
  unfold KeyLookup.written
  rw [hparts]
  exact congrArg (Prod.mk key) (SubdocPath.child_names key keys l.value)

theorem names_of_plain {lookups : List (KeyLookup fromSlice)}
    (h : PlainAndDistinct fromSlice lookups) :
    ((lookups.map KeyLookup.written).map Prod.fst).Nodup := by
  have hnames : (lookups.map fun l => l.keys.head?) =
      ((lookups.map KeyLookup.written).map Prod.fst).map some := by
    rw [List.map_map, List.map_map]
    apply List.map_congr_left
    intro l hl
    rcases written_plain (h.plain l hl) with ⟨key, keys, hkeys, hwritten⟩
    rw [Function.comp_apply, Function.comp_apply, hkeys, hwritten]
    rfl
  have hdistinct := h.distinct
  rw [hnames] at hdistinct
  exact hdistinct.of_map

theorem holds_of_plain {lookups : List (KeyLookup fromSlice)}
    (h : PlainAndDistinct fromSlice lookups) :
    HoldsLookups fromSlice lookups (documentOf lookups) := by
  have hnames := names_of_plain h
  constructor
  · intro l hl
    rcases written_plain (h.plain l hl) with ⟨key, keys, hkeys, hwritten⟩
    have hmem : (key, JsonValue.nest keys l.value) ∈ lookups.map KeyLookup.written :=
      List.mem_map.mpr ⟨l, hl, hwritten⟩
    have hfound := JsonValue.getPath_nest keys [] l.value
    rw [List.append_nil] at hfound
    rw [hkeys, JsonValue.getPath_cons, get_documentOf,
      (Ordered.lookup_reverse_iff hnames key _).mpr hmem, Option.bind_some]
    exact hfound
  · intro path leaf hne hpath hleaf
    rcases List.exists_cons_of_ne_nil hne with ⟨name, path', heq⟩
    rw [heq, JsonValue.getPath_cons, get_documentOf] at hpath
    rcases Option.bind_eq_some_iff.mp hpath with ⟨value, hvalue, hbelow⟩
    rcases List.mem_map.mp ((Ordered.lookup_reverse_iff hnames name value).mp hvalue) with
      ⟨l, hl, hwritten⟩
    rcases written_plain (h.plain l hl) with ⟨key, keys, hkeys, hnested⟩
    rw [hnested, Prod.mk.injEq] at hwritten
    rcases hwritten with ⟨hname, hnest⟩
    refine ⟨l, hl, ?_⟩
    rw [hkeys, heq, hname, List.prefix_cons_inj]
    rw [← hnest] at hbelow
    rcases JsonValue.prefix_of_getPath_nest hbelow with ⟨more, hmore⟩ | habove
    · cases more with
      | nil =>
          rw [List.append_nil] at hmore
          cases hmore
          exact List.prefix_rfl
      | cons next more =>
          -- Above the value there is a member, so it is no leaf.
          have hnested : JsonValue.nest keys l.value =
              JsonValue.nest path' (JsonValue.nest (next :: more) l.value) := by
            rw [← hmore]
            exact List.foldr_append
          have hhere := JsonValue.getPath_nest path' [] (JsonValue.nest (next :: more) l.value)
          rw [List.append_nil, ← hnested, hbelow] at hhere
          have hmember : leaf.get next = some (JsonValue.nest more l.value) := by
            cases hhere
            exact JsonValue.get_single_self next _
          rw [hleaf next] at hmember
          cases hmember
    · exact habove

theorem keeps_of_plain {lookups : List (KeyLookup fromSlice)}
    (h : PlainAndDistinct fromSlice lookups) : KeepsProjections fromSlice lookups := by
  refine ⟨⟨documentOf lookups, buildFromLookups_eq lookups, holds_of_plain h⟩, ?_⟩
  intro other hperm
  have hsame : documentOf other = documentOf lookups :=
    congrArg JsonValue.object
      (Ordered.insertAll_perm (names_of_plain h) (hperm.map KeyLookup.written))
  rw [buildFromLookups_eq, buildFromLookups_eq, hsame]

/-!
# What is left
-/

theorem KeyLookup.first_name (l : KeyLookup fromSlice) :
    exists key keys, l.keys = key :: keys ∧
      (QuotedName l.written.1 key ∨ l.written.1 = key ∧ '\x60' ∉ key.toList) := by
  rcases l.first_part with ⟨part, parts, key, keys, hparts, hkeys, hfirst⟩
  have hname : l.written.1 = part.path := by
    unfold KeyLookup.written
    rw [hparts]
  rw [hname]
  exact ⟨key, keys, hkeys, hfirst⟩

/-- Of the lookups with a first name the last is left. -/
theorem last_lookup {lookups : List (KeyLookup fromSlice)} {l : KeyLookup fromSlice}
    (hl : l ∈ lookups) :
    exists front last back, lookups = front ++ last :: back ∧ last.written.1 = l.written.1 ∧
      (documentOf lookups).get l.written.1 = some last.written.2 ∧
      forall k, k ∈ back -> k.written.1 ≠ l.written.1 := by
  have hfound : ((lookups.map KeyLookup.written).reverse.lookup l.written.1).isSome := by
    rw [List.lookup_isSome_iff]
    refine ⟨l.written, List.mem_reverse.mpr (List.mem_map.mpr ⟨l, hl, rfl⟩), ?_⟩
    exact beq_self_eq_true _
  rcases Option.isSome_iff_exists.mp hfound with ⟨value, hvalue⟩
  rcases List.lookup_eq_some_iff.mp hvalue with ⟨after, before, hsplit, hafter⟩
  have hentries : lookups.map KeyLookup.written =
      before.reverse ++ (l.written.1, value) :: after.reverse := by
    rw [← List.reverse_reverse (lookups.map KeyLookup.written), hsplit]
    simp
  rcases List.map_eq_append_iff.mp hentries with ⟨front, rest, hlookups, _, hrest⟩
  rcases List.map_eq_cons_iff.mp hrest with ⟨last, back, hcons, hlast, hback⟩
  refine ⟨front, last, back, by rw [hlookups, hcons], by rw [hlast], ?_, ?_⟩
  · rw [get_documentOf, hvalue, hlast]
  · intro k hk heq
    have hmem : k.written ∈ after := by
      rw [← List.mem_reverse, ← hback]
      exact List.mem_map.mpr ⟨k, hk, rfl⟩
    have hne := hafter k.written hmem
    rw [heq, bne_self_eq_false] at hne
    cases hne

theorem exists_bound {alpha : Type} (size : alpha -> Nat) (items : List alpha) :
    exists bound, forall a, a ∈ items -> size a ≤ bound := by
  induction items with
  | nil => exact ⟨0, fun a h => absurd h List.not_mem_nil⟩
  | cons b items ih =>
      rcases ih with ⟨bound, hbound⟩
      refine ⟨max (size b) bound, List.forall_mem_cons.mpr ⟨le_max_left _ _, ?_⟩⟩
      intro a ha
      exact le_max_of_le_right (hbound a ha)

/-- Where each item of a kind has a longer one there is none. -/
theorem none_of_longer {alpha : Type} {items : List alpha} {p : alpha -> Prop} {size : alpha -> Nat}
    (h : forall a, a ∈ items -> p a -> exists b, b ∈ items ∧ p b ∧ size a < size b) :
    forall a, a ∈ items -> ¬ p a := by
  rcases exists_bound size items with ⟨bound, hbound⟩
  have hshort : forall n a, a ∈ items -> p a -> bound < size a + n -> False := by
    intro n
    induction n with
    | zero =>
        intro a ha _ hlt
        exact absurd (hbound a ha) (Nat.not_le.mpr hlt)
    | succ n ih =>
        intro a ha hp hlt
        rcases h a ha hp with ⟨b, hb, hpb, hlonger⟩
        exact ih b hb hpb (by omega)
  intro a ha hp
  exact hshort (bound + 1) a ha hp (by omega)

theorem written_chars (l : KeyLookup fromSlice) (h : l.written.1.toList.head? = some '\x60') :
    l.written.1.toList.all SubdocPath.isNameChar = true := by
  rcases l.first_name with ⟨key, keys, hkeys, hquoted | ⟨hname, hplain⟩⟩
  · exact hquoted.chars
  · rw [hname] at h
    exact absurd (List.mem_of_head? h) hplain

/-- Below a name with a backtick in front there is a leaf, and the key that leads to it is between
backticks itself. -/
theorem longer_of_holds {lookups : List (KeyLookup fromSlice)}
    (h : HoldsLookups fromSlice lookups (documentOf lookups)) {l : KeyLookup fromSlice}
    (hl : l ∈ lookups) (hbacktick : l.written.1.toList.head? = some '\x60') :
    exists k, k ∈ lookups ∧ k.written.1.toList.head? = some '\x60' ∧
      l.written.1.toList.length < k.written.1.toList.length := by
  rcases last_lookup hl with ⟨front, last, back, _, _, hget, _⟩
  rcases JsonValue.exists_leaf last.written.2 with ⟨path, leaf, hpath, hleaf⟩
  have hfound : (documentOf lookups).getPath (l.written.1 :: path) = some leaf := by
    rw [JsonValue.getPath_cons, hget]
    exact hpath
  rcases h.only _ leaf (List.cons_ne_nil _ _) hfound hleaf with ⟨k, hk, habove⟩
  rcases k.first_name with ⟨key, keys, hkeys, hname⟩
  rw [hkeys, List.cons_prefix_cons] at habove
  rw [habove.1] at hname
  have hquoted : QuotedName k.written.1 l.written.1 :=
    hname.resolve_right fun hplain => hplain.2 (List.mem_of_head? hbacktick)
  exact ⟨k, hk, hquoted.backtick, hquoted.longer (written_chars l hbacktick)⟩

theorem first_key_of_holds {lookups : List (KeyLookup fromSlice)}
    (h : HoldsLookups fromSlice lookups (documentOf lookups)) {l : KeyLookup fromSlice}
    (hl : l ∈ lookups) : exists keys, l.keys = l.written.1 :: keys := by
  have hnone := none_of_longer (fun a ha hp => longer_of_holds h ha hp) l hl
  rcases l.first_name with ⟨key, keys, hkeys, hquoted | ⟨hname, _⟩⟩
  · exact absurd hquoted.backtick hnone
  · exact ⟨keys, by rw [hname, hkeys]⟩

/-- Nothing is found along keys in what is written along other names. -/
theorem getPath_departs {parts : List SubdocPath} {keys : List String} (h : Departs parts keys)
    {part : SubdocPath} {rest : List SubdocPath} (hparts : parts = part :: rest)
    (value : JsonValue) :
    (JsonValue.object [(part.path, SubdocPath.child part rest value)]).getPath keys = none := by
  induction h generalizing part rest with
  | here others keys hquoted =>
      cases hparts
      rw [JsonValue.getPath_cons, JsonValue.get_single_ne hquoted.ne.symm, Option.bind_none]
  | @later key others keys hplain hrest ih =>
      cases hparts
      rw [JsonValue.getPath_cons, JsonValue.get_single_self, Option.bind_some]
      cases others with
      | nil => cases hrest
      | cons next others => exact ih rfl

/-- The last lookup with a first name has no key between backticks, if its value is at its path. -/
theorem last_plain {lookups : List (KeyLookup fromSlice)} {last : KeyLookup fromSlice}
    {keys : List String} (hkeys : last.keys = last.written.1 :: keys)
    (hget : (documentOf lookups).get last.written.1 = some last.written.2)
    (hkept : (documentOf lookups).getPath last.keys = some last.value) :
    '\x60' ∉ last.spec.path.toList := by
  intro hbacktick
  have hdeparts := last.readsKeys.quoted hbacktick
  rcases last.first_part with ⟨part, parts, _, _, hparts, _, _⟩
  have hwritten : last.written = (part.path, SubdocPath.child part parts last.value) := by
    unfold KeyLookup.written
    rw [hparts]
  have hnone := getPath_departs hdeparts hparts last.value
  rw [hkeys, hwritten, JsonValue.getPath_cons, JsonValue.get_single_self] at hnone
  rw [hwritten] at hget
  rw [hkeys, hwritten, JsonValue.getPath_cons, hget, hnone] at hkept
  cases hkept

/-- There is one lookup with a first name, if all values are at their paths. -/
theorem alone_of_holds {lookups : List (KeyLookup fromSlice)} (hapart : Apart fromSlice lookups)
    (h : HoldsLookups fromSlice lookups (documentOf lookups)) {l : KeyLookup fromSlice}
    (hl : l ∈ lookups) :
    '\x60' ∉ l.spec.path.toList ∧
      forall k, k ∈ lookups -> k.written.1 = l.written.1 -> k = l := by
  rcases last_lookup hl with ⟨front, last, back, hsplit, hname, hget, hback⟩
  have hmem : last ∈ lookups := by
    rw [hsplit]
    exact List.mem_append_right _ List.mem_cons_self
  rcases first_key_of_holds h hmem with ⟨keys, hkeys⟩
  rw [← hname] at hget
  have hplain := last_plain hkeys hget (h.kept last hmem)
  rcases written_plain hplain with ⟨key, keys', hkeys', hwritten⟩
  have hsame : forall k, k ∈ lookups -> k.written.1 = l.written.1 -> k = last := by
    intro k hk hk'
    have hk'' := hk
    rw [hsplit, List.mem_append, List.mem_cons] at hk''
    rcases hk'' with hfront | heq | hbehind
    · exfalso
      rw [Apart, hsplit, List.pairwise_append] at hapart
      have hnot := hapart.2.2 k hfront last List.mem_cons_self
      rcases first_key_of_holds h hk with ⟨others, hothers⟩
      have hkept := h.kept k hk
      have hkey : key = l.written.1 := by
        rw [← hname, hwritten]
      rw [hothers, hk', ← hname, JsonValue.getPath_cons, hget, hwritten, Option.bind_some] at hkept
      rw [hothers, hkeys', hk', hkey, List.prefix_cons_inj, List.prefix_cons_inj] at hnot
      exact (JsonValue.prefix_of_getPath_nest hkept).elim hnot.1 hnot.2
    · exact heq
    · exact absurd hk' (hback k hbehind)
  rw [hsame l hl rfl]
  exact ⟨hplain, fun k hk hk' => hsame k hk (by rw [hk', hname])⟩

theorem plain_of_holds {lookups : List (KeyLookup fromSlice)} (hapart : Apart fromSlice lookups)
    (h : HoldsLookups fromSlice lookups (documentOf lookups)) :
    PlainAndDistinct fromSlice lookups := by
  refine ⟨fun l hl => (alone_of_holds hapart h hl).1, ?_⟩
  unfold List.Nodup
  rw [List.pairwise_map]
  refine List.Pairwise.imp_of_mem ?_ hapart
  intro l k hl hk hnot heq
  rcases first_key_of_holds h hl with ⟨keys, hkeys⟩
  rcases first_key_of_holds h hk with ⟨keys', hkeys'⟩
  rw [hkeys, hkeys', List.head?_cons, List.head?_cons, Option.some.injEq] at heq
  rw [(alone_of_holds hapart h hk).2 l hl heq] at hnot
  exact hnot.1 List.prefix_rfl

end Written

/-- Projections are kept if and only if their first keys are different and no key is between
backticks. -/
theorem keeps_projections_iff (fromSlice : Buffer -> Option JsonValue)
    {lookups : List (KeyLookup fromSlice)} (hapart : Apart fromSlice lookups) :
    KeepsProjections fromSlice lookups <-> PlainAndDistinct fromSlice lookups := by
  constructor
  · intro h
    rcases h.document with ⟨document, hbuilt, hholds⟩
    rw [buildFromLookups_eq, Exec.ok.injEq] at hbuilt
    rw [← JsonValue.toVec_injective hbuilt] at hholds
    exact plain_of_holds hapart hholds
  · exact keeps_of_plain

/-- A lookup of a number. -/
def numberLookup (path : String) (keys : List String) (n : Nat)
    (hpath : parsePath path = some (keys.map .key)) (hne : keys ≠ []) :
    KeyLookup JsonValue.fromSlice where
  spec := LookupInSpec.get path none
  result :=
    { value := some (JsonValue.ofNat n).toVec
      error := none
      op := .get }
  keys := keys
  value := JsonValue.ofNat n
  path := hpath
  keys_ne := hne
  successful := rfl
  read := JsonValue.fromSlice_toVec (JsonValue.ofNat n)

def apartLookups : List (KeyLookup JsonValue.fromSlice) :=
  [numberLookup "a.b" ["a", "b"] 1 (by decide) (by decide),
    numberLookup "c" ["c"] 2 (by decide) (by decide)]

theorem keeps_projections_different_keys :
    KeepsProjections JsonValue.fromSlice apartLookups := by
  have hapart : Apart JsonValue.fromSlice apartLookups := by
    unfold Apart
    decide
  refine (keeps_projections_iff JsonValue.fromSlice hapart).mpr ⟨?_, by decide⟩
  decide

def siblingLookups : List (KeyLookup JsonValue.fromSlice) :=
  [numberLookup "a.b" ["a", "b"] 1 (by decide) (by decide),
    numberLookup "a.c" ["a", "c"] 2 (by decide) (by decide)]

/-- Of two members of one object the second alone is left. -/
theorem not_keeps_projections_siblings :
    Apart JsonValue.fromSlice siblingLookups ∧
      ¬ KeepsProjections JsonValue.fromSlice siblingLookups := by
  have hapart : Apart JsonValue.fromSlice siblingLookups := by
    unfold Apart
    decide
  refine ⟨hapart, ?_⟩
  intro h
  rcases h.document with ⟨document, hbuilt, hholds⟩
  rw [buildFromLookups_eq, Exec.ok.injEq] at hbuilt
  rw [← JsonValue.toVec_injective hbuilt] at hholds
  have hdistinct := (plain_of_holds hapart hholds).distinct
  revert hdistinct
  decide

end Kv
end CouchbaseSdk
