import CouchbaseSdk.CollectionDs.Server
import CouchbaseSdk.Kv.ProjectionPaths
import Mathlib.Data.List.Nodup

/-!
# Two ways to the same projections

A document that is made of lookups, each answered by the server, and one that is made of the whole
document.  The server follows the keys and the indices of a path and the code its names only, so
what is left of a projection may be different.
-/

namespace CouchbaseSdk
namespace Kv

open Foundation
open CollectionDs (parsePath)

/-- The value that the server finds. -/
def serverRead (document : JsonValue) (projection : String) : Option JsonValue :=
  (parsePath projection).bind fun path => (CollectionDs.find path document).toOption

section Agree

variable (fromSlice : Buffer -> Option JsonValue) (members : List (String × JsonValue))

/-- The result of a lookup: the value at the path, or no such path. -/
def AnswersPath (projection : String) (result : LookupInResultEntry) : Prop :=
  match serverRead (.object members) projection with
  | some value => result.error = none ∧ result.value.bind fromSlice = some value
  | none => result.error = some .pathNotFound

/-- The results of a lookup of the whole document and of one of each projection. -/
structure LookupsOf (projections : List String) where
  whole : LookupInResult
  bytes : Buffer
  one : whole.entries.length = 1
  content : whole.contentAsRaw 0 = .ok bytes
  read : fromSlice bytes = some (.object members)
  results : List LookupInResultEntry
  answers : List.Forall₂ (AnswersPath fromSlice members) projections results

/-- Both ways make the same content. -/
def ContentsAgree (projections : List String) (lookups : LookupsOf fromSlice members projections) :
    Prop :=
  exists content, buildFromFullDoc fromSlice lookups.whole (some projections) = .ok content ∧
    buildFromSubdocEntries fromSlice
      (projections.map fun projection => LookupInSpec.get projection none) lookups.results =
        .ok content

end Agree

/-- What a projection leaves below a name, if that is its first one and there is a value. -/
def leftBelow (read : String -> Option JsonValue) (name projection : String) : Option JsonValue :=
  match SubdocPath.pathParts projection with
  | [] => none
  | path :: rest =>
      if name = path.path then (read projection).map (SubdocPath.child path rest) else none

/-- What the last projection with a value leaves. -/
def lastLeft (read : String -> Option JsonValue) (projections : List String) (name : String) :
    Option JsonValue :=
  projections.reverse.findSome? (leftBelow read name)

/-- Every path has a step.  Below every first name the last projection that the server finds and the
last that is found by the names leave the same. -/
structure LeavesAlike (document : JsonValue) (projections : List String) : Prop where
  steps : "" ∉ projections
  last : forall name, lastLeft (serverRead document) projections name =
    lastLeft (nameRead document) projections name

/-!
# Both are values written one after the other
-/

section Build

variable {fromSlice : Buffer -> Option JsonValue} {members : List (String × JsonValue)}

theorem projectEntries_answers {projections : List String} {results : List LookupInResultEntry}
    (h : List.Forall₂ (AnswersPath fromSlice members) projections results) (content : JsonValue) :
    projectEntries fromSlice (projections.map fun projection => LookupInSpec.get projection none)
        results content =
      SubdocPath.writeAll (projections.filterMap (foundBy (serverRead (.object members))))
        content := by
  induction h generalizing content with
  | nil => rfl
  | @cons projection result projections results hanswer _ ih =>
      have hrest : projectEntries fromSlice
          (projections.map fun projection => LookupInSpec.get projection none) results =
          SubdocPath.writeAll
            (projections.filterMap (foundBy (serverRead (.object members)))) := funext ih
      unfold AnswersPath at hanswer
      rw [List.map_cons, projectEntries]
      cases hread : serverRead (.object members) projection with
      | none =>
          rw [hread] at hanswer
          have hlookup : lookupValue fromSlice result = .ok none := by
            unfold lookupValue
            simp only [hanswer]
          rw [hlookup, List.filterMap_cons_none (foundBy_none hread)]
          exact ih content
      | some value =>
          rw [hread] at hanswer
          rcases hanswer with ⟨herror, hvalue⟩
          have hlookup : lookupValue fromSlice result = .ok (some value) := by
            rcases Option.bind_eq_some_iff.mp hvalue with ⟨bytes, hbytes, hslice⟩
            unfold lookupValue
            simp only [herror, hbytes, hslice]
          rw [hlookup, List.filterMap_cons_some (foundBy_some hread), SubdocPath.writeAll, ← hrest]
          rfl

theorem buildFromFullDoc_eq {projections : List String}
    (lookups : LookupsOf fromSlice members projections) :
    buildFromFullDoc fromSlice lookups.whole (some projections) =
      (SubdocPath.writeAll (projections.filterMap (foundBy (nameRead (.object members))))
        (.object [])).map JsonValue.toVec := by
  have hone : ¬ lookups.whole.entries.length ≠ 1 := not_not_intro lookups.one
  simp only [buildFromFullDoc, if_neg hone, lookups.content, lookups.read, projectDocument_eq]

theorem buildFromSubdocEntries_eq {projections : List String}
    (lookups : LookupsOf fromSlice members projections) :
    buildFromSubdocEntries fromSlice
        (projections.map fun projection => LookupInSpec.get projection none) lookups.results =
      (SubdocPath.writeAll (projections.filterMap (foundBy (serverRead (.object members))))
        (.object [])).map JsonValue.toVec := by
  rw [buildFromSubdocEntries, projectEntries_answers lookups.answers]

end Build

/-!
# What is left of all projections
-/

theorem top_foundBy (read : String -> Option JsonValue) (name projection : String) :
    ((foundBy read projection).bind fun f => SubdocPath.top f.1 f.2).bind
        (fun e => if name = e.1 then some e.2 else none) =
      leftBelow read name projection := by
  unfold foundBy leftBelow
  cases read projection with
  | none =>
      cases SubdocPath.pathParts projection with
      | nil => rfl
      | cons path rest =>
          by_cases hname : name = path.path
          · simp [hname]
          · simp [hname]
  | some value =>
      cases SubdocPath.pathParts projection with
      | nil => rfl
      | cons path rest =>
          by_cases hname : name = path.path
          · simp [SubdocPath.top, hname]
          · simp [SubdocPath.top, hname]

theorem lookup_reverse_eq_lastLeft (read : String -> Option JsonValue) (projections : List String)
    (name : String) :
    ((projections.filterMap (foundBy read)).filterMap fun f =>
      SubdocPath.top f.1 f.2).reverse.lookup name = lastLeft read projections name := by
  rw [List.filterMap_filterMap, ← List.filterMap_reverse, Ordered.lookup_filterMap]
  unfold lastLeft
  congr
  funext projection
  exact top_foundBy read name projection

/-- A path with a step has a part. -/
theorem pathParts_ne {projection : String} (hne : projection ≠ "")
    (hread : (parsePath projection).isSome) : SubdocPath.pathParts projection ≠ [] := by
  rw [ne_eq, SubdocPath.pathParts_nil_iff]
  intro hdots
  unfold parsePath at hread
  cases hlist : projection.toList with
  | nil => exact hne (String.toList_eq_nil_iff.mp hlist)
  | cons c cs =>
      have hdot : c = '.' := by
        rw [hlist] at hdots
        exact hdots c List.mem_cons_self
      rw [hlist, hdot] at hread
      cases hread

theorem found_parts_ne {projections : List String} (hsteps : "" ∉ projections)
    (hread : forall projection, projection ∈ projections -> (parsePath projection).isSome)
    (read : String -> Option JsonValue) :
    forall f, f ∈ projections.filterMap (foundBy read) -> f.1 ≠ [] := by
  intro f hf
  rcases List.mem_filterMap.mp hf with ⟨projection, hmem, hfound⟩
  rcases Option.map_eq_some_iff.mp hfound with ⟨value, _, heq⟩
  rw [← heq]
  apply pathParts_ne _ (hread projection hmem)
  intro hempty
  rw [hempty] at hmem
  exact hsteps hmem

/-!
# Projections that are read alike
-/

theorem lastLeft_congr {read read' : String -> Option JsonValue} {projections : List String}
    (h : forall projection, projection ∈ projections -> read projection = read' projection)
    (name : String) : lastLeft read projections name = lastLeft read' projections name := by
  unfold lastLeft
  have hreverse : forall projection, projection ∈ projections.reverse ->
      read projection = read' projection := fun projection hmem =>
    h projection (List.mem_reverse.mp hmem)
  generalize projections.reverse = items at hreverse
  induction items with
  | nil => rfl
  | cons projection others ih =>
      rcases List.forall_mem_cons.mp hreverse with ⟨hfirst, hothers⟩
      rw [List.findSome?_cons, List.findSome?_cons, ih hothers]
      unfold leftBelow
      rw [hfirst]

theorem findSome?_unique {item result : Type} {f : item -> Option result} {items : List item}
    {i : item} (hmem : i ∈ items) (h : forall k, k ∈ items -> k ≠ i -> f k = none) :
    items.findSome? f = f i := by
  induction items with
  | nil => cases hmem
  | cons k items ih =>
      rcases List.forall_mem_cons.mp h with ⟨hfirst, hitems⟩
      rw [List.findSome?_cons]
      by_cases heq : k = i
      · rw [heq]
        cases hfound : f i with
        | some r => rfl
        | none =>
            rw [List.findSome?_eq_none_iff]
            intro other hother
            by_cases hother' : other = i
            · rw [hother', hfound]
            · exact hitems other hother hother'
      · rw [hfirst heq]
        exact ih ((List.mem_cons.mp hmem).resolve_left fun h' => heq h'.symm) hitems

def firstName (projection : String) : Option String :=
  (SubdocPath.pathParts projection).head?.map SubdocPath.path

/-- Where no two projections have the same first name each has to be read alike. -/
theorem leavesAlike_iff_distinct {document : JsonValue} {projections : List String}
    (hread : forall projection, projection ∈ projections -> (parsePath projection).isSome)
    (hdistinct : (projections.map firstName).Nodup) :
    LeavesAlike document projections <->
      "" ∉ projections ∧ forall projection, projection ∈ projections ->
        serverRead document projection = nameRead document projection := by
  constructor
  · intro h
    refine ⟨h.steps, ?_⟩
    intro projection hmem
    have hne : projection ≠ "" := by
      intro heq
      rw [heq] at hmem
      exact h.steps hmem
    rcases List.exists_cons_of_ne_nil (pathParts_ne hne (hread projection hmem)) with
      ⟨path, rest, hparts⟩
    have hleft : forall read : String -> Option JsonValue,
        lastLeft read projections path.path =
          (read projection).map (SubdocPath.child path rest) := by
      intro read
      unfold lastLeft
      rw [findSome?_unique (List.mem_reverse.mpr hmem)]
      · simp [leftBelow, hparts]
      · intro other hother hne'
        have hnames : firstName other ≠ firstName projection := fun heq =>
          hne' (List.inj_on_of_nodup_map hdistinct (List.mem_reverse.mp hother) hmem heq)
        unfold firstName at hnames
        rw [hparts] at hnames
        unfold leftBelow
        cases hothers : SubdocPath.pathParts other with
        | nil => rfl
        | cons path' rest' =>
            rw [hothers] at hnames
            exact if_neg fun heq => hnames (congrArg some heq.symm)
    have hsame := h.last path.path
    rw [hleft, hleft] at hsame
    exact Option.map_injective (fun v w => SubdocPath.child_injective path rest) hsame
  · intro h
    exact ⟨h.1, lastLeft_congr h.2⟩

theorem get_toOption (k : String) (v : JsonValue) :
    (CollectionDs.item (.key k) v).toOption = v.get k := by
  cases v with
  | object members =>
      rw [CollectionDs.item, JsonValue.get_object]
      cases members.lookup k with
      | none => rfl
      | some child => rfl
  | null => rfl
  | bool b => rfl
  | number n => rfl
  | string s => rfl
  | array items => rfl

theorem find_keys (keys : List String) (v : JsonValue) :
    (CollectionDs.find (keys.map .key) v).toOption = v.getPath keys := by
  induction keys generalizing v with
  | nil => rfl
  | cons k keys ih =>
      rw [List.map_cons, CollectionDs.find, JsonValue.getPath_cons, ← get_toOption]
      cases CollectionDs.item (.key k) v with
      | error e => rfl
      | ok child => exact ih child

/-- Keys that are not between backticks are read alike, in every document. -/
theorem leavesAlike_of_keys {projections : List String}
    (h : forall projection, projection ∈ projections -> '\x60' ∉ projection.toList ∧
      exists keys, keys ≠ [] ∧ parsePath projection = some (keys.map .key))
    (document : JsonValue) : LeavesAlike document projections := by
  constructor
  · intro hempty
    rcases h "" hempty with ⟨_, keys, hne, hkeys⟩
    rw [CollectionDs.parsePath_empty, Option.some.injEq] at hkeys
    exact hne (List.map_eq_nil_iff.mp hkeys.symm)
  · apply lastLeft_congr
    intro projection hmem
    rcases h projection hmem with ⟨hplain, keys, hne, hkeys⟩
    have hparts := ((readsKeys_parsePath hne hkeys).plain hplain).1
    have hnames : (plainParts keys).map SubdocPath.path = keys := by
      rw [plainParts, List.map_map]
      exact List.map_id keys
    rw [serverRead, hkeys, Option.bind_some, find_keys, nameRead, hparts,
      resolveProjectionValue_eq, hnames]

/-!
# When the contents agree
-/

section Settled

variable {fromSlice : Buffer -> Option JsonValue} {members : List (String × JsonValue)}
  {projections : List String}

/-- An empty path is the whole document, and there is no place for that. -/
theorem steps_of_agree {lookups : LookupsOf fromSlice members projections}
    (h : ContentsAgree fromSlice members projections lookups) : "" ∉ projections := by
  intro hempty
  rcases h with ⟨content, hwhole, _⟩
  have hpanic : exists f, f ∈ projections.filterMap (foundBy (nameRead (.object members))) ∧
      f.1 = [] :=
    ⟨([], .object members), List.mem_filterMap.mpr ⟨"", hempty, rfl⟩, rfl⟩
  rw [buildFromFullDoc_eq, SubdocPath.writeAll_panic hpanic] at hwhole
  cases hwhole

theorem insertAll_eq_iff (document : JsonValue) (projections : List String) :
    Ordered.insertAll ((projections.filterMap (foundBy (serverRead document))).filterMap
        fun f => SubdocPath.top f.1 f.2) [] =
      Ordered.insertAll ((projections.filterMap (foundBy (nameRead document))).filterMap
        fun f => SubdocPath.top f.1 f.2) [] <->
    forall name, lastLeft (serverRead document) projections name =
      lastLeft (nameRead document) projections name := by
  rw [Ordered.insertAll_nil_eq_iff]
  simp only [lookup_reverse_eq_lastLeft]

theorem last_of_agree {lookups : LookupsOf fromSlice members projections}
    (hread : forall projection, projection ∈ projections -> (parsePath projection).isSome)
    (h : ContentsAgree fromSlice members projections lookups) :
    LeavesAlike (.object members) projections := by
  have hsteps := steps_of_agree h
  rcases h with ⟨content, hwhole, hentries⟩
  rw [buildFromFullDoc_eq, SubdocPath.writeAll_object (found_parts_ne hsteps hread _),
    Exec.map_ok, Exec.ok.injEq] at hwhole
  rw [buildFromSubdocEntries_eq, SubdocPath.writeAll_object (found_parts_ne hsteps hread _),
    Exec.map_ok, Exec.ok.injEq, ← hwhole] at hentries
  have heq := JsonValue.toVec_injective hentries
  rw [JsonValue.object.injEq] at heq
  exact ⟨hsteps, (insertAll_eq_iff _ _).mp heq⟩

theorem agree_of_last
    (hread : forall projection, projection ∈ projections -> (parsePath projection).isSome)
    (h : LeavesAlike (.object members) projections)
    (lookups : LookupsOf fromSlice members projections) :
    ContentsAgree fromSlice members projections lookups := by
  unfold ContentsAgree
  rw [buildFromFullDoc_eq, buildFromSubdocEntries_eq,
    SubdocPath.writeAll_object (found_parts_ne h.steps hread _),
    SubdocPath.writeAll_object (found_parts_ne h.steps hread _),
    (insertAll_eq_iff _ _).mpr h.last]
  exact ⟨_, rfl, rfl⟩

end Settled

def storedResult (members : List (String × JsonValue)) (projection : String) :
    LookupInResultEntry :=
  match serverRead (.object members) projection with
  | some value => { value := some value.toVec, error := none, op := .get }
  | none => { value := none, error := some .pathNotFound, op := .get }

theorem answersPath_stored (members : List (String × JsonValue)) (projections : List String) :
    List.Forall₂ (AnswersPath JsonValue.fromSlice members) projections
      (projections.map (storedResult members)) := by
  rw [List.forall₂_map_right_iff, List.forall₂_same]
  intro projection _
  unfold AnswersPath storedResult
  cases serverRead (.object members) projection with
  | some value => exact ⟨rfl, JsonValue.fromSlice_toVec value⟩
  | none => rfl

/-- The results of a server with a document that is kept as it is written. -/
def storedLookups (members : List (String × JsonValue)) (projections : List String) :
    LookupsOf JsonValue.fromSlice members projections where
  whole :=
    { cas := 1
      entries := [{ value := some (JsonValue.object members).toVec, error := none, op := .get }] }
  bytes := (JsonValue.object members).toVec
  one := rfl
  content := rfl
  read := JsonValue.fromSlice_toVec (.object members)
  results := projections.map (storedResult members)
  answers := answersPath_stored members projections

/-- An object and an array, `{"a":{"b":1},"c":[2,3]}`. -/
def sampleMembers : List (String × JsonValue) :=
  [("a", .object [("b", JsonValue.ofNat 1)]), ("c", .array [JsonValue.ofNat 2, JsonValue.ofNat 3])]

end Kv
end CouchbaseSdk
