import CouchbaseSdk.Foundation.Exec
import CouchbaseSdk.Foundation.JsonObject
import CouchbaseSdk.Kv.Results

/-!
# Projections

The document that is made of parts of another one, either from a lookup of each part or from the
whole document.  Only names are kept of a path, and whether an index is behind them.
-/

namespace CouchbaseSdk
namespace Kv

open Foundation

/-- A name of a path, the empty one where an index has none in front. -/
structure SubdocPath where
  path : String
  isArray : Bool
deriving DecidableEq

namespace SubdocPath

/-- The parts from within a path, where a name has begun or an index has. -/
def partsFrom (current : List Char) (inIndex : Bool) : List Char -> List SubdocPath
  | [] => if current.isEmpty then [] else [{ path := String.ofList current, isArray := false }]
  | c :: cs =>
      -- A dot behind an index is passed over as any dot is that has no name in front.
      if inIndex then partsFrom [] (c != ']') cs
      else if c = '.' then
        if current.isEmpty then partsFrom [] false cs
        else { path := String.ofList current, isArray := false } :: partsFrom [] false cs
      else if c = '[' then
        { path := String.ofList current, isArray := true } :: partsFrom [] true cs
      else partsFrom (current ++ [c]) false cs

def pathParts (path : String) : List SubdocPath :=
  partsFrom [] false path.toList

/-- A name is given to the object or is the only one of a new object in the array.  Behind an index
the child is an item itself. -/
def insertInto (path : SubdocPath) (child : JsonValue) : JsonValue -> JsonValue
  | .object members => .object (Ordered.insert path.path child members)
  | .array items =>
      .array (items ++ [if path.isArray then child else .object [(path.path, child)]])
  | content => content

def setValueAt : SubdocPath -> List SubdocPath -> JsonValue -> JsonValue -> JsonValue
  | path, [], content, value =>
      insertInto path (if path.isArray then .array [value] else value) content
  | path, next :: rest, content, value =>
      -- What the content has at the path is not looked at: a new child takes its place.
      let child := setValueAt next rest (if path.isArray then .array [] else .object []) value
      insertInto path child content

/-- The first part is always there, for the code. -/
def setValue {error : Type} : List SubdocPath -> JsonValue -> JsonValue -> Exec error JsonValue
  | [], _, _ => .panic
  | path :: rest, content, value => .ok (setValueAt path rest content value)

end SubdocPath

def resolveProjectionValue : JsonValue -> List SubdocPath -> Option JsonValue
  | current, [] => some current
  | current, part :: parts =>
      match current.get part.path with
      | some next => resolveProjectionValue next parts
      | none => none

section Build

variable (fromSlice : Buffer -> Option JsonValue)

/-- The value of a lookup, and nothing for a path that is not there. -/
def lookupValue (result : LookupInResultEntry) : Except ErrorKind (Option JsonValue) :=
  match result.error with
  | some .pathNotFound => .ok none
  | some e => .error e
  | none =>
      match result.value with
      | none => .error (.otherFailure "missing subdoc value")
      | some bytes =>
          match fromSlice bytes with
          | none => .error .decodingFailure
          | some value => .ok (some value)

def projectEntries : List LookupInSpec -> List LookupInResultEntry -> JsonValue ->
    Exec ErrorKind JsonValue
  | [], _, content => .ok content
  | _ :: _, [], _ => .panic
  | spec :: specs, result :: results, content =>
      match lookupValue fromSlice result with
      | .error e => .err e
      | .ok none => projectEntries specs results content
      | .ok (some value) =>
          SubdocPath.setValue (SubdocPath.pathParts spec.path) content value >>=
            projectEntries specs results

def buildFromSubdocEntries (specs : List LookupInSpec) (results : List LookupInResultEntry) :
    Exec ErrorKind Buffer :=
  (projectEntries fromSlice specs results (.object [])).map JsonValue.toVec

def projectDocument (document : JsonValue) : List String -> JsonValue -> Exec ErrorKind JsonValue
  | [], content => .ok content
  | projection :: projections, content =>
      let parts := SubdocPath.pathParts projection
      match resolveProjectionValue document parts with
      | none => projectDocument document projections content
      | some value =>
          SubdocPath.setValue parts content value >>= projectDocument document projections

/-- Without projections the document is left as it is. -/
def buildFromFullDoc (result : LookupInResult) : Option (List String) -> Exec ErrorKind Buffer
  | none => Exec.ofExcept (result.contentAsRaw 0)
  | some projections =>
      if result.entries.length ≠ 1 then
        .err (.otherFailure "expected exactly one entry for full document")
      else
        match result.contentAsRaw 0 with
        | .error e => .err e
        | .ok bytes =>
            match fromSlice bytes with
            | none => .err .decodingFailure
            | some document =>
                (projectDocument document projections (.object [])).map JsonValue.toVec

end Build

/-!
# Names of a path
-/

namespace SubdocPath

/-- What a name goes on with. -/
def isNameChar (c : Char) : Bool :=
  c != '.' && c != '['

theorem isNameChar_iff (c : Char) : isNameChar c = true <-> c ≠ '.' ∧ c ≠ '[' := by
  simp [isNameChar]

/-- A name is read to its end. -/
theorem partsFrom_name (current name rest : List Char) (h : name.all isNameChar = true) :
    partsFrom current false (name ++ rest) = partsFrom (current ++ name) false rest := by
  induction name generalizing current with
  | nil => rw [List.nil_append, List.append_nil]
  | cons c name ih =>
      rw [List.all_cons, Bool.and_eq_true, isNameChar_iff] at h
      rcases h with ⟨⟨hdot, hbracket⟩, hname⟩
      rw [List.cons_append, partsFrom, if_neg Bool.false_ne_true, if_neg hdot, if_neg hbracket,
        ih (current ++ [c]) hname, List.append_assoc, List.singleton_append]

/-- The first part has the first name. -/
theorem partsFrom_first {name rest : List Char} (hne : name ≠ []) (h : name.all isNameChar = true)
    (hrest : rest.head?.all (fun c => ! isNameChar c) = true) :
    exists flag parts, partsFrom [] false (name ++ rest) =
      { path := String.ofList name, isArray := flag } :: parts := by
  have hempty : ¬ name.isEmpty = true := by
    rw [List.isEmpty_iff]
    exact hne
  rw [partsFrom_name [] name rest h, List.nil_append]
  cases rest with
  | nil =>
      rw [partsFrom, if_neg hempty]
      exact ⟨false, [], rfl⟩
  | cons c rest =>
      rw [partsFrom, if_neg Bool.false_ne_true, if_neg hempty]
      by_cases hdot : c = '.'
      · rw [if_pos hdot]
        exact ⟨false, _, rfl⟩
      · have hbracket : c = '[' := by
          by_contra hbracket
          rw [List.head?_cons, Option.all_some, (isNameChar_iff c).mpr ⟨hdot, hbracket⟩] at hrest
          cases hrest
        rw [if_neg hdot, if_pos hbracket]
        exact ⟨true, _, rfl⟩

/-- A name in front of a dot, or at the end, is a part of its own. -/
theorem partsFrom_key {name : List Char} (hne : name ≠ []) (h : name.all isNameChar = true)
    (rest : List Char) :
    partsFrom [] false (name ++ '.' :: rest) =
      { path := String.ofList name, isArray := false } :: partsFrom [] false rest := by
  have hempty : ¬ name.isEmpty = true := by
    rw [List.isEmpty_iff]
    exact hne
  rw [partsFrom_name [] name ('.' :: rest) h, List.nil_append, partsFrom,
    if_neg Bool.false_ne_true, if_pos rfl, if_neg hempty]

theorem partsFrom_last {name : List Char} (hne : name ≠ []) (h : name.all isNameChar = true) :
    partsFrom [] false name = [{ path := String.ofList name, isArray := false }] := by
  have hread := partsFrom_name [] name [] h
  rw [List.append_nil, List.nil_append] at hread
  rw [hread, partsFrom, if_neg]
  rw [List.isEmpty_iff]
  exact hne

theorem partsFrom_ne {current : List Char} (h : current ≠ []) (cs : List Char) :
    partsFrom current false cs ≠ [] := by
  have hempty : ¬ current.isEmpty = true := by
    rw [List.isEmpty_iff]
    exact h
  induction cs generalizing current with
  | nil =>
      rw [partsFrom, if_neg hempty]
      exact List.cons_ne_nil _ _
  | cons c cs ih =>
      rw [partsFrom, if_neg Bool.false_ne_true, if_neg hempty]
      split
      · exact List.cons_ne_nil _ _
      · split
        · exact List.cons_ne_nil _ _
        · have hnext : current ++ [c] ≠ [] := List.append_ne_nil_of_left_ne_nil h [c]
          exact ih hnext (by rw [List.isEmpty_iff]; exact hnext)

theorem partsFrom_nil_iff (cs : List Char) :
    partsFrom [] false cs = [] <-> forall c, c ∈ cs -> c = '.' := by
  induction cs with
  | nil => exact iff_of_true rfl fun c hc => absurd hc List.not_mem_nil
  | cons c cs ih =>
      rw [partsFrom, if_neg Bool.false_ne_true, List.forall_mem_cons]
      by_cases hdot : c = '.'
      · rw [if_pos hdot, List.isEmpty_nil, if_pos rfl, ih, and_iff_right hdot]
      · rw [if_neg hdot]
        refine iff_of_false ?_ fun h => hdot h.1
        split
        · exact List.cons_ne_nil _ _
        · exact partsFrom_ne (List.cons_ne_nil c []) cs

/-- A path has no parts if and only if it has no characters but dots. -/
theorem pathParts_nil_iff (path : String) :
    pathParts path = [] <-> forall c, c ∈ path.toList -> c = '.' :=
  partsFrom_nil_iff path.toList

/-!
# What is written
-/

/-- What is written below the name of a part. -/
def child : SubdocPath -> List SubdocPath -> JsonValue -> JsonValue
  | path, [], value => if path.isArray then .array [value] else value
  | path, next :: rest, value =>
      insertInto next (child next rest value) (if path.isArray then .array [] else .object [])

theorem setValueAt_eq (path : SubdocPath) (rest : List SubdocPath) (content value : JsonValue) :
    setValueAt path rest content value = insertInto path (child path rest value) content := by
  induction rest generalizing path content with
  | nil => rfl
  | cons next rest ih =>
      rw [setValueAt, child, ih]

/-- What is written tells the value. -/
theorem child_injective (path : SubdocPath) (rest : List SubdocPath) {v w : JsonValue}
    (h : child path rest v = child path rest w) : v = w := by
  induction rest generalizing path with
  | nil =>
      rw [child, child] at h
      split at h
      · cases h
        rfl
      · exact h
  | cons next rest ih =>
      rw [child, child] at h
      apply ih next
      cases harray : path.isArray with
      | true =>
          rw [harray, if_pos rfl, insertInto, insertInto, JsonValue.array.injEq,
            List.append_cancel_left_eq, List.singleton_inj] at h
          split at h
          · exact h
          · rw [JsonValue.object.injEq, List.singleton_inj, Prod.mk.injEq] at h
            exact h.2
      | false =>
          rw [harray, if_neg Bool.false_ne_true, insertInto, insertInto, JsonValue.object.injEq,
            Ordered.insert, Ordered.insert, List.singleton_inj, Prod.mk.injEq] at h
          exact h.2

/-- The entry of the whole that a value is written to. -/
def top (parts : List SubdocPath) (value : JsonValue) : Option (String × JsonValue) :=
  match parts with
  | [] => none
  | path :: rest => some (path.path, child path rest value)

/-- Names without an index are nested. -/
theorem child_names (name : String) (names : List String) (value : JsonValue) :
    child { path := name, isArray := false }
        (names.map fun name => { path := name, isArray := false }) value =
      JsonValue.nest names value := by
  induction names generalizing name with
  | nil => rfl
  | cons next names ih =>
      rw [List.map_cons, child, ih next]
      rfl

/-- Values, one written after the other. -/
def writeAll {error : Type} : List (List SubdocPath × JsonValue) -> JsonValue ->
    Exec error JsonValue
  | [], content => .ok content
  | found :: rest, content => setValue found.1 content found.2 >>= writeAll rest

/-- Each value takes the place of the one that was written below its first name. -/
theorem writeAll_object {error : Type} {found : List (List SubdocPath × JsonValue)}
    (h : forall f, f ∈ found -> f.1 ≠ []) (members : List (String × JsonValue)) :
    (writeAll found (.object members) : Exec error JsonValue) =
      .ok (.object (Ordered.insertAll (found.filterMap fun f => top f.1 f.2) members)) := by
  induction found generalizing members with
  | nil => rfl
  | cons f found ih =>
      rcases f with ⟨parts, value⟩
      rcases List.forall_mem_cons.mp h with ⟨hparts, hfound⟩
      cases parts with
      | nil => exact absurd rfl hparts
      | cons path rest =>
          rw [writeAll, setValue, setValueAt_eq, Exec.ok_bind, insertInto, ih hfound]
          rfl

/-- Without a part there is no place for a value. -/
theorem writeAll_panic {error : Type} {found : List (List SubdocPath × JsonValue)}
    (h : exists f, f ∈ found ∧ f.1 = []) (content : JsonValue) :
    (writeAll found content : Exec error JsonValue) = .panic := by
  induction found generalizing content with
  | nil =>
      rcases h with ⟨f, hmem, _⟩
      cases hmem
  | cons f found ih =>
      rcases f with ⟨parts, value⟩
      cases parts with
      | nil => rfl
      | cons path rest =>
          rcases h with ⟨g, hmem, hg⟩
          rw [writeAll, setValue, Exec.ok_bind]
          apply ih
          rcases List.mem_cons.mp hmem with heq | hmem
          · rw [heq] at hg
            cases hg
          · exact ⟨g, hmem, hg⟩

end SubdocPath

theorem resolveProjectionValue_eq (root : JsonValue) (parts : List SubdocPath) :
    resolveProjectionValue root parts = root.getPath (parts.map SubdocPath.path) := by
  induction parts generalizing root with
  | nil => rfl
  | cons part parts ih =>
      rw [resolveProjectionValue, List.map_cons, JsonValue.getPath_cons]
      cases root.get part.path with
      | none => rfl
      | some next => exact ih next

/-- The value that is found by the names. -/
def nameRead (document : JsonValue) (projection : String) : Option JsonValue :=
  resolveProjectionValue document (SubdocPath.pathParts projection)

/-- The parts of a projection with the value that is read for it. -/
def foundBy (read : String -> Option JsonValue) (projection : String) :
    Option (List SubdocPath × JsonValue) :=
  (read projection).map fun value => (SubdocPath.pathParts projection, value)

theorem foundBy_none {read : String -> Option JsonValue} {projection : String}
    (h : read projection = none) : foundBy read projection = none := by
  rw [foundBy, h, Option.map_none]

theorem foundBy_some {read : String -> Option JsonValue} {projection : String} {value : JsonValue}
    (h : read projection = some value) :
    foundBy read projection = some (SubdocPath.pathParts projection, value) := by
  rw [foundBy, h, Option.map_some]

theorem projectDocument_eq (document : JsonValue) (projections : List String)
    (content : JsonValue) :
    projectDocument document projections content =
      SubdocPath.writeAll (projections.filterMap (foundBy (nameRead document))) content := by
  induction projections generalizing content with
  | nil => rfl
  | cons projection projections ih =>
      have hrest : projectDocument document projections =
          SubdocPath.writeAll (projections.filterMap (foundBy (nameRead document))) := funext ih
      cases hread : nameRead document projection with
      | none =>
          rw [List.filterMap_cons_none (foundBy_none hread), ← ih content, projectDocument]
          unfold nameRead at hread
          rw [hread]
      | some value =>
          rw [List.filterMap_cons_some (foundBy_some hread), SubdocPath.writeAll, ← hrest,
            projectDocument]
          unfold nameRead at hread
          rw [hread]

end Kv
end CouchbaseSdk
