import CouchbaseSdk.CollectionDs.Paths
import CouchbaseSdk.Foundation.Linearizable
import CouchbaseSdk.Memdx.Subdoc

/-!
# A server with one document

What the operations are put to: a document with its version, the requests that look at parts of it
or change them, and what is answered.  A request is one step, every change makes a version that
there has never been, and a change that names a version is made to that version only.  Operations
that nothing here sends are not supported, and what extended attributes hold is left out.
-/

namespace CouchbaseSdk
namespace CollectionDs

open Foundation
open Memdx (LookupInOp MutateInOp Status SubdocDocFlag SubdocOpFlag)

/-!
# Parts of a document
-/

abbrev Members := List (String × JsonValue)

def setMember (members : Members) (k : String) (value : JsonValue) : Members :=
  if (members.lookup k).isSome then members.map fun m => if m.1 = k then (k, value) else m
  else members ++ [(k, value)]

def removeMember (members : Members) (k : String) : Members :=
  members.filter fun m => m.1 != k

def orNotFound : Option JsonValue -> Except Status JsonValue
  | some v => .ok v
  | none => .error .subDocPathNotFound

theorem orNotFound_error {v : Option JsonValue} {status : Status}
    (h : orNotFound v = .error status) : status = .subDocPathNotFound := by
  cases v with
  | none =>
      cases h
      rfl
  | some v => cases h

def item : Component -> JsonValue -> Except Status JsonValue
  | .key k, .object members => orNotFound (members.lookup k)
  | .index i, .array items => orNotFound items[i]?
  | .last, .array items => orNotFound items.getLast?
  | _, _ => .error .subDocPathMismatch

def put : Component -> JsonValue -> JsonValue -> JsonValue
  | .key k, child, .object members => .object (setMember members k child)
  | .index i, child, .array items => .array (items.set i child)
  | .last, child, .array items => .array (items.set (items.length - 1) child)
  | _, _, v => v

def find : List Component -> JsonValue -> Except Status JsonValue
  | [], v => .ok v
  | c :: path, v =>
      match item c v with
      | .error e => .error e
      | .ok child => find path child

/-- Change the part that a path names. -/
def within (f : JsonValue -> Except Status JsonValue) :
    List Component -> JsonValue -> Except Status JsonValue
  | [], v => f v
  | c :: path, v =>
      match item c v with
      | .error e => .error e
      | .ok child => (within f path child).map fun child => put c child v

/-- Change the part that has the last component. -/
def alter (f : Component -> JsonValue -> Except Status JsonValue) (path : List Component)
    (v : JsonValue) : Except Status JsonValue :=
  match path.getLast? with
  | none => .error .subDocPathInvalid
  | some c => within (f c) path.dropLast v

/-!
# Changes
-/

def dictSet (value : JsonValue) : Component -> JsonValue -> Except Status JsonValue
  | .key k, .object members => .ok (.object (setMember members k value))
  | .key _, _ => .error .subDocPathMismatch
  | _, _ => .error .subDocPathInvalid

def delete : Component -> JsonValue -> Except Status JsonValue
  | .key k, .object members =>
      if (members.lookup k).isSome then .ok (.object (removeMember members k))
      else .error .subDocPathNotFound
  | .index i, .array items =>
      if i < items.length then .ok (.array (items.eraseIdx i)) else .error .subDocPathNotFound
  | .last, .array items =>
      if items.isEmpty then .error .subDocPathNotFound else .ok (.array items.dropLast)
  | _, _ => .error .subDocPathMismatch

/-- The value is one item, or more with commas between them. -/
def arrayPushFirst (value : Buffer) : JsonValue -> Except Status JsonValue
  | .array items =>
      match JsonValue.fromSlice (JsonValue.beginArray :: (value ++ [JsonValue.endArray])) with
      | some (.array new) => .ok (.array (new ++ items))
      | _ => .error .subDocCantInsert
  | _ => .error .subDocPathMismatch

def isPrimitive : JsonValue -> Bool
  | .array _ => false
  | .object _ => false
  | _ => true

/-- Only values without parts are compared. -/
def arrayAddUnique (value : Buffer) : JsonValue -> Except Status JsonValue
  | .array items =>
      match JsonValue.fromSlice value with
      | none => .error .subDocCantInsert
      | some v =>
          if ! isPrimitive v then .error .subDocCantInsert
          else if ! items.all isPrimitive then .error .subDocPathMismatch
          else if v ∈ items then .error .subDocPathExists
          else .ok (.array (items ++ [v]))
  | _ => .error .subDocPathMismatch

/-- What is left of the document, and nothing where it is deleted. -/
def mutateBody (op : MutateInOp) (path : List Component) (content : JsonValue) :
    Except Status (Option JsonValue) :=
  match op.op with
  | .dictSet =>
      match JsonValue.fromSlice op.value with
      | none => .error .subDocCantInsert
      | some value => (alter (dictSet value) path content).map some
  | .delete => (alter delete path content).map some
  | .arrayPushFirst => (within (arrayPushFirst op.value) path content).map some
  | .arrayAddUnique => (within (arrayAddUnique op.value) path content).map some
  | .deleteDoc => .ok none
  | _ => .error .notSupported

/-- Extended attributes have keys of their own. -/
def mutateOne (op : MutateInOp) (content : JsonValue) : Except Status (Option JsonValue) :=
  match (JsonValue.utf8 op.path).bind parsePath with
  | none => .error .subDocPathInvalid
  | some path =>
      if op.flags &&& SubdocOpFlag.XATTR_PATH ≠ 0 then
        if path.isEmpty then .error .subDocXattrInvalidKeyCombo else .ok (some content)
      else mutateBody op path content

/-- All the changes, or the first that fails. -/
def mutateAll : List MutateInOp -> Nat -> Option JsonValue ->
    Except (Nat × Status) (Option JsonValue)
  | [], _, content => .ok content
  | _ :: _, i, none => .error (i, .subDocPathNotFound)
  | op :: ops, i, some content =>
      match mutateOne op content with
      | .error status => .error (i, status)
      | .ok content => mutateAll ops (i + 1) content

/-- A document that is made for a change is an array for a change to an array. -/
def newRoot : List MutateInOp -> JsonValue
  | [] => .object []
  | op :: _ =>
      if op.path.isEmpty && (op.op == .arrayPushFirst || op.op == .arrayAddUnique) then .array []
      else .object []

/-!
# Looking at parts
-/

def count : JsonValue -> Option Nat
  | .array items => some items.length
  | .object members => some members.length
  | _ => none

def lookupBody (op : LookupInOp) (path : List Component) (content : JsonValue) :
    Status × Option Buffer :=
  match op.op, find path content with
  | .getDoc, _ => (.success, some content.toVec)
  | _, .error status => (status, none)
  | .get, .ok v => (.success, some v.toVec)
  | .exist, .ok _ => (.success, none)
  | .getCount, .ok v =>
      match count v with
      | some n => (.success, some (JsonValue.ofNat n).toVec)
      | none => (.subDocPathMismatch, none)

def lookupOne (content : JsonValue) (op : LookupInOp) : Status × Option Buffer :=
  match (JsonValue.utf8 op.path).bind parsePath with
  | none => (.subDocPathInvalid, none)
  | some path =>
      if op.flags &&& SubdocOpFlag.XATTR_PATH ≠ 0 then (.subDocPathNotFound, none)
      else lookupBody op path content

theorem mutateOne_body {op : MutateInOp} {p : String} {path : List Component}
    (hpath : op.path = p.toUTF8.data.toList) (hparse : parsePath p = some path)
    (hflags : op.flags = 0) (content : JsonValue) :
    mutateOne op content = mutateBody op path content := by
  unfold mutateOne
  rw [hpath, JsonValue.utf8_toUTF8, Option.bind_some, hparse]
  simp [hflags]

theorem lookupOne_body {op : LookupInOp} {p : String} {path : List Component}
    (hpath : op.path = p.toUTF8.data.toList) (hparse : parsePath p = some path)
    (hflags : op.flags = 0) (content : JsonValue) :
    lookupOne content op = lookupBody op path content := by
  unfold lookupOne
  rw [hpath, JsonValue.utf8_toUTF8, Option.bind_some, hparse]
  simp [hflags]

/-!
# Requests
-/

structure Document where
  cas : UInt64
  flags : UInt32
  content : JsonValue

/-- The versions there have been are remembered, and none is zero. -/
structure Server where
  doc : Option Document
  used : List UInt64
  doc_used : forall d, doc = some d -> d.cas ∈ used
  zero_unused : 0 ∉ used

/-- The version a change makes, and what comes with an answer that there is another one. -/
structure Choice where
  fresh : UInt64
  conflictCas : Option UInt64

inductive Call where
  | get
  | lookupIn (ops : List LookupInOp)
  | mutateIn (ops : List MutateInOp) (flags : SubdocDocFlag) (cas : Option UInt64)

/-- A request that fails as a whole fails by its status, and may come with a version. -/
inductive MutateAnswer where
  | mutated (cas : UInt64)
  | pathFailure (index : Nat) (status : Status)
  | failed (status : Status) (cas : Option UInt64)

abbrev Answer : Call -> Type
  | .get => Except Status Document
  | .lookupIn _ => Except Status (UInt64 × List (Status × Option Buffer))
  | .mutateIn _ _ _ => MutateAnswer

namespace Server

/-- There has never been a document. -/
def empty : Server where
  doc := none
  used := []
  doc_used := fun _ h => by cases h
  zero_unused := fun h => by cases h

def content (s : Server) : Option JsonValue :=
  s.doc.map Document.content

def Fresh (s : Server) (cas : UInt64) : Prop :=
  cas ≠ 0 ∧ cas ∉ s.used

instance decidableFresh (s : Server) (cas : UInt64) : Decidable (s.Fresh cas) :=
  inferInstanceAs (Decidable (_ ∧ _))

def write (s : Server) (cas : UInt64) (fresh : s.Fresh cas) (flags : UInt32)
    (content : Option JsonValue) : Server where
  doc := content.map fun content => { cas := cas, flags := flags, content := content }
  used := cas :: s.used
  doc_used := by
    intro d hd
    rcases Option.map_eq_some_iff.mp hd with ⟨_, _, rfl⟩
    exact List.mem_cons_self
  zero_unused := by
    intro hzero
    rcases List.mem_cons.mp hzero with heq | hmem
    · exact fresh.1 heq.symm
    · exact s.zero_unused hmem

/-- What the changes of a request are made to. -/
def target (s : Server) (ops : List MutateInOp) (flags : SubdocDocFlag) (cas : Option UInt64) :
    Except Status (UInt32 × JsonValue) :=
  match s.doc with
  | none =>
      if flags &&& (SubdocDocFlag.MkDoc ||| SubdocDocFlag.AddDoc) ≠ 0 then .ok (0, newRoot ops)
      else .error .keyNotFound
  | some d =>
      if flags &&& SubdocDocFlag.AddDoc ≠ 0 then .error .keyExists
      else if cas.getD 0 ≠ 0 ∧ cas.getD 0 ≠ d.cas then .error .keyExists
      else .ok (d.flags, d.content)

def serve (s : Server) (choice : Choice) : (call : Call) -> Option (Answer call × Server)
  | .get =>
      match s.doc with
      | none => some (.error .keyNotFound, s)
      | some d => some (.ok d, s)
  | .lookupIn ops =>
      match s.doc with
      | none => some (.error .keyNotFound, s)
      | some d => some (.ok (d.cas, ops.map (lookupOne d.content)), s)
  | .mutateIn ops flags cas =>
      match s.target ops flags cas with
      | .error status => some (.failed status choice.conflictCas, s)
      | .ok (flags, root) =>
          match mutateAll ops 0 (some root) with
          | .error (i, status) => some (.pathFailure i status, s)
          | .ok content =>
              if fresh : s.Fresh choice.fresh then
                some (.mutated choice.fresh, s.write choice.fresh fresh flags content)
              else none

/-!
# Versions
-/

/-- A request leaves the document as it is, or makes a version that there has never been. -/
theorem serve_cases {s t : Server} {choice : Choice} {call : Call} {answer : Answer call}
    (h : s.serve choice call = some (answer, t)) :
    t = s ∨ exists fresh flags content, t = s.write choice.fresh fresh flags content := by
  cases call with
  | get =>
      simp only [serve] at h
      split at h <;> cases h <;> exact Or.inl rfl
  | lookupIn ops =>
      simp only [serve] at h
      split at h <;> cases h <;> exact Or.inl rfl
  | mutateIn ops flags cas =>
      simp only [serve] at h
      split at h
      · cases h
        exact Or.inl rfl
      · split at h
        · cases h
          exact Or.inl rfl
        · split at h
          · next fresh =>
              cases h
              exact Or.inr ⟨fresh, _, _, rfl⟩
          · cases h

/-- A version is never made again: while it is there, nothing has changed. -/
theorem same_version {s t : Server} (hlater : Later serve s t) {d d' : Document}
    (hdoc : s.doc = some d) (hlaterDoc : t.doc = some d') (hcas : d'.cas = d.cas) : d' = d := by
  have hinvariant : d.cas ∈ t.used ∧ forall d', t.doc = some d' -> d'.cas = d.cas -> d' = d := by
    apply hlater.invariant
    · constructor
      · exact s.doc_used d hdoc
      · intro d' hd' _
        rw [hdoc] at hd'
        cases hd'
        rfl
    · intro s choice call answer t hs hserve
      rcases serve_cases hserve with rfl | ⟨fresh, flags, content, rfl⟩
      · exact hs
      · constructor
        · exact List.mem_cons_of_mem _ hs.1
        · intro d' hd' hsame
          rcases Option.map_eq_some_iff.mp hd' with ⟨_, _, rfl⟩
          have heq : choice.fresh = d.cas := hsame
          have hmem : choice.fresh ∈ s.used := by
            rw [heq]
            exact hs.1
          exact absurd hmem fresh.2
  exact hinvariant.2 d' hlaterDoc hcas

theorem cas_ne_zero {s : Server} {d : Document} (h : s.doc = some d) : d.cas ≠ 0 := by
  intro hzero
  exact s.zero_unused (hzero ▸ s.doc_used d h)

/-- A change that names a version is made to that version. -/
theorem target_named {s : Server} {ops : List MutateInOp} {flags : UInt32} {cas : UInt64}
    {root : JsonValue} (hcas : cas ≠ 0) (h : s.target ops 0 (some cas) = .ok (flags, root)) :
    exists d, s.doc = some d ∧ d.cas = cas ∧ d.content = root := by
  unfold target at h
  split at h
  · next hdoc =>
      rw [if_neg (by decide)] at h
      cases h
  · next d hdoc =>
      rw [if_neg (by decide)] at h
      simp only [Option.getD_some] at h
      split at h
      · cases h
      · next hsame =>
          cases h
          refine ⟨d, hdoc, ?_, rfl⟩
          by_contra hne
          exact hsame ⟨hcas, fun heq => hne heq.symm⟩

/-- A request that may make the document always has one. -/
theorem target_upsert (s : Server) (ops : List MutateInOp) :
    s.target ops SubdocDocFlag.MkDoc none =
      match s.doc with
      | none => .ok (0, newRoot ops)
      | some d => .ok (d.flags, d.content) := by
  unfold target
  cases s.doc with
  | none => exact if_pos (by decide)
  | some d => rfl

theorem target_made (s : Server) (ops : List MutateInOp) :
    exists docFlags,
      s.target ops SubdocDocFlag.MkDoc none = .ok (docFlags, s.content.getD (newRoot ops)) := by
  rw [target_upsert, content]
  cases s.doc with
  | none => exact ⟨0, rfl⟩
  | some d => exact ⟨d.flags, rfl⟩

/-- A request that names no version is made to any document there is. -/
theorem target_any (s : Server) (ops : List MutateInOp) :
    s.target ops 0 none =
      match s.doc with
      | none => .error .keyNotFound
      | some d => .ok (d.flags, d.content) := by
  unfold target
  cases s.doc with
  | none => exact if_neg (by decide)
  | some d => rfl

/-- The three ways a request with one change goes. -/
theorem serve_mutateIn_document {s t : Server} {choice : Choice} {op : MutateInOp}
    {flags : SubdocDocFlag} {cas : Option UInt64} {answer : MutateAnswer}
    (h : s.serve choice (.mutateIn [op] flags cas) = some (answer, t)) :
    (exists status, s.target [op] flags cas = .error status ∧
      answer = .failed status choice.conflictCas ∧ t = s) ∨
    (exists docFlags root, s.target [op] flags cas = .ok (docFlags, root) ∧
      ((exists status, mutateOne op root = .error status ∧ answer = .pathFailure 0 status ∧ t = s) ∨
        exists content, mutateOne op root = .ok content ∧ answer = .mutated choice.fresh ∧
          t.doc = content.map fun content =>
            { cas := choice.fresh, flags := docFlags, content := content })) := by
  simp only [serve] at h
  split at h
  · next status htarget =>
      cases h
      exact Or.inl ⟨status, htarget, rfl, rfl⟩
  · next docFlags root htarget =>
      refine Or.inr ⟨docFlags, root, htarget, ?_⟩
      cases hone : mutateOne op root with
      | error status =>
          simp only [mutateAll, hone] at h
          cases h
          exact Or.inl ⟨status, rfl, rfl, rfl⟩
      | ok content =>
          simp only [mutateAll, hone] at h
          split at h
          · next fresh =>
              cases h
              exact Or.inr ⟨content, rfl, rfl, rfl⟩
          · cases h

theorem serve_mutateIn_one {s t : Server} {choice : Choice} {op : MutateInOp}
    {flags : SubdocDocFlag} {cas : Option UInt64} {answer : MutateAnswer}
    (h : s.serve choice (.mutateIn [op] flags cas) = some (answer, t)) :
    (exists status, s.target [op] flags cas = .error status ∧
      answer = .failed status choice.conflictCas ∧ t = s) ∨
    (exists docFlags root, s.target [op] flags cas = .ok (docFlags, root) ∧
      ((exists status, mutateOne op root = .error status ∧ answer = .pathFailure 0 status ∧ t = s) ∨
        exists content, mutateOne op root = .ok content ∧ answer = .mutated choice.fresh ∧
          t.content = content)) := by
  rcases serve_mutateIn_document h with hfailed | ⟨docFlags, root, htarget, hpath | hdone⟩
  · exact Or.inl hfailed
  · exact Or.inr ⟨docFlags, root, htarget, Or.inl hpath⟩
  · rcases hdone with ⟨content, hone, hanswer, hdoc⟩
    have hcontent : t.content = content := by
      rw [Server.content, hdoc]
      cases content <;> rfl
    exact Or.inr ⟨docFlags, root, htarget, Or.inr ⟨content, hone, hanswer, hcontent⟩⟩

/-- The two ways a request goes that may make the document. -/
theorem serve_made_one {s t : Server} {choice : Choice} {op : MutateInOp} {answer : MutateAnswer}
    (h : s.serve choice (.mutateIn [op] SubdocDocFlag.MkDoc none) = some (answer, t)) :
    (exists status, mutateOne op (s.content.getD (newRoot [op])) = .error status ∧
      answer = .pathFailure 0 status ∧ t = s) ∨
    exists content, mutateOne op (s.content.getD (newRoot [op])) = .ok content ∧
      answer = .mutated choice.fresh ∧ t.content = content := by
  rcases s.target_made [op] with ⟨docFlags, htarget⟩
  rcases serve_mutateIn_one h with ⟨status, hfails, _⟩ | ⟨docFlags', root, hroot, hone⟩
  · rw [htarget] at hfails
    cases hfails
  · rw [htarget] at hroot
    cases hroot
    exact hone

end Server

end CollectionDs
end CouchbaseSdk
