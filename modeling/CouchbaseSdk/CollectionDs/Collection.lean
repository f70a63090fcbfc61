import CouchbaseSdk.CollectionDs.Server
import CouchbaseSdk.Kv.CoreKvClient
import CouchbaseSdk.Kv.Results

/-!
# A document of a collection

The operations of a collection that the data structures are made of, as programs that ask the
server.
-/

namespace CouchbaseSdk
namespace CollectionDs

open Foundation
open Kv (ErrorKind GetResult LookupInResult LookupInResultEntry LookupInSpec MutateInOptions
  MutateInSpec mutateInFlags)
open Memdx (MutateInOp Status SubdocDocFlag lookupInFailure lookupOpFailure mutateInFailure
  mutateOpFailure getFailure)

abbrev DsProgram (result : Type) := Program Call Answer result

/-!
# Looking
-/

section Operations

variable {result : Type}

def Document.getResult (d : Document) : GetResult :=
  { content := d.content.toVec, flags := d.flags, cas := d.cas }

def getResult : Except Status Document -> Except ErrorKind GetResult
  | .error status => .error (.ofFailure (getFailure status))
  | .ok d => .ok d.getResult

def get (next : Except ErrorKind GetResult -> DsProgram result) : DsProgram result :=
  .ask .get fun answer => next (getResult answer)

/-- Specs of extended attributes come first, and each keeps the place it had. -/
def reorderLookups (specs : List LookupInSpec) : List (LookupInSpec × Nat) :=
  specs.zipIdx.filter (fun p => p.1.isXattr) ++ specs.zipIdx.filter fun p => ! p.1.isXattr

/-- The results in the places of their specs. -/
def lookupEntries (specs : List LookupInSpec) (results : List (Status × Option Buffer)) :
    List LookupInResultEntry :=
  (List.range specs.length).filterMap fun i =>
    (((reorderLookups specs).zip results).find? fun p => p.1.2 == i).map fun p =>
      { value := p.2.2
        error := (lookupOpFailure p.2.1).map .ofSubdoc
        op := p.1.1.op }

def lookupInResult (specs : List LookupInSpec) :
    Except Status (UInt64 × List (Status × Option Buffer)) -> Except ErrorKind LookupInResult
  | .error status => .error (.ofFailure (lookupInFailure status))
  | .ok (cas, results) => .ok { cas := cas, entries := lookupEntries specs results }

def lookupIn (specs : List LookupInSpec)
    (next : Except ErrorKind LookupInResult -> DsProgram result) : DsProgram result :=
  .ask (.lookupIn ((reorderLookups specs).map fun p => p.1.toOp)) fun answer =>
    next (lookupInResult specs answer)

/-!
# Changing
-/

structure MutateInResult where
  cas : UInt64

def mutateInResult (flags : SubdocDocFlag) : MutateAnswer -> Except ErrorKind MutateInResult
  | .mutated cas => .ok { cas := cas }
  | .pathFailure _ status => .error (.ofSubdoc (mutateOpFailure status))
  | .failed status cas => .error (.ofFailure (mutateInFailure flags cas status))

/-- Of the options, those that decide what the server does to the document. -/
def mutateIn (specs : List MutateInSpec) (options : MutateInOptions Unit)
    (next : Except ErrorKind MutateInResult -> DsProgram result) : DsProgram result :=
  match MutateInSpec.toOps (MutateInSpec.reorder specs) with
  | .error e => next (.error (.ofError e))
  | .ok ops =>
      let flags := mutateInFlags options.accessDeleted options.storeSemantics
      .ask (.mutateIn ops flags options.cas) fun answer => next (mutateInResult flags answer)

/-- A change to a version that is not there any more is tried again. -/
def retried (again : DsProgram result) (fails : ErrorKind -> DsProgram result)
    (ends : DsProgram result) : Except ErrorKind MutateInResult -> DsProgram result
  | .error .documentExists => again
  | .error .casMismatch => again
  | .error e => fails e
  | .ok _ => ends

theorem retried_error {again ends : DsProgram result} {fails : ErrorKind -> DsProgram result}
    {P : DsProgram result -> Prop} (hagain : P again) (hfails : forall e, P (fails e))
    (e : ErrorKind) : P (retried again fails ends (.error e)) := by
  unfold retried
  split
  · exact hagain
  · exact hagain
  · next heq =>
      cases heq
      exact hfails e
  · next heq => cases heq

end Operations

/-!
# Requests with one spec
-/

theorem utf8_asBytes (s : String) : JsonValue.utf8 (Kv.asBytes s) = some s :=
  JsonValue.utf8_toUTF8 s

@[simp] theorem reorder_one (spec : MutateInSpec) : MutateInSpec.reorder [spec] = [spec] := by
  cases h : spec.isXattr <;> simp [MutateInSpec.reorder, h]

theorem toOps_one {spec : MutateInSpec} {op : MutateInOp} (h : spec.toOp = .ok op) :
    MutateInSpec.toOps [spec] = .ok [op] := by
  simp only [MutateInSpec.toOps, h]
  rfl

theorem mutateIn_one {result : Type} {spec : MutateInSpec} {op : MutateInOp}
    {flags : SubdocDocFlag} {options : MutateInOptions Unit} (h : spec.toOp = .ok op)
    (hflags : mutateInFlags options.accessDeleted options.storeSemantics = flags)
    (next : Except ErrorKind MutateInResult -> DsProgram result) :
    mutateIn [spec] options next =
      .ask (.mutateIn [op] flags options.cas) fun answer =>
        next (mutateInResult flags answer) := by
  cases hflags
  unfold mutateIn
  rw [reorder_one, toOps_one h]

theorem mutateIn_guarded {result : Type} {spec : MutateInSpec} {op : MutateInOp}
    (h : spec.toOp = .ok op) (cas : UInt64)
    (next : Except ErrorKind MutateInResult -> DsProgram result) :
    mutateIn [spec] { cas := some cas } next =
      .ask (.mutateIn [op] 0 (some cas)) fun answer => next (mutateInResult 0 answer) :=
  mutateIn_one h (show mutateInFlags none none = 0 by decide) next

theorem mutateIn_made {result : Type} {spec : MutateInSpec} {op : MutateInOp}
    (h : spec.toOp = .ok op) (next : Except ErrorKind MutateInResult -> DsProgram result) :
    mutateIn [spec] { storeSemantics := some .upsert } next =
      .ask (.mutateIn [op] SubdocDocFlag.MkDoc none) fun answer =>
        next (mutateInResult SubdocDocFlag.MkDoc answer) :=
  mutateIn_one h (show mutateInFlags none (some .upsert) = SubdocDocFlag.MkDoc by decide) next

/-- A change to the version that has been read is made to what has been read. -/
theorem guarded_proceeds {op result : Type}
    {does : op -> Option JsonValue -> result -> Option JsonValue -> Prop} {o : op}
    {spec : MutateInSpec} {mutation : MutateInOp} {s : Server} {d : Document}
    {after : Option JsonValue} {next : Except ErrorKind MutateInResult -> DsProgram result}
    (h : spec.toOp = .ok mutation) (hdoc : s.doc = some d)
    (hone : mutateOne mutation d.content = .ok after)
    (hfails : forall e t, Proceeds Server.serve does Server.content o (next (.error e)) t)
    (hends : forall res, exists r, next (.ok res) = .done r ∧ does o (some d.content) r after) :
    Proceeds Server.serve does Server.content o (mutateIn [spec] { cas := some d.cas } next) s := by
  rw [mutateIn_guarded h]
  apply Proceeds.ask
  intro t hlater choice answer u hserve
  rcases Server.serve_mutateIn_one hserve with
    ⟨status, _, rfl, rfl⟩ | ⟨docFlags, root, hroot, hmutated⟩
  · exact hfails _ _
  · rcases Server.target_named (Server.cas_ne_zero hdoc) hroot with ⟨d', hdoc', hcas, rfl⟩
    have hsame : d' = d := Server.same_version hlater hdoc hdoc' hcas
    rw [hsame, hone] at hmutated
    rcases hmutated with ⟨status, hfailed, _⟩ | ⟨content, hok, rfl, hu⟩
    · cases hfailed
    · cases hok
      have ht : t.content = some d.content := by
        rw [Server.content, hdoc', hsame, Option.map_some]
      rcases hends { cas := choice.fresh } with ⟨r, hdone, hdoes⟩
      change Effect does o (t.content) (next (.ok { cas := choice.fresh })).finished u.content ∧
        Atomic Server.serve does Server.content o (next (.ok { cas := choice.fresh })) u
      rw [hdone, ht, hu]
      exact ⟨hdoes, trivial⟩

theorem reorderLookups_one (spec : LookupInSpec) : reorderLookups [spec] = [(spec, 0)] := by
  cases h : spec.isXattr <;> simp [reorderLookups, h]

theorem lookupIn_one {result : Type} (spec : LookupInSpec)
    (next : Except ErrorKind LookupInResult -> DsProgram result) :
    lookupIn [spec] next =
      .ask (.lookupIn [spec.toOp]) fun answer => next (lookupInResult [spec] answer) := by
  have hops : ((reorderLookups [spec]).map fun p => p.1.toOp) = [spec.toOp] := by
    rw [reorderLookups_one]
    rfl
  unfold lookupIn
  rw [hops]

/-- A lookup changes nothing. -/
theorem serve_lookupIn_one {s t : Server} {choice : Choice} {op : Memdx.LookupInOp}
    {answer : Except Status (UInt64 × List (Status × Option Buffer))}
    (h : s.serve choice (.lookupIn [op]) = some (answer, t)) :
    t = s ∧ (s.doc = none ∧ answer = .error .keyNotFound ∨
      exists d, s.doc = some d ∧ answer = .ok (d.cas, [lookupOne d.content op])) := by
  simp only [Server.serve] at h
  split at h
  · next hdoc =>
      cases h
      exact ⟨rfl, Or.inl ⟨hdoc, rfl⟩⟩
  · next d hdoc =>
      cases h
      exact ⟨rfl, Or.inr ⟨d, hdoc, rfl⟩⟩

theorem lookupEntries_one (spec : LookupInSpec) (status : Status) (value : Option Buffer) :
    lookupEntries [spec] [(status, value)] =
      [{ value := value, error := (lookupOpFailure status).map .ofSubdoc, op := spec.op }] := by
  unfold lookupEntries
  rw [reorderLookups_one]
  rfl

/-!
# Reading what was looked up
-/

section Reading

variable {alpha : Type} (readAs : Kv.Deserialize alpha) {path : String} {comps : List Component}

theorem find_error {comps : List Component} {v : JsonValue} {status : Status}
    (h : find comps v = .error status) :
    status = .subDocPathNotFound ∨ status = .subDocPathMismatch := by
  induction comps generalizing v with
  | nil => cases h
  | cons c comps ih =>
      simp only [find] at h
      split at h
      · next e hitem =>
          cases h
          unfold item at hitem
          split at hitem
          · exact Or.inl (orNotFound_error hitem)
          · exact Or.inl (orNotFound_error hitem)
          · exact Or.inl (orNotFound_error hitem)
          · cases hitem
            exact Or.inr rfl
      · exact ih h

/-- What a lookup of one path gives. -/
def lookedUp (spec : LookupInSpec) (d : Document) : LookupInResult :=
  { cas := d.cas, entries := lookupEntries [spec] [lookupOne d.content spec.toOp] }

theorem toOp_get (hne : path ≠ "") :
    (LookupInSpec.get path none).toOp = { op := .get, flags := 0, path := Kv.asBytes path } := by
  simp [LookupInSpec.toOp, LookupInSpec.get, hne]

theorem lookupOne_get (hparse : parsePath path = some comps) (hne : path ≠ "")
    (content : JsonValue) :
    lookupOne content (LookupInSpec.get path none).toOp =
      match find comps content with
      | .error status => (status, none)
      | .ok v => (.success, some v.toVec) := by
  rw [toOp_get hne, lookupOne_body rfl hparse rfl]
  unfold lookupBody
  cases find comps content <;> rfl

theorem contentAs_get_error {d : Document} {status : Status} (hparse : parsePath path = some comps)
    (hne : path ≠ "") (hfind : find comps d.content = .error status) :
    exists e, (lookedUp (LookupInSpec.get path none) d).contentAs readAs 0 = .error e := by
  unfold lookedUp
  rw [lookupOne_get hparse hne, hfind]
  simp only [lookupEntries_one]
  rcases find_error hfind with rfl | rfl
  · exact ⟨.pathNotFound, rfl⟩
  · exact ⟨.pathMismatch, rfl⟩

theorem contentAs_get {d : Document} {v : JsonValue} (hparse : parsePath path = some comps)
    (hne : path ≠ "") (hfind : find comps d.content = .ok v) :
    (lookedUp (LookupInSpec.get path none) d).contentAs readAs 0 =
      match readAs v with
      | some value => .ok value
      | none => .error .decodingFailure := by
  have hraw : (lookedUp (LookupInSpec.get path none) d).contentAsRaw 0 = .ok v.toVec := by
    unfold lookedUp
    rw [lookupOne_get hparse hne, hfind]
    simp only [lookupEntries_one]
    rfl
  unfold Kv.LookupInResult.contentAs
  cases hread : readAs v with
  | none => simp only [hraw, JsonValue.fromSlice_toVec, Option.bind_some, hread]
  | some value => simp only [hraw, JsonValue.fromSlice_toVec, Option.bind_some, hread]

/-- A whole document is read where it has the flags of JSON. -/
theorem contentAs_document {d : Document} {value : alpha}
    (h : d.getResult.contentAs readAs = .ok value) : readAs d.content = some value := by
  unfold Document.getResult Kv.GetResult.contentAs at h
  simp only [JsonValue.fromSlice_toVec, Option.bind_some] at h
  split at h
  · cases h
  · split at h
    · next hvalue =>
        cases h
        exact hvalue
    · cases h

theorem serve_get {s t : Server} {choice : Choice} {answer : Except Status Document}
    (h : s.serve choice .get = some (answer, t)) :
    t = s ∧ (s.doc = none ∧ answer = .error .keyNotFound ∨
      exists d, s.doc = some d ∧ answer = .ok d) := by
  simp only [Server.serve] at h
  split at h
  · next hdoc =>
      cases h
      exact ⟨rfl, Or.inl ⟨hdoc, rfl⟩⟩
  · next d hdoc =>
      cases h
      exact ⟨rfl, Or.inr ⟨d, hdoc, rfl⟩⟩

/-- Lists are read from arrays. -/
theorem deserializeList_eq_some {v : JsonValue} {values : List alpha}
    (h : Kv.deserializeList readAs v = some values) :
    exists items, v = .array items ∧ items.mapM readAs = some values := by
  cases v with
  | array items => exact ⟨items, rfl, h⟩
  | _ => cases h

end Reading

end CollectionDs
end CouchbaseSdk
