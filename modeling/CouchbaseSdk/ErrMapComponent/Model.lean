import CouchbaseSdk.Foundation.FiniteMap
import CouchbaseSdk.Foundation.Transition
import Mathlib.Data.UInt

/-!
# Error maps

Every connection hands the error map of its node to one component, which keeps the map
of the highest revision.  The component has no lock: a call loads the stored map, and
swaps in its own where that is newer.
-/

namespace CouchbaseSdk
namespace ErrMapComponent

open Foundation

structure ErrMapError where
  name : String
  description : String
  attributes : List String
deriving DecidableEq, Repr

/-- An error map as it is on the wire.  The entries are in the order of the iteration. -/
structure CfgErrMap where
  version : Int
  revision : Int
  errors : List (String × ErrMapError)
deriving Repr

structure ErrMap where
  version : Int
  revision : Int
  errors : FiniteMap UInt16 ErrMapError

/-!
# Parsing
-/

inductive IntErrorKind where
  | empty
  | invalidDigit
  | posOverflow
deriving DecidableEq, Repr

def IntErrorKind.description : IntErrorKind -> String
  | .empty => "cannot parse integer from empty string"
  | .invalidDigit => "invalid digit found in string"
  | .posOverflow => "number too large to fit in target type"

def hexDigit (c : Char) : Option Nat :=
  if '0' ≤ c ∧ c ≤ '9' then some (c.toNat - '0'.toNat)
  else if 'a' ≤ c ∧ c ≤ 'f' then some (c.toNat - 'a'.toNat + 10)
  else if 'A' ≤ c ∧ c ≤ 'F' then some (c.toNat - 'A'.toNat + 10)
  else none

def hexDigits : List Char -> UInt16 -> Except IntErrorKind UInt16
  | [], result => .ok result
  | c :: rest, result =>
      match hexDigit c with
      | none => .error .invalidDigit
      | some digit =>
          let next := result.toNat * 16 + digit
          if next < UInt16.size then hexDigits rest (UInt16.ofNat next)
          else .error .posOverflow

/-- `u16::from_str_radix` for base 16. -/
def fromHex (src : String) : Except IntErrorKind UInt16 :=
  match src.toList with
  | [] => .error .empty
  | ['+'] | ['-'] => .error .invalidDigit
  | '+' :: digits => hexDigits digits 0
  | digits => hexDigits digits 0

/-- `serde_json`, as far as error maps go. -/
abbrev SerdeJson := List UInt8 -> Except String CfgErrMap

def insertErrors : List (String × ErrMapError) -> FiniteMap UInt16 ErrMapError ->
    Except String (FiniteMap UInt16 ErrMapError)
  | [], errors => .ok errors
  | (code, err) :: rest, errors =>
      match fromHex code with
      | .error e => .error ("failed to parse error code: " ++ e.description)
      | .ok code => insertErrors rest (errors.insert code err)

def parseErrorMap (fromSlice : SerdeJson) (mapBytes : List UInt8) : Except String ErrMap :=
  match fromSlice mapBytes with
  | .error e => .error ("failed to deserialize error map: " ++ e)
  | .ok cfg =>
      (insertErrors cfg.errors ∅).map fun errors =>
        { version := cfg.version, revision := cfg.revision, errors := errors }

/-!
# The component
-/

/-- An `Arc` of a call: two are the same pointer where they are of one call. -/
structure Shared where
  call : Nat
  map : ErrMap

/-- Where a call is: about to load, holding the map it has loaded, or having found none. -/
inductive Phase where
  | looping
  | swapping (current : Shared)
  | storing
  | returned

structure Call where
  newErrMap : Shared
  phase : Phase

structure State where
  errMap : Option Shared
  calls : List Call

def new : State :=
  { errMap := none, calls := [] }

/-- A call that parses its map goes on to the loop; one that does not has returned. -/
def onErrMap (fromSlice : SerdeJson) (s : State) (errMap : List UInt8) : Option State :=
  match parseErrorMap fromSlice errMap with
  | .ok map =>
      some { s with
        calls := s.calls ++ [{ newErrMap := { call := s.calls.length, map := map }
                               phase := .looping }] }
  | .error _ => some s

def State.setPhase (s : State) (k : Nat) (call : Call) (phase : Phase) : State :=
  { s with calls := s.calls.set k { call with phase := phase } }

def load (s : State) (k : Nat) : Option State :=
  match s.calls[k]? with
  | some call =>
      match call.phase with
      | .looping =>
          match s.errMap with
          | some cem =>
              if call.newErrMap.map.revision ≤ cem.map.revision then
                some (s.setPhase k call .returned)
              else some (s.setPhase k call (.swapping cem))
          | none => some (s.setPhase k call .storing)
      | _ => none
  | none => none

/-- The loop goes on after a swap, and ends where the swap has lost. -/
def compareAndSwap (s : State) (k : Nat) : Option State :=
  match s.calls[k]? with
  | some call =>
      match call.phase with
      | .swapping current =>
          if s.errMap.map Shared.call = some current.call then
            some { s.setPhase k call .looping with errMap := some call.newErrMap }
          else some (s.setPhase k call .returned)
      | _ => none
  | none => none

def store (s : State) (k : Nat) : Option State :=
  match s.calls[k]? with
  | some call =>
      match call.phase with
      | .storing =>
          some { s.setPhase k call .returned with errMap := some call.newErrMap }
      | _ => none
  | none => none

inductive Action where
  | onErrMap (errMap : List UInt8)
  | load (k : Nat)
  | compareAndSwap (k : Nat)
  | store (k : Nat)

def step (fromSlice : SerdeJson) : StepFn State Action
  | s, .onErrMap errMap => onErrMap fromSlice s errMap
  | s, .load k => load s k
  | s, .compareAndSwap k => compareAndSwap s k
  | s, .store k => store s k

def retries (attr : String) : Bool :=
  attr = "retry-now" || attr = "retry-later" || attr = "auto-retry"

def ErrMap.shouldRetry (errMap : ErrMap) (status : UInt16) : Bool :=
  match errMap.errors.lookup status with
  | some errData => errData.attributes.any retries
  | none => false

def State.shouldRetry (s : State) (status : UInt16) : Bool :=
  match s.errMap with
  | some errMap => errMap.map.shouldRetry status
  | none => false

/-!
# Steps
-/

inductive Step (fromSlice : SerdeJson) (s : State) : Action -> State -> Prop where
  | begun (errMap : List UInt8) (map : ErrMap) : parseErrorMap fromSlice errMap = .ok map ->
      Step fromSlice s (.onErrMap errMap) { s with
        calls := s.calls ++ [{ newErrMap := { call := s.calls.length, map := map }
                               phase := .looping }] }
  | unparsable (errMap : List UInt8) (e : String) :
      parseErrorMap fromSlice errMap = .error e -> Step fromSlice s (.onErrMap errMap) s
  | kept (k : Nat) (call : Call) (cem : Shared) : s.calls[k]? = some call ->
      call.phase = .looping -> s.errMap = some cem ->
        call.newErrMap.map.revision ≤ cem.map.revision ->
          Step fromSlice s (.load k) (s.setPhase k call .returned)
  | older (k : Nat) (call : Call) (cem : Shared) : s.calls[k]? = some call ->
      call.phase = .looping -> s.errMap = some cem ->
        cem.map.revision < call.newErrMap.map.revision ->
          Step fromSlice s (.load k) (s.setPhase k call (.swapping cem))
  | empty (k : Nat) (call : Call) : s.calls[k]? = some call -> call.phase = .looping ->
      s.errMap = none -> Step fromSlice s (.load k) (s.setPhase k call .storing)
  | swapped (k : Nat) (call : Call) (current stored : Shared) : s.calls[k]? = some call ->
      call.phase = .swapping current -> s.errMap = some stored ->
        stored.call = current.call ->
          Step fromSlice s (.compareAndSwap k)
            { s.setPhase k call .looping with errMap := some call.newErrMap }
  | lost (k : Nat) (call : Call) (current : Shared) : s.calls[k]? = some call ->
      call.phase = .swapping current -> s.errMap.map Shared.call ≠ some current.call ->
        Step fromSlice s (.compareAndSwap k) (s.setPhase k call .returned)
  | stored (k : Nat) (call : Call) : s.calls[k]? = some call -> call.phase = .storing ->
      Step fromSlice s (.store k)
        { s.setPhase k call .returned with errMap := some call.newErrMap }

variable {fromSlice : SerdeJson} {s s' : State} {a : Action}

theorem load_inv {k : Nat} (h : load s k = some s') : Step fromSlice s (.load k) s' := by
  unfold load at h
  split at h
  · rename_i call hcall
    split at h
    · rename_i hphase
      split at h
      · rename_i cem hstored
        split at h
        · rename_i hrev
          cases h
          exact Step.kept k call cem hcall hphase hstored hrev
        · rename_i hrev
          cases h
          exact Step.older k call cem hcall hphase hstored (Int.not_le.mp hrev)
      · rename_i hstored
        cases h
        exact Step.empty k call hcall hphase hstored
    · cases h
  · cases h

theorem compareAndSwap_inv {k : Nat} (h : compareAndSwap s k = some s') :
    Step fromSlice s (.compareAndSwap k) s' := by
  unfold compareAndSwap at h
  split at h
  · rename_i call hcall
    split at h
    · rename_i current hphase
      split at h
      · rename_i hsame
        rcases Option.map_eq_some_iff.mp hsame with ⟨stored, hstored, hcalls⟩
        cases h
        exact Step.swapped k call current stored hcall hphase hstored hcalls
      · rename_i hsame
        cases h
        exact Step.lost k call current hcall hphase hsame
    · cases h
  · cases h

theorem step_inv (h : step fromSlice s a = some s') : Step fromSlice s a s' := by
  cases a with
  | onErrMap errMap =>
      change onErrMap fromSlice s errMap = some s' at h
      unfold onErrMap at h
      split at h
      · rename_i map hparse
        cases h
        exact Step.begun errMap map hparse
      · rename_i e hparse
        cases h
        exact Step.unparsable errMap e hparse
  | load k => exact load_inv h
  | compareAndSwap k => exact compareAndSwap_inv h
  | store k =>
      change store s k = some s' at h
      unfold store at h
      split at h
      · rename_i call hcall
        split at h
        · rename_i hphase
          cases h
          exact Step.stored k call hcall hphase
        · cases h
      · cases h

end ErrMapComponent
end CouchbaseSdk
