import CouchbaseSdk.Foundation.JsonValue
import CouchbaseSdk.Memdx.Subdoc

/-!
# Specs of sub-document mutations

A spec is what a caller asks for at a path.  A value that is one of three macros is taken for a
macro: it goes to an extended attribute and is expanded by the server.
-/

namespace CouchbaseSdk
namespace Kv

open Foundation
open Memdx (MutateInOp SubdocOpFlag)

inductive Error where
  | disconnected
  | invalidArgument (arg msg : String)
  | encodingFailure (msg : String)
deriving DecidableEq

def asBytes (s : String) : Buffer :=
  s.toUTF8.data.toList

inductive MutateInOpType where
  | insert | upsert | replace | remove | arrayAppend | arrayPrepend | arrayInsert
  | arrayAddUnique | counter
deriving DecidableEq

structure MutateInSpec where
  op : MutateInOpType
  path : String
  value : Buffer
  createPath : Bool
  isXattr : Bool
  expandMacros : Bool
deriving DecidableEq

def MUTATE_IN_MACROS : List Buffer :=
  [asBytes "\"$\x7bMutation.CAS\x7d\"", asBytes "\"$\x7bMutation.seqno\x7d\"",
    asBytes "\"$\x7bMutation.value_crc32c\x7d\""]

def checkIsMacro (value : Buffer) : Bool :=
  decide (value ∈ MUTATE_IN_MACROS)

/-- The options of a spec, of which some operations have only the second. -/
structure SpecOptions where
  createPath : Option Bool := none
  isXattr : Option Bool := none
deriving DecidableEq

namespace MutateInSpec

/-- An operation whose value may be a macro. -/
def withMacro (op : MutateInOpType) (path : String) (value : Buffer) (opts : SpecOptions) :
    MutateInSpec :=
  let isMacro := checkIsMacro value
  { op := op
    path := path
    value := value
    createPath := opts.createPath.getD false
    isXattr := opts.isXattr.getD isMacro
    expandMacros := isMacro }

def upsertRaw : String -> Buffer -> SpecOptions -> MutateInSpec :=
  withMacro .upsert

def arrayAddUniqueRaw : String -> Buffer -> SpecOptions -> MutateInSpec :=
  withMacro .arrayAddUnique

def remove (path : String) (opts : SpecOptions) : MutateInSpec :=
  { op := .remove
    path := path
    value := []
    createPath := false
    isXattr := opts.isXattr.getD false
    expandMacros := false }

def arrayPrependRaw (path : String) (value : Buffer) (opts : SpecOptions) : MutateInSpec :=
  { op := .arrayPrepend
    path := path
    value := value
    createPath := opts.createPath.getD false
    isXattr := opts.isXattr.getD false
    expandMacros := false }

/-- The brackets of an encoded array are taken off. -/
def stripBrackets (value : Buffer) : Buffer :=
  value.tail.dropLast

def upsert (path : String) (value : JsonValue) (opts : SpecOptions) : MutateInSpec :=
  upsertRaw path value.toVec opts

def arrayAddUnique (path : String) (value : JsonValue) (opts : SpecOptions) : MutateInSpec :=
  arrayAddUniqueRaw path value.toVec opts

def arrayPrepend (path : String) (value : List JsonValue) (opts : SpecOptions) : MutateInSpec :=
  arrayPrependRaw path (stripBrackets (JsonValue.array value).toVec) opts

/-!
# What is sent
-/

def toOpType (spec : MutateInSpec) : Except Error Memdx.MutateInOpType :=
  match spec.op with
  | .insert =>
      if spec.path.isEmpty then
        .error (.invalidArgument "path" "path cannot be empty for insert operation")
      else .ok .dictAdd
  | .upsert =>
      if spec.path.isEmpty then
        .error (.invalidArgument "path" "path cannot be empty for upsert operation")
      else .ok .dictSet
  | .replace => .ok (if spec.path.isEmpty then .setDoc else .replace)
  | .remove => .ok (if spec.path.isEmpty then .deleteDoc else .delete)
  | .arrayAppend => .ok .arrayPushLast
  | .arrayPrepend => .ok .arrayPushFirst
  | .arrayInsert => .ok .arrayInsert
  | .arrayAddUnique => .ok .arrayAddUnique
  | .counter => .ok .counter

def opFlags (spec : MutateInSpec) : SubdocOpFlag :=
  (if spec.isXattr then SubdocOpFlag.XATTR_PATH else 0) |||
    (if spec.createPath then SubdocOpFlag.MKDIR_P else 0) |||
      (if spec.expandMacros then SubdocOpFlag.EXPAND_MACROS else 0)

def toOp (spec : MutateInSpec) : Except Error MutateInOp :=
  spec.toOpType.map fun op =>
    { op := op, flags := spec.opFlags, path := asBytes spec.path, value := spec.value }

/-- Operations on extended attributes come first. -/
def reorder (specs : List MutateInSpec) : List MutateInSpec :=
  specs.filter (fun spec => spec.isXattr) ++ specs.filter fun spec => ! spec.isXattr

/-- The operations of all the specs, or the first error. -/
def toOps : List MutateInSpec -> Except Error (List MutateInOp)
  | [] => .ok []
  | spec :: specs =>
      match spec.toOp with
      | .error e => .error e
      | .ok op => (toOps specs).map fun ops => op :: ops

end MutateInSpec

end Kv
end CouchbaseSdk
