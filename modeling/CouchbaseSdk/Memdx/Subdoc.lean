import CouchbaseSdk.Foundation.Bytes
import CouchbaseSdk.Foundation.Places
import CouchbaseSdk.Memdx.Wire
import CouchbaseSdk.Retry.Model

/-!
# Sub-document operations

The operations of one request on parts of a document, each with a path into the document or into
its extended attributes.
-/

namespace CouchbaseSdk
namespace Memdx

open Foundation

abbrev SubdocOpFlag := UInt8

namespace SubdocOpFlag

def MKDIR_P : SubdocOpFlag := 0x01

def XATTR_PATH : SubdocOpFlag := 0x04

def EXPAND_MACROS : SubdocOpFlag := 0x10

end SubdocOpFlag

abbrev SubdocDocFlag := UInt8

namespace SubdocDocFlag

def MkDoc : SubdocDocFlag := 0x01

def AddDoc : SubdocDocFlag := 0x02

def AccessDeleted : SubdocDocFlag := 0x04

end SubdocDocFlag

/-!
# Lookups
-/

inductive LookupInOpType where
  | get | exist | getCount | getDoc
deriving DecidableEq

namespace LookupInOpType

def toOpCode : LookupInOpType -> OpCode
  | get => .subDocGet
  | exist => .subDocExists
  | getCount => .subDocGetCount
  | getDoc => .get

def all : List LookupInOpType := [get, exist, getCount, getDoc]

def ofU8 (code : UInt8) : Option LookupInOpType :=
  all.find? fun op => op.toOpCode.toU8 = code

@[simp] theorem ofU8_toU8 (op : LookupInOpType) : ofU8 op.toOpCode.toU8 = some op := by
  cases op <;> rfl

end LookupInOpType

structure LookupInOp where
  op : LookupInOpType
  flags : SubdocOpFlag
  path : Buffer
deriving DecidableEq

/-!
# Mutations
-/

inductive MutateInOpType where
  | dictAdd | dictSet | delete | replace | arrayPushLast | arrayPushFirst | arrayInsert
  | arrayAddUnique | counter | setDoc | addDoc | deleteDoc | replaceBodyWithXattr
deriving DecidableEq

namespace MutateInOpType

def toOpCode : MutateInOpType -> OpCode
  | dictAdd => .subDocDictAdd
  | dictSet => .subDocDictSet
  | delete => .subDocDelete
  | replace => .subDocReplace
  | arrayPushLast => .subDocArrayPushLast
  | arrayPushFirst => .subDocArrayPushFirst
  | arrayInsert => .subDocArrayInsert
  | arrayAddUnique => .subDocArrayAddUnique
  | counter => .subDocCounter
  | setDoc => .set
  | addDoc => .add
  | deleteDoc => .delete
  | replaceBodyWithXattr => .subDocReplaceBodyWithXattr

def all : List MutateInOpType :=
  [dictAdd, dictSet, delete, replace, arrayPushLast, arrayPushFirst, arrayInsert, arrayAddUnique,
    counter, setDoc, addDoc, deleteDoc, replaceBodyWithXattr]

def ofU8 (code : UInt8) : Option MutateInOpType :=
  all.find? fun op => op.toOpCode.toU8 = code

@[simp] theorem ofU8_toU8 (op : MutateInOpType) : ofU8 op.toOpCode.toU8 = some op := by
  cases op <;> rfl

end MutateInOpType

structure MutateInOp where
  op : MutateInOpType
  flags : SubdocOpFlag
  path : Buffer
  value : Buffer
deriving DecidableEq

/-!
# The order of operations
-/

/-- The operations in the order they are sent, each with the place it had. -/
def reorderSubdocOps {op : Type} (isXattrOp : op -> Bool) (ops : List op) : List (op × Nat) :=
  Places.classes isXattrOp ops

/-!
# Errors of requests on parts of a document

A request fails as a whole by its status, and an operation of one by a status of its own.
-/

inductive SubdocErrorKind where
  | pathNotFound | pathMismatch | pathInvalid | pathTooBig | docTooDeep | cantInsert | notJson
  | badRange | badDelta | pathExists | valueTooDeep | invalidCombo | xattrInvalidFlagCombo
  | xattrInvalidKeyCombo | xattrUnknownMacro | xattrUnknownVAttr | xattrCannotModifyVAttr
  | invalidXattrOrder | xattrUnknownVattrMacro | canOnlyReviveDeletedDocuments
  | deletedDocumentCantHaveValue
  | unknownStatus (status : Status)
deriving DecidableEq

/-- Why a request has failed: by a kind of the server, or by one of a part of the document. -/
inductive SubdocFailure where
  | server (kind : ServerErrorKind)
  | subdoc (kind : SubdocErrorKind)
  | invalidArgument (msg : String)
deriving DecidableEq

def decodeCommonStatus : Status -> Option ServerErrorKind
  | .collectionUnknown => some .unknownCollectionID
  | .accessError => some .access
  | .noBucket => some .noBucket
  | .rateLimitedMaxCommands => some .rateLimitedMaxCommands
  | .rateLimitedMaxConnections => some .rateLimitedMaxConnections
  | .rateLimitedNetworkEgress => some .rateLimitedNetworkEgress
  | .rateLimitedNetworkIngress => some .rateLimitedNetworkIngress
  | .rateLimitedScopeSizeLimitExceeded => some .rateLimitedScopeSizeLimitExceeded
  | _ => none

def decodeCommonMutationStatus : Status -> Option ServerErrorKind
  | .durabilityInvalidLevel => some .durabilityInvalid
  | .syncWriteAmbiguous => some .syncWriteAmbiguous
  | .syncWriteInProgress => some .syncWriteInProgress
  | .syncWriteRecommitInProgress => some .syncWriteRecommitInProgress
  | .durabilityImpossible => some .durabilityImpossible
  | status => decodeCommonStatus status

/-- The error of a status that means nothing more to the operation. -/
def decodeStatus (common : Option ServerErrorKind) (status : Status) : SubdocFailure :=
  match common with
  | some kind => .server kind
  | none =>
      match status with
      | .notMyVbucket => .server .notMyVbucket
      | .tmpFail => .server .tmpFail
      | .noBucket => .server .noBucket
      | .authStale => .server .authStale
      | .invalidArgs => .invalidArgument
          "the server rejected the request because one or more arguments were invalid"
      | status => .server (.unknownStatus status)

def getFailure : Status -> SubdocFailure
  | .keyNotFound => .server .keyNotFound
  | status => decodeStatus (decodeCommonStatus status) status

/-!
# Lookups
-/

def lookupInFailure : Status -> SubdocFailure
  | .keyNotFound => .server .keyNotFound
  | .locked => .server .locked
  | .subDocInvalidCombo => .subdoc .invalidCombo
  | .subDocInvalidXattrOrder => .subdoc .invalidXattrOrder
  | .subDocXattrInvalidKeyCombo => .subdoc .xattrInvalidKeyCombo
  | .subDocXattrInvalidFlagCombo => .subdoc .xattrInvalidFlagCombo
  | status => decodeStatus (decodeCommonStatus status) status

def lookupOpFailure : Status -> Option SubdocErrorKind
  | .success => none
  | .subDocDocTooDeep => some .docTooDeep
  | .subDocNotJson => some .notJson
  | .subDocPathNotFound => some .pathNotFound
  | .subDocPathMismatch => some .pathMismatch
  | .subDocPathInvalid => some .pathInvalid
  | .subDocPathTooBig => some .pathTooBig
  | .subDocXattrUnknownVAttr => some .xattrUnknownVAttr
  | status => some (.unknownStatus status)

/-!
# Mutations
-/

def mutateInFailure (flags : SubdocDocFlag) (cas : Option UInt64) : Status -> SubdocFailure
  | .keyNotFound => .server .keyNotFound
  | .keyExists => if cas.isSome then .server .casMismatch else .server .keyExists
  | .locked => .server .locked
  | .tooBig => .server .tooBig
  | .subDocInvalidCombo => .subdoc .invalidCombo
  | .subDocInvalidXattrOrder => .subdoc .invalidXattrOrder
  | .subDocXattrInvalidKeyCombo => .subdoc .xattrInvalidKeyCombo
  | .subDocXattrInvalidFlagCombo => .subdoc .xattrInvalidFlagCombo
  | .subDocXattrUnknownMacro => .subdoc .xattrUnknownMacro
  | .subDocXattrUnknownVattrMacro => .subdoc .xattrUnknownVattrMacro
  | .subDocXattrCannotModifyVAttr => .subdoc .xattrCannotModifyVAttr
  | .subDocCanOnlyReviveDeletedDocuments => .subdoc .canOnlyReviveDeletedDocuments
  | .subDocDeletedDocumentCantHaveValue => .subdoc .deletedDocumentCantHaveValue
  | .notStored =>
      if flags &&& SubdocDocFlag.AddDoc ≠ 0 then .server .keyExists else .server .notStored
  | status => decodeStatus (decodeCommonMutationStatus status) status

def mutateOpFailure : Status -> SubdocErrorKind
  | .subDocDocTooDeep => .docTooDeep
  | .subDocNotJson => .notJson
  | .subDocPathNotFound => .pathNotFound
  | .subDocPathMismatch => .pathMismatch
  | .subDocPathInvalid => .pathInvalid
  | .subDocPathTooBig => .pathTooBig
  | .subDocPathExists => .pathExists
  | .subDocCantInsert => .cantInsert
  | .subDocBadRange => .badRange
  | .subDocBadDelta => .badDelta
  | .subDocValueTooDeep => .valueTooDeep
  | status => .unknownStatus status

end Memdx
end CouchbaseSdk
