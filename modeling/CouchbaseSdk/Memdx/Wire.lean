import Mathlib.Data.List.Basic

/-!
# Header vocabulary of the KV protocol

The enumerations that stand in a packet header, each with its two tables: the
byte an encoder writes for a value, and the value a decoder reads from a byte.
The tables are written separately in the source and are kept separate here.
-/

namespace CouchbaseSdk
namespace Memdx

/-!
# Operation codes
-/

inductive OpCode where
  | get | set | add | replace | delete | increment | decrement | noop | touch
  | gat | append | prepend | hello | getClusterConfig | getCollectionId
  | subDocGet | subDocExists | subDocDictAdd | subDocDictSet | subDocDelete
  | subDocReplace | subDocArrayPushLast | subDocArrayPushFirst
  | subDocArrayInsert | subDocArrayAddUnique | subDocCounter
  | subDocMultiLookup | subDocMultiMutation | subDocGetCount
  | subDocReplaceBodyWithXattr | getErrorMap | selectBucket | getLocked
  | unlockKey | getMeta | saslAuth | saslListMechs | saslStep
  | unknown (code : UInt8)
deriving DecidableEq

inductive Status where
  | success | keyNotFound | keyExists | tooBig | invalidArgs | notStored
  | badDelta | notMyVbucket | noBucket | locked | opaqueNoMatch
  | wouldThrottle | configOnly | notLocked | authStale | authError
  | authContinue | rangeError | accessError | notInitialized
  | rateLimitedNetworkIngress | rateLimitedNetworkEgress
  | rateLimitedMaxConnections | rateLimitedMaxCommands
  | rateLimitedScopeSizeLimitExceeded | commandUnknown | outOfMemory
  | notSupported | internalError | busy | tmpFail | collectionUnknown
  | scopeUnknown | durabilityInvalidLevel | durabilityImpossible
  | syncWriteInProgress | syncWriteAmbiguous | syncWriteRecommitInProgress
  | rangeScanCancelled | rangeScanMore | rangeScanComplete
  | rangeScanVbuuidNotEqual | subDocPathNotFound | subDocPathMismatch
  | subDocPathInvalid | subDocPathTooBig | subDocDocTooDeep
  | subDocCantInsert | subDocNotJson | subDocBadRange | subDocBadDelta
  | subDocPathExists | subDocValueTooDeep | subDocInvalidCombo
  | subDocMultiPathFailure | subDocSuccessDeleted
  | subDocXattrInvalidFlagCombo | subDocXattrInvalidKeyCombo
  | subDocXattrUnknownMacro | subDocXattrUnknownVAttr
  | subDocXattrCannotModifyVAttr | subDocMultiPathFailureDeleted
  | subDocInvalidXattrOrder | subDocXattrUnknownVattrMacro
  | subDocCanOnlyReviveDeletedDocuments | subDocDeletedDocumentCantHaveValue
  | unknown (value : UInt16)
deriving DecidableEq

/-!
# Errors

An error is its kind: the source compares errors by kind alone, and the chain of
causes it carries is only printed.
-/

inductive CancellationErrorKind where
  | timeout | requestCancelled | closedInFlight
deriving DecidableEq

inductive Error where
  | dispatch (opaqueId : UInt32) (opCode : OpCode)
  | close (msg : String)
  | protocol (msg : String)
  | cancelled (kind : CancellationErrorKind)
  | invalidArgument (msg : String) (arg : Option String)
  | decompression
  | message (msg : String)
deriving DecidableEq

namespace OpCode

def toU8 : OpCode -> UInt8
  | .get => 0x00
  | .set => 0x01
  | .add => 0x02
  | .replace => 0x03
  | .delete => 0x04
  | .increment => 0x05
  | .decrement => 0x06
  | .noop => 0x0a
  | .append => 0x0e
  | .prepend => 0x0f
  | .touch => 0x1c
  | .gat => 0x1d
  | .hello => 0x1f
  | .saslListMechs => 0x20
  | .saslAuth => 0x21
  | .saslStep => 0x22
  | .selectBucket => 0x89
  | .getLocked => 0x94
  | .unlockKey => 0x95
  | .getMeta => 0xa0
  | .getClusterConfig => 0xb5
  | .getCollectionId => 0xbb
  | .subDocGet => 0xc5
  | .subDocExists => 0xc6
  | .subDocDictAdd => 0xc7
  | .subDocDictSet => 0xc8
  | .subDocDelete => 0xc9
  | .subDocReplace => 0xca
  | .subDocArrayPushLast => 0xcb
  | .subDocArrayPushFirst => 0xcc
  | .subDocArrayInsert => 0xcd
  | .subDocArrayAddUnique => 0xce
  | .subDocCounter => 0xcf
  | .subDocMultiLookup => 0xd0
  | .subDocMultiMutation => 0xd1
  | .subDocGetCount => 0xd2
  | .subDocReplaceBodyWithXattr => 0xd3
  | .getErrorMap => 0xfe
  | .unknown code => code

def ofU8 (value : UInt8) : OpCode :=
  match value.toNat with
  | 0x00 => .get
  | 0x01 => .set
  | 0x02 => .add
  | 0x03 => .replace
  | 0x04 => .delete
  | 0x05 => .increment
  | 0x06 => .decrement
  | 0x0a => .noop
  | 0x0e => .append
  | 0x0f => .prepend
  | 0x1c => .touch
  | 0x1d => .gat
  | 0x1f => .hello
  | 0x20 => .saslListMechs
  | 0x21 => .saslAuth
  | 0x22 => .saslStep
  | 0x89 => .selectBucket
  | 0x94 => .getLocked
  | 0x95 => .unlockKey
  | 0xb5 => .getClusterConfig
  | 0xbb => .getCollectionId
  | 0xc5 => .subDocGet
  | 0xc6 => .subDocExists
  | 0xc7 => .subDocDictAdd
  | 0xc8 => .subDocDictSet
  | 0xc9 => .subDocDelete
  | 0xca => .subDocReplace
  | 0xcb => .subDocArrayPushLast
  | 0xcc => .subDocArrayPushFirst
  | 0xcd => .subDocArrayInsert
  | 0xce => .subDocArrayAddUnique
  | 0xcf => .subDocCounter
  | 0xd0 => .subDocMultiLookup
  | 0xd1 => .subDocMultiMutation
  | 0xd2 => .subDocGetCount
  | 0xd3 => .subDocReplaceBodyWithXattr
  | 0xfe => .getErrorMap
  | _ => .unknown value

/-- The conversion is declared fallible and has no failing case. -/
def tryFrom (value : UInt8) : Except Error OpCode :=
  .ok (ofU8 value)

/-- The bytes for which `ofU8` has an entry. -/
def assigned : List UInt8 :=
  [ 0x00, 0x01, 0x02, 0x03, 0x04, 0x05, 0x06, 0x0a, 0x0e, 0x0f, 0x1c,
    0x1d, 0x1f, 0x20, 0x21, 0x22, 0x89, 0x94, 0x95, 0xb5, 0xbb, 0xc5,
    0xc6, 0xc7, 0xc8, 0xc9, 0xca, 0xcb, 0xcc, 0xcd, 0xce, 0xcf, 0xd0,
    0xd1, 0xd2, 0xd3, 0xfe ]

theorem ofU8_unassigned (code : UInt8) :
    ofU8 code = .unknown code <-> code ∉ assigned := by
  have hall : forall n : Fin 256,
      ofU8 (UInt8.ofFin n) = .unknown (UInt8.ofFin n) <->
        UInt8.ofFin n ∉ assigned := by
    decide +kernel
  exact hall code.toFin

/--
The two opcode tables agree on a value except for `getMeta`, which only the
encoder lists, and for an `unknown` that carries an assigned byte.
-/
theorem ofU8_toU8_iff (op : OpCode) :
    ofU8 op.toU8 = op <->
      op ≠ .getMeta ∧ forall code, op = .unknown code -> code ∉ assigned := by
  cases op with
  | unknown code =>
      constructor
      · intro h
        constructor
        · intro hmeta
          cases hmeta
        · intro code' hcode
          cases hcode
          exact (ofU8_unassigned code).mp h
      · intro h
        exact (ofU8_unassigned code).mpr (h.right code rfl)
  | getMeta =>
      constructor
      · intro h
        cases h
      · intro h
        exact absurd rfl h.left
  | _ =>
      constructor
      · intro _
        constructor
        · intro h
          cases h
        · intro code h
          cases h
      · intro _
        rfl

end OpCode

namespace Status

def ofU16 (value : UInt16) : Status :=
  match value.toNat with
  | 0x00 => .success
  | 0x01 => .keyNotFound
  | 0x02 => .keyExists
  | 0x03 => .tooBig
  | 0x04 => .invalidArgs
  | 0x05 => .notStored
  | 0x06 => .badDelta
  | 0x07 => .notMyVbucket
  | 0x08 => .noBucket
  | 0x09 => .locked
  | 0x0b => .opaqueNoMatch
  | 0x0c => .wouldThrottle
  | 0x0d => .configOnly
  | 0x0e => .notLocked
  | 0x1f => .authStale
  | 0x20 => .authError
  | 0x21 => .authContinue
  | 0x22 => .rangeError
  | 0x24 => .accessError
  | 0x25 => .notInitialized
  | 0x30 => .rateLimitedNetworkIngress
  | 0x31 => .rateLimitedNetworkEgress
  | 0x32 => .rateLimitedMaxConnections
  | 0x33 => .rateLimitedMaxCommands
  | 0x34 => .rateLimitedScopeSizeLimitExceeded
  | 0x81 => .commandUnknown
  | 0x82 => .outOfMemory
  | 0x83 => .notSupported
  | 0x84 => .internalError
  | 0x85 => .busy
  | 0x86 => .tmpFail
  | 0x88 => .collectionUnknown
  | 0x8c => .scopeUnknown
  | 0xa0 => .durabilityInvalidLevel
  | 0xa1 => .durabilityImpossible
  | 0xa2 => .syncWriteInProgress
  | 0xa3 => .syncWriteAmbiguous
  | 0xa4 => .syncWriteRecommitInProgress
  | 0xa5 => .rangeScanCancelled
  | 0xa6 => .rangeScanMore
  | 0xa7 => .rangeScanComplete
  | 0xa8 => .rangeScanVbuuidNotEqual
  | 0xc0 => .subDocPathNotFound
  | 0xc1 => .subDocPathMismatch
  | 0xc2 => .subDocPathInvalid
  | 0xc3 => .subDocPathTooBig
  | 0xc4 => .subDocDocTooDeep
  | 0xc5 => .subDocCantInsert
  | 0xc6 => .subDocNotJson
  | 0xc7 => .subDocBadRange
  | 0xc8 => .subDocBadDelta
  | 0xc9 => .subDocPathExists
  | 0xca => .subDocValueTooDeep
  | 0xcb => .subDocInvalidCombo
  | 0xcc => .subDocMultiPathFailure
  | 0xcd => .subDocSuccessDeleted
  | 0xce => .subDocXattrInvalidFlagCombo
  | 0xcf => .subDocXattrInvalidKeyCombo
  | 0xd0 => .subDocXattrUnknownMacro
  | 0xd1 => .subDocXattrUnknownVAttr
  | 0xd2 => .subDocXattrCannotModifyVAttr
  | 0xd3 => .subDocMultiPathFailureDeleted
  | 0xd4 => .subDocInvalidXattrOrder
  | 0xd5 => .subDocXattrUnknownVattrMacro
  | 0xd6 => .subDocCanOnlyReviveDeletedDocuments
  | 0xd7 => .subDocDeletedDocumentCantHaveValue
  | _ => .unknown value

end Status

/-!
# Magic bytes
-/

inductive Magic where
  | req | res | reqExt | resExt | serverReq | serverRes
deriving DecidableEq

namespace Magic

def isExtended : Magic -> Bool
  | .reqExt | .resExt => true
  | _ => false

def toU8 : Magic -> UInt8
  | .req => 0x80
  | .res => 0x81
  | .reqExt => 0x08
  | .resExt => 0x18
  | .serverReq => 0x82
  | .serverRes => 0x83

def tryFrom (value : UInt8) : Except Error Magic :=
  match value.toNat with
  | 0x80 => .ok .req
  | 0x81 => .ok .res
  | 0x08 => .ok .reqExt
  | 0x18 => .ok .resExt
  | 0x82 => .ok .serverReq
  | 0x83 => .ok .serverRes
  | _ => .error (.message ("unknown magic " ++ toString value.toNat))

@[simp] theorem tryFrom_toU8 (magic : Magic) :
    tryFrom magic.toU8 = .ok magic := by
  cases magic <;> rfl

end Magic

/-!
# Datatype flags
-/

inductive DataTypeFlag where
  | none | json | compressed | xattrs
deriving DecidableEq

def DataTypeFlag.toU8 : DataTypeFlag -> UInt8
  | .none => 0
  | .json => 1
  | .compressed => 2
  | .xattrs => 4

end Memdx
end CouchbaseSdk
