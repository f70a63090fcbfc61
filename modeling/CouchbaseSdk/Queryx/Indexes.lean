import CouchbaseSdk.Foundation.JsonRoundTrip
import CouchbaseSdk.Foundation.Lexing
import CouchbaseSdk.Foundation.MapOrder
import CouchbaseSdk.Retry.Model

/-!
# Statements for indexes

The statements that create, drop and build indexes are put together from texts, and the names in
them are between backticks.
-/

namespace CouchbaseSdk
namespace Queryx

open Foundation
open Foundation.Lexing (replace)

/-!
# Names
-/

def encodeIdentifier (identifier : String) : String :=
  let out := replace '\\' ['\\', '\\'] identifier.toList
  let out := replace '\x60' ['\\', '\x60'] out
  String.ofList ('\x60' :: out ++ ['\x60'])

def buildKeyspace (bucketName : String) (scopeName collectionName : Option String) : String :=
  match scopeName, collectionName with
  | some scope, some collection =>
      encodeIdentifier bucketName ++ "." ++ encodeIdentifier scope ++ "." ++
        encodeIdentifier collection
  | some scope, none => encodeIdentifier bucketName ++ "." ++ encodeIdentifier scope ++ "._default"
  | none, some collection =>
      encodeIdentifier bucketName ++ "._default." ++ encodeIdentifier collection
  | none, none => encodeIdentifier bucketName

/-!
# Options
-/

structure CreatePrimaryIndexOptions where
  bucketName : String
  scopeName : Option String
  collectionName : Option String
  indexName : Option String
  numReplicas : Option UInt32
  deferred : Option Bool
  ignoreIfExists : Option Bool

structure CreateIndexOptions where
  bucketName : String
  scopeName : Option String
  collectionName : Option String
  indexName : String
  numReplicas : Option UInt32
  fields : List String
  deferred : Option Bool
  ignoreIfExists : Option Bool

structure DropPrimaryIndexOptions where
  bucketName : String
  scopeName : Option String
  collectionName : Option String
  indexName : Option String
  ignoreIfNotExists : Option Bool

structure DropIndexOptions where
  bucketName : String
  scopeName : Option String
  collectionName : Option String
  indexName : String
  ignoreIfNotExists : Option Bool

/-!
# Statements
-/

def encodeValue (order : MapOrder) (value : FiniteMap String JsonValue) : String :=
  String.ofList ((JsonValue.object (order.pairs value)).write [])

def insertSome (m : FiniteMap String JsonValue) (key : String) (value : Option JsonValue) :
    FiniteMap String JsonValue :=
  value.elim m fun v => m.insert key v

def withOf (deferred : Option Bool) (numReplicas : Option UInt32) : FiniteMap String JsonValue :=
  insertSome (insertSome ∅ "defer_build" (deferred.map JsonValue.bool)) "num_replica"
    (numReplicas.map fun n => JsonValue.ofNat n.toNat)

/-- Nothing is written for an empty map. -/
def withClause (order : MapOrder) (value : FiniteMap String JsonValue) : String :=
  if value.keys.isEmpty then "" else " WITH " ++ encodeValue order value

def CreatePrimaryIndexOptions.statement (order : MapOrder) (opts : CreatePrimaryIndexOptions) :
    String :=
  "CREATE PRIMARY INDEX" ++
    (opts.indexName.elim "" fun indexName => " " ++ encodeIdentifier indexName) ++
    (" ON " ++ buildKeyspace opts.bucketName opts.scopeName opts.collectionName) ++
    withClause order (withOf opts.deferred opts.numReplicas)

def CreateIndexOptions.statement (order : MapOrder) (opts : CreateIndexOptions) : String :=
  "CREATE INDEX" ++ (" " ++ encodeIdentifier opts.indexName) ++
    (" ON " ++ buildKeyspace opts.bucketName opts.scopeName opts.collectionName) ++
    (" ( " ++ ",".intercalate (opts.fields.map encodeIdentifier) ++ ")") ++
    withClause order (withOf opts.deferred opts.numReplicas)

/-- How an index with a name is dropped. -/
def dropStatement (bucketName : String) (scopeName collectionName : Option String)
    (indexName : String) : String :=
  let encodedName := encodeIdentifier indexName
  let keyspace := buildKeyspace bucketName scopeName collectionName
  if scopeName.isSome || collectionName.isSome then
    "DROP INDEX " ++ encodedName ++ (" ON " ++ keyspace)
  else "DROP INDEX " ++ keyspace ++ "." ++ encodedName

def DropPrimaryIndexOptions.statement (opts : DropPrimaryIndexOptions) : String :=
  match opts.indexName with
  | some indexName =>
      dropStatement opts.bucketName opts.scopeName opts.collectionName indexName
  | none =>
      "DROP PRIMARY INDEX ON " ++
        buildKeyspace opts.bucketName opts.scopeName opts.collectionName

def DropIndexOptions.statement (opts : DropIndexOptions) : String :=
  dropStatement opts.bucketName opts.scopeName opts.collectionName opts.indexName

/-!
# Queries
-/

namespace ErrorKind

def isIndexExists : ErrorKind -> Bool
  | resource cause => cause.kind = .indexExists
  | _ => false

def isIndexNotFound : ErrorKind -> Bool
  | resource cause => cause.kind = .indexNotFound
  | _ => false

def isBuildAlreadyInProgress : ErrorKind -> Bool
  | server e => e.kind = .buildAlreadyInProgress
  | _ => false

end ErrorKind

def created (ignoreIfExists : Option Bool) : Except ErrorKind Unit -> Except ErrorKind Unit
  | .error e =>
      if e.isIndexExists then if ignoreIfExists.getD false then .ok () else .error e
      else if e.isBuildAlreadyInProgress then .ok ()
      else .error e
  | .ok _ => .ok ()

def dropped (ignoreIfNotExists : Option Bool) : Except ErrorKind Unit -> Except ErrorKind Unit
  | .error e =>
      if e.isIndexNotFound then if ignoreIfNotExists.getD false then .ok () else .error e
      else .error e
  | .ok _ => .ok ()

/-- What the service answers to a statement. -/
abbrev Query := String -> Except ErrorKind Unit

def createPrimaryIndex (order : MapOrder) (query : Query) (opts : CreatePrimaryIndexOptions) :
    Except ErrorKind Unit :=
  created opts.ignoreIfExists (query (opts.statement order))

def createIndex (order : MapOrder) (query : Query) (opts : CreateIndexOptions) :
    Except ErrorKind Unit :=
  created opts.ignoreIfExists (query (opts.statement order))

def dropPrimaryIndex (query : Query) (opts : DropPrimaryIndexOptions) : Except ErrorKind Unit :=
  dropped opts.ignoreIfNotExists (query opts.statement)

def dropIndex (query : Query) (opts : DropIndexOptions) : Except ErrorKind Unit :=
  dropped opts.ignoreIfNotExists (query opts.statement)

/-!
# Deferred indexes
-/

structure Index where
  name : String
  state : String
  keyspaceId : Option String
  scopeId : Option String
  bucketId : Option String
deriving DecidableEq

structure DeferredIndexName where
  bucketName : String
  scopeName : String
  collectionName : String
  indexName : String
deriving DecidableEq

def indexToNamespaceParts (index : Index) : String × String × String :=
  match index.bucketId with
  | none => (index.keyspaceId.getD "", "_default", "_default")
  | some bucketId => (bucketId, index.scopeId.getD "", index.keyspaceId.getD "")

def deferredName (index : Index) : DeferredIndexName :=
  { bucketName := (indexToNamespaceParts index).1
    scopeName := (indexToNamespaceParts index).2.1
    collectionName := (indexToNamespaceParts index).2.2
    indexName := index.name }

def DeferredIndexName.keyspace (d : DeferredIndexName) : String :=
  buildKeyspace d.bucketName (some d.scopeName) (some d.collectionName)

def deferredItems (indexes : List Index) : List (String × DeferredIndexName) :=
  (indexes.filter fun index => index.state == "deferred").map fun index =>
    ((deferredName index).keyspace, deferredName index)

def buildStatement (keyspace : String) (indexes : List DeferredIndexName) : String :=
  "BUILD INDEX ON " ++ keyspace ++ "(" ++
    ",".intercalate (indexes.map fun index => encodeIdentifier index.indexName) ++ ")"

/-- The statements that are sent, with what the service answers to each after those before it,
and what is returned. -/
def buildAll (query : List String -> Query) :
    List String -> List (String × List DeferredIndexName) ->
      List String × Except ErrorKind Unit
  | sent, [] => (sent, .ok ())
  | sent, (keyspace, indexes) :: rest =>
      let qs := buildStatement keyspace indexes
      match query sent qs with
      | .error e =>
          if e.isBuildAlreadyInProgress then buildAll query (sent ++ [qs]) rest
          else (sent ++ [qs], .error e)
      | .ok _ => buildAll query (sent ++ [qs]) rest

def buildDeferredIndexes (order : MapOrder) (query : List String -> Query)
    (getAllIndexes : Except ErrorKind (List Index)) : List String × Except ErrorKind Unit :=
  match getAllIndexes with
  | .error e => ([], .error e)
  | .ok indexes =>
      buildAll query [] (order.pairs (FiniteMap.group (deferredItems indexes)))

end Queryx
end CouchbaseSdk
