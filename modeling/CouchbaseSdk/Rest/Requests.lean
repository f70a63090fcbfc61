import CouchbaseSdk.Foundation.ResourcePath
import CouchbaseSdk.Mgmtx.Users

/-!
# The paths of the REST requests

Every request of the management and the search client, with the path that is formatted for it.
Some of the names in them are percent-encoded and some are not.
-/

namespace CouchbaseSdk
namespace Rest

open Mgmtx (HttpMethod bucketPath upsertGroupPath urlencode userPath)

inductive Error where
  | invalidArgument (msg : String) (arg : Option String)
deriving DecidableEq

/-!
# Management
-/

/-- The requests of `mgmtx`, with the names that they are for. -/
inductive MgmtRequest where
  | getAllBuckets
  | getBucket (bucketName : String)
  | createBucket (bucketName : String)
  | updateBucket (bucketName : String)
  | deleteBucket (bucketName : String)
  | flushBucket (bucketName : String)
  | getCollectionManifest (bucketName : String)
  | createScope (bucketName scopeName : String)
  | deleteScope (bucketName scopeName : String)
  | createCollection (bucketName scopeName collectionName : String)
  | updateCollection (bucketName scopeName collectionName : String)
  | deleteCollection (bucketName scopeName collectionName : String)
  | getUser (authDomain username : String)
  | getAllUsers (authDomain : String)
  | upsertUser (authDomain username : String)
  | deleteUser (authDomain username : String)
  | getRoles (permission : Option String)
  | getGroup (groupName : String)
  | getAllGroups
  | upsertGroup (groupName : String)
  | deleteGroup (groupName : String)
  | changePassword
deriving DecidableEq

def scopesPath (bucketName : String) : String :=
  "pools/default/buckets/" ++ bucketName ++ "/scopes"

def collectionPath (bucketName scopeName collectionName : String) : String :=
  "pools/default/buckets/" ++ bucketName ++ "/scopes/" ++ scopeName ++ "/collections/" ++
    collectionName

def rolesPath : Option String -> String
  | some p => "settings/rbac/roles?permission=" ++ urlencode p
  | none => "settings/rbac/roles"

namespace MgmtRequest

def method : MgmtRequest -> HttpMethod
  | getAllBuckets | getBucket _ | getCollectionManifest _ | getUser .. | getAllUsers _
  | getRoles _ | getGroup _ | getAllGroups => .get
  | createBucket _ | updateBucket _ | flushBucket _ | createScope .. | createCollection ..
  | changePassword => .post
  | updateCollection .. => .patch
  | upsertUser .. | upsertGroup _ => .put
  | deleteBucket _ | deleteScope .. | deleteCollection .. | deleteUser .. | deleteGroup _ =>
      .delete

def path : MgmtRequest -> String
  | getAllBuckets => "pools/default/buckets"
  | getBucket bucketName => bucketPath bucketName
  | createBucket _ => "pools/default/buckets"
  | updateBucket bucketName => bucketPath bucketName
  | deleteBucket bucketName => bucketPath bucketName
  | flushBucket bucketName =>
      "pools/default/buckets/" ++ bucketName ++ "/controller/doFlush"
  | getCollectionManifest bucketName => scopesPath bucketName
  | createScope bucketName _ => scopesPath bucketName
  | deleteScope bucketName scopeName =>
      "pools/default/buckets/" ++ bucketName ++ "/scopes/" ++ scopeName
  | createCollection bucketName scopeName _ =>
      "pools/default/buckets/" ++ bucketName ++ "/scopes/" ++ scopeName ++ "/collections"
  | updateCollection bucketName scopeName collectionName =>
      collectionPath bucketName scopeName collectionName
  | deleteCollection bucketName scopeName collectionName =>
      collectionPath bucketName scopeName collectionName
  | getUser authDomain username => userPath authDomain username
  | getAllUsers authDomain => "settings/rbac/users/" ++ urlencode authDomain
  | upsertUser authDomain username => userPath authDomain username
  | deleteUser authDomain username => userPath authDomain username
  | getRoles permission => rolesPath permission
  | getGroup groupName => "settings/rbac/groups/" ++ groupName
  | getAllGroups => "settings/rbac/groups"
  | upsertGroup groupName => upsertGroupPath groupName
  | deleteGroup groupName => "settings/rbac/groups/" ++ urlencode groupName
  | changePassword => "controller/changePassword"

end MgmtRequest

/-!
# Search
-/

/-- Where an index is: in a scope of a bucket, or with neither. -/
structure IndexPlace where
  bucketName : Option String
  scopeName : Option String
deriving DecidableEq

inductive Control where
  | pauseIngest | resumeIngest | allowQuerying | disallowQuerying | freezePlan | unfreezePlan
deriving DecidableEq

def Control.text : Control -> String
  | .pauseIngest => "ingestControl/pause"
  | .resumeIngest => "ingestControl/resume"
  | .allowQuerying => "queryControl/allow"
  | .disallowQuerying => "queryControl/disallow"
  | .freezePlan => "planFreezeControl/freeze"
  | .unfreezePlan => "planFreezeControl/unfreeze"

inductive SearchRequest where
  | query (indexName : String) (place : IndexPlace)
  | upsertIndex (indexName : String) (place : IndexPlace)
  | deleteIndex (indexName : String) (place : IndexPlace)
  | getIndex (indexName : String) (place : IndexPlace)
  | getAllIndexes (place : IndexPlace)
  | analyzeDocument (indexName : String) (place : IndexPlace)
  | getIndexedDocumentsCount (indexName : String) (place : IndexPlace)
  | controlIndex (control : Control) (indexName : String) (place : IndexPlace)
  | ping
  | refreshConfig
deriving DecidableEq

def bothOrNeither : Error :=
  .invalidArgument "must specify both or neither scope and bucket names" none

def bothOrNeitherOf : Error :=
  .invalidArgument "must specify both or neither of scope and bucket names" none

def queryUri (indexName : String) (place : IndexPlace) : Except Error String :=
  match place.bucketName with
  | some bucket =>
      match place.scopeName with
      | some scope =>
          .ok ("api/bucket/" ++ bucket ++ "/scope/" ++ scope ++ "/index/" ++ indexName ++ "/query")
      | none => .error bothOrNeither
  | none => .ok ("api/index/" ++ indexName ++ "/query")

def getUri (indexName : String) (place : IndexPlace) : Except Error String :=
  match place.bucketName with
  | some bucket =>
      match place.scopeName with
      | some scope =>
          .ok ("api/bucket/" ++ bucket ++ "/scope/" ++ scope ++ "/index/" ++ indexName)
      | none => .error bothOrNeither
  | none => .ok ("api/index/" ++ indexName)

/-- The path of what is asked for an index, which is to have both names or neither. -/
def placedUri (indexName what : String) (place : IndexPlace) : Except Error String :=
  match place.scopeName, place.bucketName with
  | none, none => .ok ("/api/index/" ++ indexName ++ "/" ++ what)
  | some scope, some bucket =>
      .ok ("/api/bucket/" ++ bucket ++ "/scope/" ++ scope ++ "/index/" ++ indexName ++ "/" ++ what)
  | _, _ => .error bothOrNeitherOf

def controlRequest (indexName : String) (place : IndexPlace) (control : String) :
    Except Error String :=
  if indexName.isEmpty then .error (.invalidArgument "must specify index name" none)
  else placedUri indexName control place

namespace SearchRequest

def method : SearchRequest -> HttpMethod
  | query .. | analyzeDocument .. | controlIndex .. | refreshConfig => .post
  | upsertIndex .. => .put
  | deleteIndex .. => .delete
  | getIndex .. | getAllIndexes _ | getIndexedDocumentsCount .. | ping => .get

/-- An error comes before there is a request. -/
def path : SearchRequest -> Except Error String
  | query indexName place => queryUri indexName place
  | upsertIndex indexName place => getUri indexName place
  | deleteIndex indexName place => getUri indexName place
  | getIndex indexName place => getUri indexName place
  | getAllIndexes place => getUri "" place
  | analyzeDocument indexName place => getUri indexName place
  | getIndexedDocumentsCount indexName place => placedUri indexName "count" place
  | controlIndex control indexName place => controlRequest indexName place control.text
  | ping => .ok "/api/ping"
  | refreshConfig => .ok "/api/cfgRefresh"

end SearchRequest

inductive Request where
  | mgmt (request : MgmtRequest)
  | search (request : SearchRequest)
deriving DecidableEq

def Request.method : Request -> HttpMethod
  | mgmt request => request.method
  | search request => request.method

def Request.path : Request -> Except Error String
  | mgmt request => .ok request.path
  | search request => request.path

end Rest
end CouchbaseSdk
