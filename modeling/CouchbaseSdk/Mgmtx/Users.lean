import CouchbaseSdk.Foundation.PercentEncoding
import CouchbaseSdk.Mgmtx.Buckets

/-!
# Users and their roles

The roles of a user or a group are sent as one text.  What the server returns for a user has
the origins of each role, and the roles that the user has directly are picked by them.
-/

namespace CouchbaseSdk
namespace Mgmtx

open Foundation
open Foundation.JsonRecord

structure Role where
  name : String
  bucket : Option String
  scope : Option String
  collection : Option String
deriving DecidableEq, Repr

structure Origin where
  originType : String
  name : Option String
deriving DecidableEq, Repr

structure RoleAndOrigins where
  role : Role
  origins : List Origin
deriving DecidableEq, Repr

structure Group where
  name : String
  description : Option String
  roles : List Role
  ldapGroupReference : Option String

structure User where
  username : String
  displayName : String
  groups : List String
  roles : List Role
  password : Option String

structure UserAndMetadata (date : Type) where
  domain : String
  user : User
  effectiveRoles : List RoleAndOrigins
  passwordChanged : Option date
  externalGroups : List String

/-!
# Users in JSON
-/

structure RoleJson where
  role : String
  bucket : Option String
  scope : Option String
  collection : Option String
deriving DecidableEq

structure OriginJson where
  originType : String
  name : Option String
deriving DecidableEq

structure RoleAndOriginsJson where
  roleJson : RoleJson
  origins : List OriginJson
deriving DecidableEq

structure UserAndMetadataJson where
  id : String
  name : String
  roles : List RoleAndOriginsJson
  groups : List String
  domain : String
  passwordChangedDate : Option String
  externalGroups : List String
deriving DecidableEq

def readList {alpha : Type} (read : JsonValue -> Option alpha) : JsonValue -> Option (List alpha)
  | .array items => items.mapM read
  | _ => none

/-- The fields of a role, which stand among those of what it is flattened into. -/
def RoleJson.ofMembers (ms : Members) : Option RoleJson := do
  let role <- required readString "role" ms
  let bucket <- optional readString "bucket_name" ms
  let scope <- optional readString "scope_name" ms
  let collection <- optional readString "collection_name" ms
  some { role, bucket, scope, collection }

namespace OriginJson

def shape : RecordShape := { fields := ["type", "name"], needed := 2 }

def deserialize (v : JsonValue) : Option OriginJson := do
  let ms <- members shape v
  let originType <- required readString "type" ms
  let name <- optional readString "name" ms
  some { originType, name }

end OriginJson

/-- A record with a flattened one is read from an object only. -/
def RoleAndOriginsJson.deserialize : JsonValue -> Option RoleAndOriginsJson
  | .object ms => do
      let origins <- required (readList OriginJson.deserialize) "origins" ms
      let roleJson <- RoleJson.ofMembers ms
      some { roleJson, origins }
  | _ => none

namespace UserAndMetadataJson

def shape : RecordShape where
  fields := ["id", "name", "roles", "groups", "domain", "password_changed_date",
    "external_groups"]
  needed := 7

def deserialize (v : JsonValue) : Option UserAndMetadataJson := do
  let ms <- members shape v
  let id <- required readString "id" ms
  let name <- required readString "name" ms
  let roles <- required (readList RoleAndOriginsJson.deserialize) "roles" ms
  let groups <- required (readList readString) "groups" ms
  let domain <- required readString "domain" ms
  let passwordChangedDate <- optional readString "password_changed_date" ms
  let externalGroups <- required (readList readString) "external_groups" ms
  some { id, name, roles, groups, domain, passwordChangedDate, externalGroups }

end UserAndMetadataJson

def Role.ofJson (roleJson : RoleJson) : Role where
  name := roleJson.role
  bucket := roleJson.bucket
  scope := roleJson.scope
  collection := roleJson.collection

def Origin.ofJson (originJson : OriginJson) : Origin where
  originType := originJson.originType
  name := originJson.name

def RoleAndOrigins.ofJson (json : RoleAndOriginsJson) : RoleAndOrigins where
  role := Role.ofJson json.roleJson
  origins := json.origins.map Origin.ofJson

/-- One role is pushed for each origin that is the user. -/
def RoleAndOrigins.pushed (effectiveRole : RoleAndOrigins) : List Role :=
  if effectiveRole.origins.isEmpty then [effectiveRole.role]
  else
    effectiveRole.origins.flatMap fun origin =>
      if origin.originType = "user" then [effectiveRole.role] else []

variable {date : Type}

def parsePasswordChanged (parseFromRfc3339 : String -> Except String date) :
    Option String -> Exec Error (Option date)
  | none => .ok none
  | some pc =>
      match parseFromRfc3339 pc with
      | .ok changed => .ok (some changed)
      | .error e => .err (.message ("failed to parse date: " ++ e))

def UserAndMetadata.tryFrom (parseFromRfc3339 : String -> Except String date)
    (val : UserAndMetadataJson) : Exec Error (UserAndMetadata date) := do
  let passwordChanged <- parsePasswordChanged parseFromRfc3339 val.passwordChangedDate
  let effectiveRoles := val.roles.map RoleAndOrigins.ofJson
  pure
    { domain := val.domain
      user :=
        { username := val.id
          displayName := val.name
          groups := val.groups
          roles := effectiveRoles.flatMap RoleAndOrigins.pushed
          password := none }
      effectiveRoles := effectiveRoles
      passwordChanged := passwordChanged
      externalGroups := val.externalGroups }

/-!
# Requests about users
-/

def urlencode (name : String) : String :=
  String.ofList (percentEncode name.toList)

def buildRole (role : Role) : String :=
  match role.bucket with
  | none => role.name
  | some bucket =>
      let roleStr := role.name ++ "[" ++ bucket
      let roleStr :=
        match role.scope with
        | some scope => roleStr ++ ":" ++ scope
        | none => roleStr
      let roleStr :=
        match role.collection with
        | some collection => roleStr ++ ":" ++ collection
        | none => roleStr
      roleStr ++ "]"

def rolesValue (roles : List Role) : String :=
  ",".intercalate (roles.map buildRole)

def userPath (authDomain username : String) : String :=
  "settings/rbac/users/" ++ urlencode authDomain ++ "/" ++ urlencode username

def upsertGroupPath (groupName : String) : String :=
  "settings/rbac/groups/" ++ urlencode groupName

def getUserRequest (authDomain username : String) : Request where
  method := .get
  path := userPath authDomain username
  contentType := ""
  body := []

def getUser (parseFromRfc3339 : String -> Except String date) (server : Server)
    (authDomain username : String) : Exec Error (UserAndMetadata date) := do
  let resp <- server.execute (getUserRequest authDomain username)
  if resp.status ≠ 200 then .err (server.decodeCommonError resp)
  else do
    let userJson <- parseResponseJson UserAndMetadataJson.deserialize resp
    UserAndMetadata.tryFrom parseFromRfc3339 userJson

def upsertUserRequest (authDomain : String) (user : User) : Request where
  method := .put
  path := userPath authDomain user.username
  contentType := formType
  body :=
    [("name", some user.displayName), ("roles", some (rolesValue user.roles)),
      ("password", user.password),
      ("groups", if user.groups.isEmpty then none else some (",".intercalate user.groups))].foldl
      appendSet []

def upsertGroupRequest (group : Group) : Request where
  method := .put
  path := upsertGroupPath group.name
  contentType := formType
  body :=
    [("roles", some (rolesValue group.roles)), ("description", group.description),
      ("ldap_group_ref", group.ldapGroupReference)].foldl appendSet []

/-- A response with a status that is no success is an error. -/
def expectSuccess (server : Server) (resp : Response) : Exec Error Unit :=
  if resp.status < 200 ∨ 300 ≤ resp.status then .err (server.decodeCommonError resp) else .ok ()

def upsertUser (server : Server) (authDomain : String) (user : User) : Exec Error Unit := do
  let resp <- server.execute (upsertUserRequest authDomain user)
  expectSuccess server resp

def upsertGroup (server : Server) (group : Group) : Exec Error Unit := do
  let resp <- server.execute (upsertGroupRequest group)
  expectSuccess server resp

end Mgmtx
end CouchbaseSdk
