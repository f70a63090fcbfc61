import CouchbaseSdk.Mgmtx.Users
import Mathlib.Data.List.Nodup
import Mathlib.Data.List.ReduceOption

/-!
# Roles that are granted

The text of the roles is read with the grammar of the server.  It gives the roles back as long
as each of them has every part that stands before one that it has.
-/

namespace CouchbaseSdk
namespace Management

open Foundation
open Mgmtx (Error Form Group OriginJson RoleAndOriginsJson Role RoleAndOrigins RoleJson Request
  Response Server User UserAndMetadata UserAndMetadataJson appendSet buildRole expectSuccess
  getUser getUserRequest mem_foldl_appendSet parsePasswordChanged parseResponseJson rolesValue
  upsertGroup upsertGroupRequest upsertUser upsertUserRequest)

/-!
# The grammar of the server

A role is a name, or a name with a bucket, a scope and a collection in brackets.
-/

def isReserved (c : Char) : Bool :=
  c == ',' || c == ':' || c == '[' || c == ']'

def isName (text : List Char) : Bool :=
  text.all fun c => !isReserved c

def roleAt (name : String) : List String -> Option Role
  | [bucket] => some ⟨name, some bucket, none, none⟩
  | [bucket, scope] => some ⟨name, some bucket, some scope, none⟩
  | [bucket, scope, collection] => some ⟨name, some bucket, some scope, some collection⟩
  | _ => none

/-- The parts of what stands behind the opening bracket. -/
def readParts (text : List Char) : Option (List String) :=
  let parts := text.dropLast.splitOn ':'
  if text.getLast? = some ']' ∧ parts.all isName = true then some (parts.map String.ofList)
  else none

/-- A role of this name, with what stands behind it. -/
def readBehind (name : String) : List Char -> Option Role
  | [] => some ⟨name, none, none, none⟩
  | _ :: rest => (readParts rest).bind (roleAt name)

def readRole (text : List Char) : Option Role :=
  let name := text.takeWhile fun c => c != '['
  if isName name then readBehind (String.ofList name) (text.dropWhile fun c => c != '[')
  else none

def readRoles (value : String) : Option (List Role) :=
  if value.toList = [] then some [] else (value.toList.splitOn ',').mapM readRole

/-!
# The text of a role
-/

def CleanText (text : String) : Prop := isName text.toList = true

/-- No name of the role has a character of the grammar. -/
structure CleanRole (role : Role) : Prop where
  name : CleanText role.name
  bucket : forall bucket, role.bucket = some bucket -> CleanText bucket
  scope : forall scope, role.scope = some scope -> CleanText scope
  collection : forall collection, role.collection = some collection -> CleanText collection

/-- The parts behind the bucket that the role has. -/
def places (role : Role) : List String :=
  [role.scope, role.collection].reduceOption

/-- What the server takes the text of the role for. -/
def granted (role : Role) : Role where
  name := role.name
  bucket := role.bucket
  scope := if role.bucket.isSome then (places role)[0]? else none
  collection := if role.bucket.isSome then (places role)[1]? else none

/-- The text of a name with these parts. -/
def partsText (name : List Char) : List String -> List Char
  | [] => name
  | parts => name ++ '[' :: [':'].intercalate (parts.map String.toList) ++ [']']

theorem toList_buildRole (role : Role) :
    (buildRole role).toList = partsText role.name.toList
      (match role.bucket with
        | none => []
        | some bucket => bucket :: places role) := by
  rcases role with ⟨name, bucket, scope, collection⟩
  cases bucket with
  | none => rfl
  | some bucket =>
      cases scope with
      | none =>
          cases collection with
          | none => simp [buildRole, partsText, places]
          | some collection => simp [buildRole, partsText, places]
      | some scope =>
          cases collection with
          | none => simp [buildRole, partsText, places]
          | some collection => simp [buildRole, partsText, places]

theorem not_mem_of_isName {text : List Char} {c : Char} (h : isName text = true)
    (hc : isReserved c = true) : c ∉ text := by
  intro hmem
  have hnot := List.all_eq_true.mp h c hmem
  rw [hc] at hnot
  cases hnot

theorem readParts_text {parts : List String} (hne : parts ≠ [])
    (hparts : forall part, part ∈ parts -> CleanText part) :
    readParts ([':'].intercalate (parts.map String.toList) ++ [']']) = some parts := by
  have hsplit : ([':'].intercalate (parts.map String.toList)).splitOn ':' =
      parts.map String.toList := by
    refine List.splitOn_intercalate ':' ?_ (by simpa using hne)
    intro text htext
    rcases List.mem_map.mp htext with ⟨part, hmem, rfl⟩
    exact not_mem_of_isName (hparts part hmem) rfl
  have hall : (parts.map String.toList).all isName = true := by
    rw [List.all_map, List.all_eq_true]
    exact hparts
  unfold readParts
  rw [List.dropLast_concat, hsplit, if_pos ⟨List.getLast?_concat, hall⟩, List.map_map]
  simp [Function.comp_def]

theorem readRole_partsText {name : String} {parts : List String} (hname : CleanText name)
    (hparts : forall part, part ∈ parts -> CleanText part) :
    readRole (partsText name.toList parts) =
      if parts = [] then some ⟨name, none, none, none⟩ else roleAt name parts := by
  have hbefore : forall c, c ∈ name.toList -> (c != '[') = true := by
    intro c hc
    rw [bne_iff_ne]
    intro heq
    exact not_mem_of_isName hname (c := '[') rfl (heq ▸ hc)
  cases parts with
  | nil =>
      have htake : name.toList.takeWhile (fun c => c != '[') = name.toList :=
        List.takeWhile_eq_self_iff.mpr hbefore
      have hdrop : name.toList.dropWhile (fun c => c != '[') = [] :=
        List.dropWhile_eq_nil_iff.mpr hbefore
      have hread : readRole name.toList = readBehind (String.ofList name.toList) [] := by
        rw [readRole, htake, hdrop]
        exact if_pos hname
      rw [if_pos rfl, partsText, hread, String.ofList_toList]
      rfl
  | cons first rest =>
      have hshape : partsText name.toList (first :: rest) =
          name.toList ++ '[' ::
            ([':'].intercalate ((first :: rest).map String.toList) ++ [']']) := by
        rw [partsText, List.append_assoc, List.cons_append]
        simp
      have htake : (partsText name.toList (first :: rest)).takeWhile (fun c => c != '[') =
          name.toList := by
        rw [hshape, List.takeWhile_append_of_pos hbefore]
        simp
      have hdrop : (partsText name.toList (first :: rest)).dropWhile (fun c => c != '[') =
          '[' :: ([':'].intercalate ((first :: rest).map String.toList) ++ [']']) := by
        rw [hshape, List.dropWhile_append_of_pos hbefore]
        simp
      have hread : readRole (partsText name.toList (first :: rest)) =
          readBehind (String.ofList name.toList)
            ('[' :: ([':'].intercalate ((first :: rest).map String.toList) ++ [']'])) := by
        rw [readRole, htake, hdrop]
        exact if_pos hname
      rw [if_neg (List.cons_ne_nil first rest), hread, String.ofList_toList, readBehind,
        readParts_text (List.cons_ne_nil first rest) hparts, Option.bind_some]

theorem clean_places {role : Role} (h : CleanRole role) {part : String}
    (hmem : part ∈ places role) : CleanText part := by
  rcases List.mem_filterMap.mp hmem with ⟨place, hplace, hpart⟩
  rcases List.mem_cons.mp hplace with hscope | hrest
  · exact h.scope part (hscope.symm.trans hpart)
  · rw [List.mem_singleton] at hrest
    exact h.collection part (hrest.symm.trans hpart)

/-- The server reads the text of a role as what it grants for it. -/
theorem readRole_buildRole {role : Role} (h : CleanRole role) :
    readRole (buildRole role).toList = some (granted role) := by
  rw [toList_buildRole]
  cases hbucket : role.bucket with
  | none =>
      dsimp only
      rw [readRole_partsText h.name (by simp), if_pos rfl]
      simp [granted, hbucket]
  | some bucket =>
      dsimp only
      have hclean : forall part, part ∈ bucket :: places role -> CleanText part := by
        intro part hpart
        rcases List.mem_cons.mp hpart with rfl | hplace
        · exact h.bucket part hbucket
        · exact clean_places h hplace
      rw [readRole_partsText h.name hclean, if_neg (List.cons_ne_nil _ _)]
      unfold granted
      rw [hbucket]
      match hplaces : places role with
      | [] => rfl
      | [_] => rfl
      | [_, _] => rfl
      | _ :: _ :: _ :: _ =>
          have hlength : (places role).length ≤ 2 := List.length_filterMap_le ..
          rw [hplaces] at hlength
          simp at hlength

/-!
# The text of all roles
-/

theorem comma_not_mem {role : Role} (h : CleanRole role) : ',' ∉ (buildRole role).toList := by
  have hname : ',' ∉ role.name.toList := not_mem_of_isName h.name rfl
  have hscope : forall scope, role.scope = some scope -> ',' ∉ scope.toList :=
    fun scope hs => not_mem_of_isName (h.scope scope hs) rfl
  have hcollection : forall collection, role.collection = some collection ->
      ',' ∉ collection.toList :=
    fun collection hc => not_mem_of_isName (h.collection collection hc) rfl
  unfold buildRole
  cases hbucket : role.bucket with
  | none => exact hname
  | some bucket =>
      have hin : ',' ∉ bucket.toList := not_mem_of_isName (h.bucket bucket hbucket) rfl
      cases hs : role.scope with
      | none =>
          cases hc : role.collection with
          | none => simp [hname, hin]
          | some collection => simp [hname, hin, hcollection collection hc]
      | some scope =>
          cases hc : role.collection with
          | none => simp [hname, hin, hscope scope hs]
          | some collection =>
              simp [hname, hin, hscope scope hs, hcollection collection hc]

theorem mapM_readRole {roles : List Role} (h : forall role, role ∈ roles -> CleanRole role) :
    (roles.map fun role => (buildRole role).toList).mapM readRole = some (roles.map granted) := by
  induction roles with
  | nil => rfl
  | cons role rest ih =>
      have hrest := ih fun other hmem => h other (List.mem_cons_of_mem role hmem)
      rw [List.map_cons, List.mapM_cons, readRole_buildRole (h role List.mem_cons_self), hrest]
      rfl

/-- The one role there is has neither a name nor a bucket. -/
def Nameless (roles : List Role) : Prop :=
  exists role, roles = [role] ∧ role.name = "" ∧ role.bucket = none

theorem rolesValue_eq_nil_iff (roles : List Role) :
    (rolesValue roles).toList = [] <-> roles = [] ∨ Nameless roles := by
  match roles with
  | [] => exact iff_of_true rfl (Or.inl rfl)
  | [role] =>
      have hvalue : rolesValue [role] = buildRole role := by
        unfold rolesValue
        rw [List.map_singleton, String.intercalate_singleton]
      rw [hvalue, toList_buildRole]
      unfold Nameless
      cases hbucket : role.bucket with
      | none => simp [partsText, hbucket]
      | some bucket => simp [partsText, hbucket]
  | first :: second :: rest =>
      refine iff_of_false ?_ ?_
      · simp [rolesValue]
      · rintro (h | ⟨role, h, _⟩)
        · cases h
        · cases h

theorem readRoles_rolesValue {roles : List Role}
    (h : forall role, role ∈ roles -> CleanRole role) (hnameless : ¬ Nameless roles) :
    readRoles (rolesValue roles) = some (roles.map granted) := by
  unfold readRoles
  by_cases hnil : roles = []
  · rw [if_pos ((rolesValue_eq_nil_iff roles).mpr (Or.inl hnil)), hnil]
    rfl
  · have hvalue : ¬ (rolesValue roles).toList = [] := fun hempty =>
      ((rolesValue_eq_nil_iff roles).mp hempty).elim hnil hnameless
    have hsplit : (rolesValue roles).toList.splitOn ',' =
        roles.map fun role => (buildRole role).toList := by
      have htext : (rolesValue roles).toList =
          [','].intercalate (roles.map fun role => (buildRole role).toList) := by
        unfold rolesValue
        rw [String.toList_intercalate, List.map_map]
        rfl
      rw [htext]
      refine List.splitOn_intercalate ',' ?_ (by simpa using hnil)
      intro text htext
      rcases List.mem_map.mp htext with ⟨role, hmem, rfl⟩
      exact comma_not_mem (h role hmem)
    rw [if_neg hvalue, hsplit]
    exact mapM_readRole h

/-!
# Requests that grant their roles
-/

/-- Each part of a role stands behind another one that it has. -/
structure Nested (role : Role) : Prop where
  scope : role.bucket = none -> role.scope = none
  collection : role.scope = none -> role.collection = none

theorem granted_eq_self_iff (role : Role) : granted role = role <-> Nested role := by
  rcases role with ⟨name, bucket, scope, collection⟩
  have hnested : Nested ⟨name, bucket, scope, collection⟩ <->
      (bucket = none -> scope = none) ∧ (scope = none -> collection = none) :=
    ⟨fun h => ⟨h.scope, h.collection⟩, fun h => ⟨h.1, h.2⟩⟩
  rw [hnested]
  cases bucket with
  | none =>
      cases scope with
      | none => simp [granted, eq_comm]
      | some scope => simp [granted]
  | some bucket =>
      cases scope with
      | none =>
          cases collection with
          | none => simp [granted, places]
          | some collection => simp [granted, places]
      | some scope =>
          cases collection with
          | none => simp [granted, places]
          | some collection => simp [granted, places]

/-- The one value of the field in the form is read as these roles. -/
def ReadsBack (body : Form) (roles : List Role) : Prop :=
  exists value, (forall v, ("roles", v) ∈ body <-> v = value) ∧ readRoles value = some roles

/-- The roles are read back, or the call fails whatever the server answers. -/
def Grants (call : Server -> Exec Error Unit) (request : Request) (roles : List Role) : Prop :=
  (exists e, forall server, call server = .err e) ∨ ReadsBack request.body roles

theorem roles_mem_upsertUser (authDomain : String) (user : User) (v : String) :
    ("roles", v) ∈ (upsertUserRequest authDomain user).body <-> v = rolesValue user.roles := by
  unfold upsertUserRequest
  rw [mem_foldl_appendSet]
  simp

theorem roles_mem_upsertGroup (group : Group) (v : String) :
    ("roles", v) ∈ (upsertGroupRequest group).body <-> v = rolesValue group.roles := by
  unfold upsertGroupRequest
  rw [mem_foldl_appendSet]
  simp

theorem readsBack_iff {body : Form} {roles : List Role}
    (hbody : forall v, ("roles", v) ∈ body <-> v = rolesValue roles)
    (h : forall role, role ∈ roles -> CleanRole role) :
    ReadsBack body roles <-> (forall role, role ∈ roles -> Nested role) ∧ ¬ Nameless roles := by
  have hvalue : ReadsBack body roles <-> readRoles (rolesValue roles) = some roles := by
    constructor
    · intro ⟨value, honly, hread⟩
      rw [(honly _).mp ((hbody _).mpr rfl)]
      exact hread
    · exact fun hread => ⟨_, hbody, hread⟩
  rw [hvalue]
  by_cases hnameless : Nameless roles
  · refine iff_of_false ?_ fun hboth => hboth.2 hnameless
    unfold readRoles
    rw [if_pos ((rolesValue_eq_nil_iff roles).mpr (Or.inr hnameless))]
    rcases hnameless with ⟨role, hroles, _⟩
    rw [hroles]
    simp
  · rw [readRoles_rolesValue h hnameless, Option.some.injEq]
    have hself : roles.map granted = roles <-> forall role, role ∈ roles -> granted role = role := by
      have hmap := @List.map_inj_left _ _ roles granted id
      rw [List.map_id] at hmap
      exact hmap
    rw [hself, and_iff_left hnameless]
    exact forall₂_congr fun role _ => granted_eq_self_iff role

/-- A server that accepts everything. -/
def acceptingServer : Server where
  execute := fun _ => .ok { status := 200, body := [] }
  decodeCommonError := fun _ => .message ""

theorem grants_iff {call : Server -> Exec Error Unit} {request : Request} {roles : List Role}
    (hcall : call acceptingServer = .ok ())
    (hbody : forall v, ("roles", v) ∈ request.body <-> v = rolesValue roles)
    (h : forall role, role ∈ roles -> CleanRole role) :
    Grants call request roles <->
      (forall role, role ∈ roles -> Nested role) ∧ ¬ Nameless roles := by
  have hsent : ¬ exists e, forall server, call server = .err e := by
    intro ⟨e, hfails⟩
    have hfail := hfails acceptingServer
    rw [hcall] at hfail
    cases hfail
  unfold Grants
  rw [or_iff_right hsent]
  exact readsBack_iff hbody h

/-!
# Different roles
-/

/-- What is sent for the two roles is the same: the parts behind the bucket count without
regard to which they are, and only where there is a bucket. -/
structure SameParts (role other : Role) : Prop where
  name : role.name = other.name
  bucket : role.bucket = other.bucket
  places : role.bucket = none ∨ places role = places other

theorem buildRole_congr {role other : Role} (h : SameParts role other) :
    buildRole role = buildRole other := by
  rw [← String.toList_inj, toList_buildRole, toList_buildRole, h.name, ← h.bucket]
  cases hbucket : role.bucket with
  | none => rfl
  | some bucket =>
      have hplaces := h.places.resolve_left (by rw [hbucket]; exact Option.some_ne_none bucket)
      dsimp only
      rw [hplaces]

theorem sameParts_of_granted {role other : Role} (h : granted role = granted other) :
    SameParts role other := by
  have hname := congrArg Role.name h
  have hbucket := congrArg Role.bucket h
  change role.bucket = other.bucket at hbucket
  refine ⟨hname, hbucket, ?_⟩
  cases hin : role.bucket with
  | none => exact Or.inl rfl
  | some bucket =>
      right
      have hother : other.bucket = some bucket := hbucket.symm.trans hin
      have hfirst : (places role)[0]? = (places other)[0]? := by
        have hscope := congrArg Role.scope h
        unfold granted at hscope
        rwa [hin, hother] at hscope
      have hsecond : (places role)[1]? = (places other)[1]? := by
        have hcollection := congrArg Role.collection h
        unfold granted at hcollection
        rwa [hin, hother] at hcollection
      have hlength : forall r : Role, (places r).length ≤ 2 :=
        fun r => List.length_filterMap_le ..
      refine List.ext_getElem? fun i => ?_
      match i with
      | 0 => exact hfirst
      | 1 => exact hsecond
      | i + 2 =>
          have hrole := hlength role
          have hother := hlength other
          rw [List.getElem?_eq_none (by omega), List.getElem?_eq_none (by omega)]

theorem buildRole_eq_iff {role other : Role} (h : CleanRole role) (hother : CleanRole other) :
    buildRole role = buildRole other <-> SameParts role other := by
  constructor
  · intro heq
    have hread := readRole_buildRole h
    rw [heq, readRole_buildRole hother] at hread
    exact sameParts_of_granted (Option.some.inj hread).symm
  · exact buildRole_congr

/-!
# Roles that are listed
-/

def RoleAndOriginsJson.userOrigins (json : RoleAndOriginsJson) : Nat :=
  json.origins.countP fun origin => origin.originType = "user"

/-- The user has the role by itself. -/
def Direct (json : RoleAndOriginsJson) : Prop :=
  json.origins = [] ∨ 0 < RoleAndOriginsJson.userOrigins json

theorem pushed_eq (json : RoleAndOriginsJson) :
    (RoleAndOrigins.ofJson json).pushed =
      List.replicate (if json.origins = [] then 1 else RoleAndOriginsJson.userOrigins json)
        (Role.ofJson json.roleJson) := by
  unfold RoleAndOrigins.pushed RoleAndOrigins.ofJson
  by_cases hnil : json.origins = []
  · rw [if_pos hnil, hnil]
    rfl
  · have hempty : ¬ (json.origins.map Mgmtx.Origin.ofJson).isEmpty = true := by
      rw [List.isEmpty_iff, List.map_eq_nil_iff]
      exact hnil
    rw [if_neg hnil, if_neg hempty]
    dsimp only
    unfold RoleAndOriginsJson.userOrigins
    clear hnil hempty
    induction json.origins with
    | nil => rfl
    | cons origin rest ih =>
        rw [List.map_cons, List.flatMap_cons, ih, List.countP_cons]
        by_cases huser : origin.originType = "user"
        · simp [Mgmtx.Origin.ofJson, huser, List.replicate_succ]
        · simp [Mgmtx.Origin.ofJson, huser]

theorem mem_pushed {json : RoleAndOriginsJson} {role : Role} :
    role ∈ (RoleAndOrigins.ofJson json).pushed <->
      Direct json ∧ Role.ofJson json.roleJson = role := by
  rw [pushed_eq, List.mem_replicate]
  refine and_congr ?_ eq_comm
  unfold Direct
  by_cases hnil : json.origins = []
  · simp [hnil]
  · simp [hnil, Nat.pos_iff_ne_zero]

variable {date : Type} {parseFromRfc3339 : String -> Except String date}
  {val : UserAndMetadataJson}

/-- The roles of a user that was read. -/
def listedRoles (val : UserAndMetadataJson) : List Role :=
  (val.roles.map RoleAndOrigins.ofJson).flatMap RoleAndOrigins.pushed

theorem mem_listedRoles (role : Role) : role ∈ listedRoles val <->
    exists json, json ∈ val.roles ∧ Direct json ∧ Role.ofJson json.roleJson = role := by
  unfold listedRoles
  rw [List.flatMap_map, List.mem_flatMap]
  exact exists_congr fun json => and_congr_right fun _ => mem_pushed

/-- The server gives each role that the user has by itself once, with the user as an origin
at most once. -/
structure EachOnce (val : UserAndMetadataJson) : Prop where
  origins : forall json, json ∈ val.roles -> RoleAndOriginsJson.userOrigins json ≤ 1
  roles : val.roles.Pairwise fun json other =>
    Direct json -> Direct other -> json.roleJson ≠ other.roleJson

theorem ofJson_inj {role other : RoleJson} (h : Role.ofJson role = Role.ofJson other) :
    role = other := by
  cases role
  cases other
  cases h
  rfl

theorem disjoint_pushed_iff (json other : RoleAndOriginsJson) :
    List.Disjoint (RoleAndOrigins.ofJson json).pushed (RoleAndOrigins.ofJson other).pushed <->
      (Direct json -> Direct other -> json.roleJson ≠ other.roleJson) := by
  unfold List.Disjoint
  simp only [mem_pushed]
  constructor
  · intro h hdirect hother heq
    exact h ⟨hdirect, rfl⟩ ⟨hother, congrArg Role.ofJson heq.symm⟩
  · intro h role ⟨hdirect, hrole⟩ ⟨hother, hsame⟩
    exact h hdirect hother (ofJson_inj (hrole.trans hsame.symm))

theorem nodup_listedRoles : (listedRoles val).Nodup <-> EachOnce val := by
  have heach : (listedRoles val).Nodup <->
      (forall json, json ∈ val.roles -> RoleAndOriginsJson.userOrigins json ≤ 1) ∧
        val.roles.Pairwise fun json other =>
          Direct json -> Direct other -> json.roleJson ≠ other.roleJson := by
    unfold listedRoles
    rw [List.flatMap_map, List.nodup_flatMap]
    refine and_congr (forall₂_congr fun json _ => ?_)
      (List.Pairwise.iff fun json other => disjoint_pushed_iff json other)
    rw [pushed_eq, List.nodup_replicate]
    by_cases hnil : json.origins = []
    · simp [hnil, RoleAndOriginsJson.userOrigins]
    · rw [if_neg hnil]
  exact ⟨fun h => ⟨(heach.mp h).1, (heach.mp h).2⟩, fun h => heach.mpr ⟨h.origins, h.roles⟩⟩

/-- The date of the last change of the password, if there is one, is a date. -/
def DateReads (parseFromRfc3339 : String -> Except String date) (val : UserAndMetadataJson) :
    Prop :=
  forall pc, val.passwordChangedDate = some pc -> exists d, parseFromRfc3339 pc = .ok d

/-- The server answers the request for a user with this one. -/
def Returned (server : Server) (authDomain username : String) (val : UserAndMetadataJson) : Prop :=
  exists resp, server.execute (getUserRequest authDomain username) = .ok resp ∧
    resp.status = 200 ∧
    (JsonValue.fromSlice resp.body).bind UserAndMetadataJson.deserialize = some val

/-- The user that was read has the direct roles, each once, and these are submitted again. -/
def ListsDirect (parseFromRfc3339 : String -> Except String date) (server : Server)
    (authDomain username : String) (val : UserAndMetadataJson) : Prop :=
  exists found, getUser parseFromRfc3339 server authDomain username = .ok found ∧
    found.user.roles.Nodup ∧
    (forall role, role ∈ found.user.roles <->
      exists json, json ∈ val.roles ∧ Direct json ∧ Role.ofJson json.roleJson = role) ∧
    forall v, ("roles", v) ∈ (upsertUserRequest authDomain found.user).body <->
      v = rolesValue found.user.roles

theorem getUser_eq {server : Server} {authDomain username : String}
    (h : Returned server authDomain username val) :
    getUser parseFromRfc3339 server authDomain username =
      UserAndMetadata.tryFrom parseFromRfc3339 val := by
  rcases h with ⟨resp, hexecute, hstatus, hbody⟩
  unfold getUser
  rw [hexecute, Exec.ok_bind, if_neg (not_not.mpr hstatus)]
  unfold parseResponseJson
  rw [hbody]
  rfl

theorem parsePasswordChanged_ok_iff :
    (exists changed,
      parsePasswordChanged parseFromRfc3339 val.passwordChangedDate = .ok changed) <->
      DateReads parseFromRfc3339 val := by
  unfold DateReads
  cases hdate : val.passwordChangedDate with
  | none => exact iff_of_true ⟨none, rfl⟩ fun pc h => by cases h
  | some pc =>
      unfold parsePasswordChanged
      cases hparse : parseFromRfc3339 pc with
      | ok d =>
          simp only [hparse]
          refine iff_of_true ⟨some d, rfl⟩ fun pc' h => ?_
          cases h
          exact ⟨d, hparse⟩
      | error e =>
          simp only [hparse]
          refine iff_of_false (fun ⟨_, h⟩ => by cases h) fun h => ?_
          rcases h pc rfl with ⟨d, hd⟩
          rw [hparse] at hd
          cases hd

/-- The user is the one that was returned, with the date that was parsed. -/
theorem tryFrom_ok {found : UserAndMetadata date} :
    UserAndMetadata.tryFrom parseFromRfc3339 val = .ok found <->
      exists changed,
        parsePasswordChanged parseFromRfc3339 val.passwordChangedDate = .ok changed ∧
        { domain := val.domain
          user :=
            { username := val.id
              displayName := val.name
              groups := val.groups
              roles := listedRoles val
              password := none }
          effectiveRoles := val.roles.map RoleAndOrigins.ofJson
          passwordChanged := changed
          externalGroups := val.externalGroups } = found := by
  unfold UserAndMetadata.tryFrom
  rw [Exec.bind_pure_eq_map, Exec.map_eq_ok]
  rfl

theorem tryFrom_roles {found : UserAndMetadata date}
    (h : UserAndMetadata.tryFrom parseFromRfc3339 val = .ok found) :
    found.user.roles = listedRoles val := by
  rcases tryFrom_ok.mp h with ⟨changed, _, hfound⟩
  rw [← hfound]

theorem tryFrom_ok_iff :
    (exists found, UserAndMetadata.tryFrom parseFromRfc3339 val = .ok found) <->
      DateReads parseFromRfc3339 val := by
  rw [← parsePasswordChanged_ok_iff]
  constructor
  · intro ⟨_, hfound⟩
    rcases tryFrom_ok.mp hfound with ⟨changed, hchanged, _⟩
    exact ⟨changed, hchanged⟩
  · exact fun ⟨changed, hchanged⟩ => ⟨_, tryFrom_ok.mpr ⟨changed, hchanged, rfl⟩⟩

theorem listsDirect_iff {server : Server} {authDomain username : String}
    (h : Returned server authDomain username val) :
    ListsDirect parseFromRfc3339 server authDomain username val <->
      EachOnce val ∧ DateReads parseFromRfc3339 val := by
  unfold ListsDirect
  rw [getUser_eq h, ← tryFrom_ok_iff, ← nodup_listedRoles]
  constructor
  · intro ⟨found, hfound, hnodup, _⟩
    rw [tryFrom_roles hfound] at hnodup
    exact ⟨hnodup, found, hfound⟩
  · intro ⟨hnodup, found, hfound⟩
    have hroles := tryFrom_roles hfound
    refine ⟨found, hfound, hroles ▸ hnodup, ?_, roles_mem_upsertUser authDomain found.user⟩
    rw [hroles]
    exact mem_listedRoles

/-!
# The roles of users and groups
-/

/-- When the roles that are asked for are granted, when two roles are sent as one, and when the
roles of a user are those it has by itself. -/
theorem roles_granted_iff (authDomain username : String) (user : User) (group : Group)
    (role other : Role) (parseFromRfc3339 : String -> Except String date) (server : Server)
    (val : UserAndMetadataJson)
    (huser : forall role, role ∈ user.roles -> CleanRole role)
    (hgroup : forall role, role ∈ group.roles -> CleanRole role)
    (hrole : CleanRole role) (hother : CleanRole other)
    (hreturned : Returned server authDomain username val) :
    (Grants (fun server => upsertUser server authDomain user) (upsertUserRequest authDomain user)
        user.roles <->
      (forall role, role ∈ user.roles -> Nested role) ∧ ¬ Nameless user.roles) ∧
    (Grants (fun server => upsertGroup server group) (upsertGroupRequest group) group.roles <->
      (forall role, role ∈ group.roles -> Nested role) ∧ ¬ Nameless group.roles) ∧
    ((role ≠ other -> buildRole role ≠ buildRole other) <->
      (SameParts role other -> role = other)) ∧
    (ListsDirect parseFromRfc3339 server authDomain username val <->
      EachOnce val ∧ DateReads parseFromRfc3339 val) := by
  refine ⟨grants_iff rfl (roles_mem_upsertUser authDomain user) huser,
    grants_iff rfl (roles_mem_upsertGroup group) hgroup, ?_, listsDirect_iff hreturned⟩
  rw [← buildRole_eq_iff hrole hother]
  exact not_imp_not

def bucketAdmin : Role := ⟨"bucket_admin", some "travel", none, none⟩

def dataReader : Role := ⟨"data_reader", some "travel", some "inventory", some "airline"⟩

/-- A user with a direct role, and one that comes from a group. -/
def reportedUser : JsonValue :=
  .object
    [("id", .string "ann"), ("name", .string "Ann"), ("domain", .string "local"),
      ("groups", .array [.string "readers"]), ("external_groups", .array []),
      ("roles", .array
        [.object
          [("role", .string "bucket_admin"), ("bucket_name", .string "travel"),
            ("origins", .array [.object [("type", .string "user")]])],
        .object
          [("role", .string "admin"),
            ("origins", .array
              [.object [("type", .string "group"), ("name", .string "readers")]])]])]

def reportedJson : UserAndMetadataJson where
  id := "ann"
  name := "Ann"
  roles :=
    [⟨⟨"bucket_admin", some "travel", none, none⟩, [⟨"user", none⟩]⟩,
      ⟨⟨"admin", none, none, none⟩, [⟨"group", some "readers"⟩]⟩]
  groups := ["readers"]
  domain := "local"
  passwordChangedDate := none
  externalGroups := []

def reportingServer : Server where
  execute := fun _ => .ok { status := 200, body := reportedUser.toVec }
  decodeCommonError := fun _ => .message ""

theorem returned_reportedUser : Returned reportingServer "local" "ann" reportedJson := by
  refine ⟨_, rfl, rfl, ?_⟩
  rw [JsonValue.fromSlice_toVec, Option.bind_some]
  decide +kernel

theorem cleanRole_of_names {role : Role} (hname : isName role.name.toList = true)
    (hparts : [role.bucket, role.scope, role.collection].all (fun part =>
      part.all fun text => isName text.toList) = true) : CleanRole role := by
  have hall := List.all_eq_true.mp hparts
  refine ⟨hname, fun text h => ?_, fun text h => ?_, fun text h => ?_⟩
  · have hpart := hall role.bucket (by simp)
    rw [h] at hpart
    exact hpart
  · have hpart := hall role.scope (by simp)
    rw [h] at hpart
    exact hpart
  · have hpart := hall role.collection (by simp)
    rw [h] at hpart
    exact hpart

theorem cleanRole_bucketAdmin : CleanRole bucketAdmin :=
  cleanRole_of_names (by decide +kernel) (by decide +kernel)

theorem cleanRole_dataReader : CleanRole dataReader :=
  cleanRole_of_names (by decide +kernel) (by decide +kernel)

theorem lists_reportedUser :
    ListsDirect (fun _ => (.error "" : Except String Unit)) reportingServer "local" "ann"
      reportedJson := by
  have hall := roles_granted_iff "local" "ann"
    { username := "ann", displayName := "Ann", groups := [], roles := [bucketAdmin]
      password := none }
    { name := "readers", description := none, roles := [dataReader], ldapGroupReference := none }
    bucketAdmin dataReader (fun _ => (.error "" : Except String Unit)) reportingServer
    reportedJson
    (fun role h => List.mem_singleton.mp h ▸ cleanRole_bucketAdmin)
    (fun role h => List.mem_singleton.mp h ▸ cleanRole_dataReader)
    cleanRole_bucketAdmin cleanRole_dataReader returned_reportedUser
  refine hall.2.2.2.mpr ⟨⟨by decide, ?_⟩, fun pc h => by cases h⟩
  refine List.pairwise_cons.mpr ⟨?_, List.pairwise_singleton _ _⟩
  intro json hjson _ _
  rw [List.mem_singleton.mp hjson]
  decide

/-- Roles are granted as they are asked for, no two are sent as one, and the direct ones of a
user are listed. -/
structure RolesKept : Prop where
  user : forall authDomain (user : User), (forall role, role ∈ user.roles -> CleanRole role) ->
    Grants (fun server => upsertUser server authDomain user)
      (upsertUserRequest authDomain user) user.roles
  group : forall group : Group, (forall role, role ∈ group.roles -> CleanRole role) ->
    Grants (fun server => upsertGroup server group) (upsertGroupRequest group) group.roles
  different : forall role other, CleanRole role -> CleanRole other -> role ≠ other ->
    buildRole role ≠ buildRole other
  listed : forall (parseFromRfc3339 : String -> Except String Unit) server authDomain username
    val, Returned server authDomain username val -> DateReads parseFromRfc3339 val ->
      ListsDirect parseFromRfc3339 server authDomain username val

/-- A role for one scope that has no bucket is sent as the role for everything. -/
theorem not_rolesKept : ¬ RolesKept := by
  intro h
  have hscoped : CleanRole ⟨"data_reader", none, some "inventory", none⟩ :=
    cleanRole_of_names (by decide +kernel) (by decide +kernel)
  have hwhole : CleanRole ⟨"data_reader", none, none, none⟩ :=
    cleanRole_of_names (by decide +kernel) (by decide +kernel)
  exact h.different _ _ hscoped hwhole (by decide) rfl

end Management
end CouchbaseSdk
