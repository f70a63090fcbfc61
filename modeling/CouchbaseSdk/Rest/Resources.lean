import CouchbaseSdk.Rest.Requests

/-!
# What the requests address

The segments of each path as they are meant, and when the path has them.
-/

namespace CouchbaseSdk
namespace Rest

open Foundation.ResourcePath
open Foundation.ResourcePath.Piece (PlainName fixed raw encoded)
open Mgmtx (bucketPath upsertGroupPath urlencode userPath)

/-!
# The pieces of the paths
-/

def inBucket (bucketName : String) (rest : List Piece) : List Piece :=
  [fixed "pools", fixed "default", fixed "buckets", raw bucketName] ++ rest

def inRbac (rest : List Piece) : List Piece :=
  [fixed "settings", fixed "rbac"] ++ rest

/-- The fixed segments of the path and its names, with how they are written. -/
def MgmtRequest.pieces : MgmtRequest -> List Piece
  | getAllBuckets | createBucket _ => [fixed "pools", fixed "default", fixed "buckets"]
  | getBucket b | updateBucket b | deleteBucket b => inBucket b []
  | flushBucket b => inBucket b [fixed "controller", fixed "doFlush"]
  | getCollectionManifest b | createScope b _ => inBucket b [fixed "scopes"]
  | deleteScope b s => inBucket b [fixed "scopes", raw s]
  | createCollection b s _ => inBucket b [fixed "scopes", raw s, fixed "collections"]
  | updateCollection b s c | deleteCollection b s c =>
      inBucket b [fixed "scopes", raw s, fixed "collections", raw c]
  | getUser d u | upsertUser d u | deleteUser d u =>
      inRbac [fixed "users", encoded d, encoded u]
  | getAllUsers d => inRbac [fixed "users", encoded d]
  | getRoles _ => inRbac [fixed "roles"]
  | getGroup g => inRbac [fixed "groups", raw g]
  | upsertGroup g | deleteGroup g => inRbac [fixed "groups", encoded g]
  | getAllGroups => inRbac [fixed "groups"]
  | changePassword => [fixed "controller", fixed "changePassword"]

/-- What stands behind the segments. -/
def MgmtRequest.queryText : MgmtRequest -> List Char
  | getRoles (some p) => "?permission=".toList ++ (urlencode p).toList
  | _ => []

def Control.pieces : Control -> List Piece
  | .pauseIngest => [fixed "ingestControl", fixed "pause"]
  | .resumeIngest => [fixed "ingestControl", fixed "resume"]
  | .allowQuerying => [fixed "queryControl", fixed "allow"]
  | .disallowQuerying => [fixed "queryControl", fixed "disallow"]
  | .freezePlan => [fixed "planFreezeControl", fixed "freeze"]
  | .unfreezePlan => [fixed "planFreezeControl", fixed "unfreeze"]

def indexPieces (index : Piece) (place : IndexPlace) (rest : List Piece) : List Piece :=
  match place.bucketName, place.scopeName with
  | some bucket, some scope =>
      [fixed "api", fixed "bucket", raw bucket, fixed "scope", raw scope, fixed "index", index] ++
        rest
  | _, _ => [fixed "api", fixed "index", index] ++ rest

def SearchRequest.pieces : SearchRequest -> List Piece
  | query n place => indexPieces (raw n) place [fixed "query"]
  | upsertIndex n place | deleteIndex n place | getIndex n place | analyzeDocument n place =>
      indexPieces (raw n) place []
  | getAllIndexes place => indexPieces (fixed "") place []
  | getIndexedDocumentsCount n place => fixed "" :: indexPieces (raw n) place [fixed "count"]
  | controlIndex control n place => fixed "" :: indexPieces (raw n) place control.pieces
  | ping => [fixed "", fixed "api", fixed "ping"]
  | refreshConfig => [fixed "", fixed "api", fixed "cfgRefresh"]

def Request.pieces : Request -> List Piece
  | mgmt request => request.pieces
  | search request => request.pieces

def Request.queryText : Request -> List Char
  | mgmt request => request.queryText
  | search _ => []

/-- The names that the resource is below, from the outside in. -/
def MgmtRequest.names : MgmtRequest -> List String
  | getAllBuckets | createBucket _ | getRoles _ | getAllGroups | changePassword => []
  | getBucket b | updateBucket b | deleteBucket b | flushBucket b => [b]
  | getCollectionManifest b | createScope b _ => [b]
  | deleteScope b s | createCollection b s _ => [b, s]
  | updateCollection b s c | deleteCollection b s c => [b, s, c]
  | getUser d u | upsertUser d u | deleteUser d u => [d, u]
  | getAllUsers d => [d]
  | getGroup g | upsertGroup g | deleteGroup g => [g]

def IndexPlace.names (place : IndexPlace) : List String :=
  place.bucketName.toList ++ place.scopeName.toList

def SearchRequest.names : SearchRequest -> List String
  | query n place | upsertIndex n place | deleteIndex n place | getIndex n place
  | analyzeDocument n place | getIndexedDocumentsCount n place | controlIndex _ n place =>
      place.names ++ [n]
  | getAllIndexes place => place.names
  | ping | refreshConfig => []

def Request.names : Request -> List String
  | mgmt request => request.names
  | search request => request.names

/-- The segments that the path is to have. -/
def Request.resource (r : Request) : List String :=
  r.pieces.map Piece.name

/-- The path has a segment for each name, and every segment is decoded as the one it is to be. -/
def Request.Addresses (r : Request) (path : String) : Prop :=
  r.pieces.filterMap Piece.givenName = r.names ∧
    address path = r.resource.map fun segment => Foundation.utf8Bytes segment.toList

/-- There are both a bucket and a scope or neither. -/
def IndexPlace.Whole (place : IndexPlace) : Prop :=
  place.bucketName.isSome = place.scopeName.isSome

def SearchRequest.Whole : SearchRequest -> Prop
  | query _ place | upsertIndex _ place | deleteIndex _ place | getIndex _ place
  | getAllIndexes place | analyzeDocument _ place | getIndexedDocumentsCount _ place
  | controlIndex _ _ place => place.Whole
  | ping | refreshConfig => True

def Request.Whole : Request -> Prop
  | mgmt _ => True
  | search request => request.Whole

/-- The names that are written as they are can be. -/
def Request.Plain (r : Request) : Prop :=
  forall n, raw n ∈ r.pieces -> PlainName n

/-!
# The paths are put together from their pieces
-/

theorem toList_urlencode (name : String) :
    (urlencode name).toList = Foundation.percentEncode name.toList :=
  String.toList_ofList

theorem pathText_inBucket (b : String) :
    pathText (inBucket b []) = ("pools/default/buckets/" ++ b).toList := by
  simp [inBucket, pathText_cons_cons, pathText_singleton, Piece.text]

theorem pathText_inBucket_cons (b : String) (p : Piece) (rest : List Piece) :
    pathText (inBucket b (p :: rest)) =
      ("pools/default/buckets/" ++ b).toList ++ '/' :: pathText (p :: rest) := by
  simp [inBucket, pathText_cons_cons, Piece.text]

theorem pathText_inRbac (p : Piece) (rest : List Piece) :
    pathText (inRbac (p :: rest)) = "settings/rbac/".toList ++ pathText (p :: rest) := by
  simp [inRbac, pathText_cons_cons, Piece.text]

theorem MgmtRequest.toList_path (r : MgmtRequest) :
    r.path.toList = pathText r.pieces ++ r.queryText := by
  cases r with
  | getAllBuckets | createBucket =>
      show "pools/default/buckets".toList =
        pathText [fixed "pools", fixed "default", fixed "buckets"] ++ []
      simp [pathText_cons_cons, pathText_singleton, Piece.text]
  | getBucket b | updateBucket b | deleteBucket b =>
      show ("pools/default/buckets/" ++ b).toList = pathText (inBucket b []) ++ []
      rw [pathText_inBucket, List.append_nil]
  | flushBucket b =>
      show ("pools/default/buckets/" ++ b ++ "/controller/doFlush").toList =
        pathText (inBucket b [fixed "controller", fixed "doFlush"]) ++ []
      simp [pathText_inBucket_cons, pathText_cons_cons, pathText_singleton, Piece.text]
  | getCollectionManifest b | createScope b =>
      show ("pools/default/buckets/" ++ b ++ "/scopes").toList =
        pathText (inBucket b [fixed "scopes"]) ++ []
      simp [pathText_inBucket_cons, pathText_singleton, Piece.text]
  | deleteScope b s =>
      show ("pools/default/buckets/" ++ b ++ "/scopes/" ++ s).toList =
        pathText (inBucket b [fixed "scopes", raw s]) ++ []
      simp [pathText_inBucket_cons, pathText_cons_cons, pathText_singleton, Piece.text]
  | createCollection b s =>
      show ("pools/default/buckets/" ++ b ++ "/scopes/" ++ s ++ "/collections").toList =
        pathText (inBucket b [fixed "scopes", raw s, fixed "collections"]) ++ []
      simp [pathText_inBucket_cons, pathText_cons_cons, pathText_singleton, Piece.text]
  | updateCollection b s c | deleteCollection b s c =>
      show ("pools/default/buckets/" ++ b ++ "/scopes/" ++ s ++ "/collections/" ++ c).toList =
        pathText (inBucket b [fixed "scopes", raw s, fixed "collections", raw c]) ++ []
      simp [pathText_inBucket_cons, pathText_cons_cons, pathText_singleton, Piece.text]
  | getUser d u | upsertUser d u | deleteUser d u =>
      show ("settings/rbac/users/" ++ urlencode d ++ "/" ++ urlencode u).toList =
        pathText (inRbac [fixed "users", encoded d, encoded u]) ++ []
      simp [pathText_inRbac, pathText_cons_cons, pathText_singleton, Piece.text,
        toList_urlencode]
  | getAllUsers d =>
      show ("settings/rbac/users/" ++ urlencode d).toList =
        pathText (inRbac [fixed "users", encoded d]) ++ []
      simp [pathText_inRbac, pathText_cons_cons, pathText_singleton, Piece.text,
        toList_urlencode]
  | getRoles permission =>
      cases permission with
      | none =>
          show "settings/rbac/roles".toList = pathText (inRbac [fixed "roles"]) ++ []
          simp [pathText_inRbac, pathText_singleton, Piece.text]
      | some p =>
          show ("settings/rbac/roles?permission=" ++ urlencode p).toList =
            pathText (inRbac [fixed "roles"]) ++ ("?permission=".toList ++ (urlencode p).toList)
          simp [pathText_inRbac, pathText_singleton, Piece.text]
  | getGroup g =>
      show ("settings/rbac/groups/" ++ g).toList =
        pathText (inRbac [fixed "groups", raw g]) ++ []
      simp [pathText_inRbac, pathText_cons_cons, pathText_singleton, Piece.text]
  | getAllGroups =>
      show "settings/rbac/groups".toList = pathText (inRbac [fixed "groups"]) ++ []
      simp [pathText_inRbac, pathText_singleton, Piece.text]
  | upsertGroup g | deleteGroup g =>
      show ("settings/rbac/groups/" ++ urlencode g).toList =
        pathText (inRbac [fixed "groups", encoded g]) ++ []
      simp [pathText_inRbac, pathText_cons_cons, pathText_singleton, Piece.text,
        toList_urlencode]
  | changePassword =>
      show "controller/changePassword".toList =
        pathText [fixed "controller", fixed "changePassword"] ++ []
      simp [pathText_cons_cons, pathText_singleton, Piece.text]

theorem pathText_indexPieces {index : Piece} {bucket scope : String} {place : IndexPlace}
    (hbucket : place.bucketName = some bucket) (hscope : place.scopeName = some scope) :
    pathText (indexPieces index place []) =
      ("api/bucket/" ++ bucket ++ "/scope/" ++ scope ++ "/index/").toList ++ index.text := by
  rw [indexPieces, hbucket, hscope]
  simp [pathText_cons_cons, pathText_singleton, Piece.text]

theorem pathText_indexPieces_none {index : Piece} {place : IndexPlace}
    (hbucket : place.bucketName = none) :
    pathText (indexPieces index place []) = "api/index/".toList ++ index.text := by
  rw [indexPieces, hbucket]
  simp [pathText_cons_cons, pathText_singleton, Piece.text]

theorem pathText_indexPieces_cons (index : Piece) (place : IndexPlace) (p : Piece)
    (rest : List Piece) :
    pathText (indexPieces index place (p :: rest)) =
      pathText (indexPieces index place []) ++ '/' :: pathText (p :: rest) := by
  unfold indexPieces
  cases place.bucketName with
  | none => simp [pathText_cons_cons, pathText_singleton]
  | some bucket =>
      cases place.scopeName with
      | none => simp [pathText_cons_cons, pathText_singleton]
      | some scope => simp [pathText_cons_cons, pathText_singleton]

theorem toList_getUri {indexName path : String} {place : IndexPlace} {index : Piece}
    (hindex : index.text = indexName.toList) (h : getUri indexName place = .ok path) :
    path.toList = pathText (indexPieces index place []) := by
  unfold getUri at h
  cases hbucket : place.bucketName with
  | none =>
      rw [hbucket] at h
      cases h
      rw [pathText_indexPieces_none hbucket, hindex, String.toList_append]
  | some bucket =>
      rw [hbucket] at h
      cases hscope : place.scopeName with
      | none =>
          rw [hscope] at h
          cases h
      | some scope =>
          rw [hscope] at h
          cases h
          rw [pathText_indexPieces hbucket hscope, hindex, String.toList_append]

theorem toList_queryUri {indexName path : String} {place : IndexPlace}
    (h : queryUri indexName place = .ok path) :
    path.toList = pathText (indexPieces (raw indexName) place [fixed "query"]) := by
  unfold queryUri at h
  rw [pathText_indexPieces_cons, pathText_singleton]
  cases hbucket : place.bucketName with
  | none =>
      rw [hbucket] at h
      cases h
      rw [pathText_indexPieces_none hbucket]
      simp [Piece.text]
  | some bucket =>
      rw [hbucket] at h
      cases hscope : place.scopeName with
      | none =>
          rw [hscope] at h
          cases h
      | some scope =>
          rw [hscope] at h
          cases h
          rw [pathText_indexPieces hbucket hscope]
          simp [Piece.text]

/-- Such a path starts with a slash of its own. -/
theorem toList_placedUri {indexName what path : String} {place : IndexPlace} {p : Piece}
    {rest : List Piece} (hwhat : what.toList = pathText (p :: rest))
    (h : placedUri indexName what place = .ok path) :
    path.toList = pathText (fixed "" :: indexPieces (raw indexName) place (p :: rest)) := by
  have hslash : forall pieces, pieces ≠ [] ->
      pathText (fixed "" :: pieces) = '/' :: pathText pieces := by
    intro pieces hne
    cases pieces with
    | nil => exact absurd rfl hne
    | cons q pieces => simp [pathText_cons_cons, Piece.text]
  have hne : indexPieces (raw indexName) place (p :: rest) ≠ [] := by
    unfold indexPieces
    split
    · exact List.cons_ne_nil _ _
    · exact List.cons_ne_nil _ _
  unfold placedUri at h
  rw [hslash _ hne, pathText_indexPieces_cons, ← hwhat]
  cases hscope : place.scopeName with
  | none =>
      cases hbucket : place.bucketName with
      | none =>
          rw [hscope, hbucket] at h
          cases h
          rw [pathText_indexPieces_none hbucket]
          simp [Piece.text]
      | some bucket =>
          rw [hscope, hbucket] at h
          cases h
  | some scope =>
      cases hbucket : place.bucketName with
      | none =>
          rw [hscope, hbucket] at h
          cases h
      | some bucket =>
          rw [hscope, hbucket] at h
          cases h
          rw [pathText_indexPieces hbucket hscope]
          simp [Piece.text]

theorem Control.toList_text (control : Control) :
    control.text.toList = pathText control.pieces := by
  cases control with
  | pauseIngest | resumeIngest =>
      simp [text, pieces, pathText_cons_cons, pathText_singleton, Piece.text]
  | allowQuerying | disallowQuerying =>
      simp [text, pieces, pathText_cons_cons, pathText_singleton, Piece.text]
  | freezePlan | unfreezePlan =>
      simp [text, pieces, pathText_cons_cons, pathText_singleton, Piece.text]

theorem toList_controlRequest {indexName path : String} {place : IndexPlace} {control : Control}
    (h : controlRequest indexName place control.text = .ok path) :
    path.toList = pathText (fixed "" :: indexPieces (raw indexName) place control.pieces) := by
  unfold controlRequest at h
  split at h
  · cases h
  · have hpieces : exists p rest, control.pieces = p :: rest := by
      cases control with
      | pauseIngest | resumeIngest => exact ⟨_, _, rfl⟩
      | allowQuerying | disallowQuerying => exact ⟨_, _, rfl⟩
      | freezePlan | unfreezePlan => exact ⟨_, _, rfl⟩
    rcases hpieces with ⟨p, rest, hpieces⟩
    rw [hpieces]
    exact toList_placedUri (hpieces ▸ control.toList_text) h

theorem SearchRequest.toList_path {r : SearchRequest} {path : String} (h : r.path = .ok path) :
    path.toList = pathText r.pieces := by
  cases r with
  | query n place => exact toList_queryUri h
  | upsertIndex n place | deleteIndex n place => exact toList_getUri rfl h
  | getIndex n place | analyzeDocument n place => exact toList_getUri rfl h
  | getAllIndexes place => exact toList_getUri rfl h
  | getIndexedDocumentsCount n place =>
      have hcount : "count".toList = pathText [fixed "count"] := by
        rw [pathText_singleton, Piece.text]
      exact toList_placedUri hcount h
  | controlIndex control n place => exact toList_controlRequest h
  | ping =>
      cases h
      simp [pieces, pathText_cons_cons, pathText_singleton, Piece.text]
  | refreshConfig =>
      cases h
      simp [pieces, pathText_cons_cons, pathText_singleton, Piece.text]

theorem Request.toList_path {r : Request} {path : String} (h : r.path = .ok path) :
    path.toList = pathText r.pieces ++ r.queryText := by
  cases r with
  | mgmt request =>
      cases h
      exact request.toList_path
  | search request =>
      exact (SearchRequest.toList_path h).trans (List.append_nil _).symm

/-!
# What they address
-/

/-- The fixed segments. -/
def words : List String :=
  ["", "pools", "default", "buckets", "scopes", "collections", "controller", "doFlush",
    "settings", "rbac", "users", "roles", "groups", "changePassword", "api", "bucket", "scope",
    "index", "query", "count", "ingestControl", "pause", "resume", "queryControl", "allow",
    "disallow", "planFreezeControl", "freeze", "unfreeze", "ping", "cfgRefresh"]

theorem plainName_of_mem_words {text : String} (h : text ∈ words) : PlainName text := by
  have hall : words.all (fun text =>
      text.toList.all (fun c => !isDelimiter c) &&
        !Foundation.hasEscape (Foundation.utf8Bytes text.toList)) = true := by
    decide +kernel
  have htext := List.all_eq_true.mp hall text h
  rw [Bool.and_eq_true, List.all_eq_true] at htext
  exact ⟨fun c hc => by simpa using htext.1 c hc, by simpa using htext.2⟩

def isKnown : Piece -> Bool
  | fixed text => words.contains text
  | raw _ | encoded _ => true

theorem indexPieces_known {index : Piece} (hindex : isKnown index = true)
    (place : IndexPlace) {rest : List Piece} (hrest : rest.all isKnown = true) :
    (indexPieces index place rest).all isKnown = true := by
  unfold indexPieces
  split
  · simp only [List.all_append, List.all_cons, List.all_nil, hindex, hrest, Bool.and_true]
    rfl
  · simp only [List.all_append, List.all_cons, List.all_nil, hindex, hrest, Bool.and_true]
    rfl

theorem Control.pieces_known (control : Control) : control.pieces.all isKnown = true := by
  cases control with
  | pauseIngest | resumeIngest => rfl
  | allowQuerying | disallowQuerying => rfl
  | freezePlan | unfreezePlan => rfl

theorem MgmtRequest.pieces_known (r : MgmtRequest) : r.pieces.all isKnown = true := by
  cases r with
  | getAllBuckets | getBucket | createBucket | updateBucket | deleteBucket | flushBucket => rfl
  | getCollectionManifest | createScope | deleteScope => rfl
  | createCollection | updateCollection | deleteCollection => rfl
  | getUser | getAllUsers | upsertUser | deleteUser | getRoles => rfl
  | getGroup | getAllGroups | upsertGroup | deleteGroup | changePassword => rfl

theorem SearchRequest.pieces_known (r : SearchRequest) :
    r.pieces.all isKnown = true := by
  cases r with
  | query n place => exact indexPieces_known rfl place rfl
  | upsertIndex n place | deleteIndex n place => exact indexPieces_known rfl place rfl
  | getIndex n place | analyzeDocument n place => exact indexPieces_known rfl place rfl
  | getAllIndexes place => exact indexPieces_known rfl place rfl
  | getIndexedDocumentsCount n place =>
      exact List.all_cons.trans (indexPieces_known rfl place rfl)
  | controlIndex control n place =>
      exact List.all_cons.trans (indexPieces_known rfl place control.pieces_known)
  | ping | refreshConfig => rfl

theorem Request.plainName_fixed {r : Request} {text : String} (h : fixed text ∈ r.pieces) :
    PlainName text := by
  have hknown : r.pieces.all isKnown = true := by
    cases r with
    | mgmt request => exact request.pieces_known
    | search request => exact request.pieces_known
  have htext : words.contains text = true := List.all_eq_true.mp hknown _ h
  exact plainName_of_mem_words (List.contains_iff_mem.mp htext)

theorem Request.plain_iff (r : Request) : r.Plain <-> forall p, p ∈ r.pieces -> p.Safe := by
  constructor
  · intro hplain p hmem
    cases p with
    | fixed text => exact plainName_fixed hmem
    | raw name => exact hplain name hmem
    | encoded name => exact trivial
  · intro hsafe name hmem
    exact hsafe (raw name) hmem

theorem MgmtRequest.endsPath_queryText {r : MgmtRequest} {c : Char}
    (h : r.queryText.head? = some c) : endsPath c = true := by
  unfold queryText at h
  split at h
  · simp only [String.reduceToList, List.cons_append, List.head?_cons, Option.some.injEq] at h
    subst h
    rfl
  · cases h

theorem Request.endsPath_queryText {r : Request} {c : Char} (h : r.queryText.head? = some c) :
    endsPath c = true := by
  cases r with
  | mgmt request => exact MgmtRequest.endsPath_queryText h
  | search request => cases h

theorem MgmtRequest.pieces_ne_nil (r : MgmtRequest) : r.pieces ≠ [] := by
  cases r with
  | getAllBuckets | getBucket | createBucket | updateBucket | deleteBucket | flushBucket =>
      exact List.cons_ne_nil _ _
  | getCollectionManifest | createScope | deleteScope => exact List.cons_ne_nil _ _
  | createCollection | updateCollection | deleteCollection => exact List.cons_ne_nil _ _
  | getUser | getAllUsers | upsertUser | deleteUser | getRoles => exact List.cons_ne_nil _ _
  | getGroup | getAllGroups | upsertGroup | deleteGroup => exact List.cons_ne_nil _ _
  | changePassword => exact List.cons_ne_nil _ _

theorem indexPieces_ne_nil (index : Piece) (place : IndexPlace) (rest : List Piece) :
    indexPieces index place rest ≠ [] := by
  unfold indexPieces
  split
  · exact List.cons_ne_nil _ _
  · exact List.cons_ne_nil _ _

theorem Request.pieces_ne_nil (r : Request) : r.pieces ≠ [] := by
  cases r with
  | mgmt request => exact request.pieces_ne_nil
  | search request =>
      cases request with
      | query | upsertIndex | deleteIndex => exact indexPieces_ne_nil _ _ _
      | getIndex | getAllIndexes | analyzeDocument => exact indexPieces_ne_nil _ _ _
      | getIndexedDocumentsCount | controlIndex => exact List.cons_ne_nil _ _
      | ping | refreshConfig => exact List.cons_ne_nil _ _

theorem Request.address_path_iff {r : Request} {path : String} (h : r.path = .ok path) :
    address path = meanings r.pieces <-> r.Plain := by
  rw [address, toList_path h, address_iff r.pieces_ne_nil fun c hc => endsPath_queryText hc,
    plain_iff]

theorem Request.meanings_pieces (r : Request) :
    meanings r.pieces = r.resource.map fun segment => Foundation.utf8Bytes segment.toList := by
  rw [resource, List.map_map]
  rfl

theorem MgmtRequest.names_pieces (r : MgmtRequest) :
    r.pieces.filterMap Piece.givenName = r.names := by
  cases r with
  | getAllBuckets | getBucket | createBucket | updateBucket | deleteBucket | flushBucket => rfl
  | getCollectionManifest | createScope | deleteScope => rfl
  | createCollection | updateCollection | deleteCollection => rfl
  | getUser | getAllUsers | upsertUser | deleteUser | getRoles => rfl
  | getGroup | getAllGroups | upsertGroup | deleteGroup | changePassword => rfl

theorem names_indexPieces (index : Piece) (place : IndexPlace) {rest : List Piece}
    (hrest : rest.filterMap Piece.givenName = []) :
    (indexPieces index place rest).filterMap Piece.givenName =
        place.names ++ [index].filterMap Piece.givenName <-> place.Whole := by
  have hsplit : (index :: rest).filterMap Piece.givenName =
      [index].filterMap Piece.givenName := by
    rw [← List.singleton_append, List.filterMap_append, hrest, List.append_nil]
  rcases place with ⟨bucketName, scopeName⟩
  unfold IndexPlace.Whole IndexPlace.names
  cases bucketName with
  | none =>
      show (index :: rest).filterMap Piece.givenName =
        scopeName.toList ++ [index].filterMap Piece.givenName <-> false = scopeName.isSome
      rw [hsplit, List.self_eq_append_left]
      cases scopeName with
      | none => simp
      | some scope => simp
  | some bucket =>
      cases scopeName with
      | none =>
          show (index :: rest).filterMap Piece.givenName =
            bucket :: [index].filterMap Piece.givenName <-> true = false
          rw [hsplit]
          simp
      | some scope =>
          show bucket :: scope :: (index :: rest).filterMap Piece.givenName =
            bucket :: scope :: [index].filterMap Piece.givenName <-> true = true
          rw [hsplit]
          simp

theorem SearchRequest.names_pieces_iff (r : SearchRequest) :
    r.pieces.filterMap Piece.givenName = r.names <-> r.Whole := by
  cases r with
  | query n place => exact names_indexPieces (raw n) place rfl
  | upsertIndex n place | deleteIndex n place => exact names_indexPieces (raw n) place rfl
  | getIndex n place | analyzeDocument n place => exact names_indexPieces (raw n) place rfl
  | getAllIndexes place =>
      have hnil : ([] : List Piece).filterMap Piece.givenName = [] := rfl
      have h := names_indexPieces (fixed "") place hnil
      rwa [show [fixed ""].filterMap Piece.givenName = [] from rfl, List.append_nil] at h
  | getIndexedDocumentsCount n place => exact names_indexPieces (raw n) place rfl
  | controlIndex control n place =>
      have hcontrol : control.pieces.filterMap Piece.givenName = [] := by
        cases control with
        | pauseIngest | resumeIngest => rfl
        | allowQuerying | disallowQuerying => rfl
        | freezePlan | unfreezePlan => rfl
      exact names_indexPieces (raw n) place hcontrol
  | ping | refreshConfig => exact iff_of_true rfl trivial

theorem Request.names_pieces_iff (r : Request) :
    r.pieces.filterMap Piece.givenName = r.names <-> r.Whole := by
  cases r with
  | mgmt request => exact iff_of_true request.names_pieces trivial
  | search request => exact request.names_pieces_iff

theorem Request.addresses_iff {r : Request} {path : String} (h : r.path = .ok path) :
    r.Addresses path <-> r.Plain ∧ r.Whole := by
  unfold Addresses
  rw [names_pieces_iff, ← meanings_pieces, address_path_iff h, and_comm]

theorem utf8Bytes_injective {text other : String}
    (h : Foundation.utf8Bytes text.toList = Foundation.utf8Bytes other.toList) : text = other := by
  apply String.ext
  rw [← Foundation.fromUtf8Lossy_utf8Bytes text.toList, h,
    Foundation.fromUtf8Lossy_utf8Bytes]

/-- A path that addresses a resource addresses no other one. -/
theorem Request.address_eq_iff {r r' : Request} {path path' : String} (h : r.Addresses path)
    (h' : r'.Addresses path') : address path = address path' <-> r.resource = r'.resource := by
  rw [h.2, h'.2]
  exact (List.map_injective_iff.mpr fun _ _ heq => utf8Bytes_injective heq).eq_iff

/-- A path has its names as segments exactly if those that are written as they are have nothing
in them that ends a segment or is decoded, and no scope is without its bucket. -/
theorem names_addressed_iff (r : Request) {path : String} (h : r.path = .ok path) :
    (r.Addresses path <-> r.Plain ∧ r.Whole) ∧
      forall (r' : Request) (path' : String), r'.path = .ok path' -> r.Addresses path ->
        r'.Addresses path' -> (address path = address path' <-> r.resource = r'.resource) :=
  ⟨r.addresses_iff h, fun _ _ _ haddresses haddresses' =>
    Request.address_eq_iff haddresses haddresses'⟩

theorem names_addressed_upsertGroup :
    ((Request.mgmt (.upsertGroup "a/b")).Addresses (upsertGroupPath "a/b") <->
        (Request.mgmt (.upsertGroup "a/b")).Plain ∧ (Request.mgmt (.upsertGroup "a/b")).Whole) ∧
      forall (r' : Request) (path' : String), r'.path = .ok path' ->
        (Request.mgmt (.upsertGroup "a/b")).Addresses (upsertGroupPath "a/b") ->
          r'.Addresses path' ->
            (address (upsertGroupPath "a/b") = address path' <->
              (Request.mgmt (.upsertGroup "a/b")).resource = r'.resource) :=
  names_addressed_iff (.mgmt (.upsertGroup "a/b")) rfl

/-- Deleting the bucket with such a name deletes a scope of another one. -/
theorem not_names_addressed :
    ¬ (forall (r : Request) (path : String),
        (forall n, n ∈ r.names -> n ≠ "" ∧ n ≠ "." ∧ n ≠ "..") -> r.path = .ok path ->
          r.Addresses path) ∧
      (MgmtRequest.deleteBucket "b/scopes/s").method = (MgmtRequest.deleteScope "b" "s").method ∧
      (MgmtRequest.deleteBucket "b/scopes/s").path = (MgmtRequest.deleteScope "b" "s").path := by
  refine ⟨?_, rfl, by decide +kernel⟩
  intro h
  have haddresses := h (.mgmt (.deleteBucket "b/scopes/s")) "pools/default/buckets/b/scopes/s"
    (by decide) (by decide +kernel)
  have hsegments := congrArg List.length haddresses.2
  revert hsegments
  decide +kernel

end Rest
end CouchbaseSdk
