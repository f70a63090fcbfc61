import CouchbaseSdk.Foundation.FiniteMap
import CouchbaseSdk.Retry.Model

/-!
# Prepared queries

A statement is executed under the name it was prepared as, where the cache has one, and is
prepared and executed in one request otherwise.  A call is a conversation with the query
service: it has a request out, and goes on when the reply is there.
-/

namespace CouchbaseSdk
namespace Queryx

open Foundation

/-!
# Options and requests
-/

/-- A value of `serde_json`.  A number is kept by its text. -/
inductive Value where
  | null
  | bool (b : Bool)
  | number (text : String)
  | string (s : String)
  | array (items : List Value)
  | object (entries : List (String × Value))

/-- The options that calls look at or change, and the others. -/
structure QueryOptions (others : Type) where
  autoExecute : Option Bool
  prepared : Option String
  queryContext : Option String
  readOnly : Option Bool
  statement : Option String
  raw : Option (FiniteMap String Value)
  others : others

namespace QueryOptions

variable {others : Type}

def rawValue (opts : QueryOptions others) (key : String) : Option Value :=
  opts.raw.bind fun raw => raw.lookup key

/-- An entry of the body: the raw ones are inserted last. -/
def entry (opts : QueryOptions others) (key : String) (own : Option Value) : Option Value :=
  (opts.rawValue key).or own

end QueryOptions

/-- What is sent, as far as the options go. -/
structure Body (others : Type) where
  autoExecute : Option Value
  prepared : Option Value
  queryContext : Option Value
  readOnly : Option Value
  statement : Option Value
  raw : Option (FiniteMap String Value)
  others : others

def QueryOptions.body {others : Type} (opts : QueryOptions others) : Body others :=
  { autoExecute := opts.entry "auto_execute" (opts.autoExecute.map .bool)
    prepared := opts.entry "prepared" (opts.prepared.map .string)
    queryContext := opts.entry "query_context" (opts.queryContext.map .string)
    readOnly := opts.entry "readonly" (opts.readOnly.map .bool)
    statement := opts.entry "statement" (opts.statement.map .string)
    raw := opts.raw
    others := opts.others }

/-- A reader whose early metadata may have the name the statement was prepared as. -/
structure QueryRespReader where
  prepared : Option String
deriving DecidableEq

abbrev Reply := Except ErrorKind QueryRespReader

/-!
# The cache
-/

abbrev PreparedStatementCache := FiniteMap String String

namespace PreparedStatementCache

def get (cache : PreparedStatementCache) (statement : String) : Option String :=
  cache.lookup statement

def put (cache : PreparedStatementCache) (statement preparedName : String) :
    PreparedStatementCache :=
  cache.insert statement preparedName

@[simp] theorem get_put (cache : PreparedStatementCache) (statement preparedName : String) :
    (cache.put statement preparedName).get statement = some preparedName :=
  AList.lookup_insert cache

theorem get_put_ne {cache : PreparedStatementCache} {statement other : String}
    (preparedName : String) (h : other ≠ statement) :
    (cache.put statement preparedName).get other = cache.get other :=
  AList.lookup_insert_ne h

end PreparedStatementCache

/-!
# A call
-/

variable {others : Type}

/-- Where a call is: it has passed its options on, executes a cached name, prepares the
statement, or has returned. -/
inductive Phase (others : Type) where
  | passing (request : QueryOptions others)
  | executing (statement : String) (request : QueryOptions others)
  | preparing (statement : String) (request : QueryOptions others)
  | returned (result : Reply)

/-- The request that is out. -/
def Phase.request : Phase others -> Option (QueryOptions others)
  | .passing request => some request
  | .executing _ request => some request
  | .preparing _ request => some request
  | .returned _ => none

def prepare (statement : String) (opts : QueryOptions others) : QueryOptions others :=
  { opts with statement := some ("PREPARE " ++ statement), autoExecute := some true }

/-- Up to the first request. -/
def start (cache : PreparedStatementCache) (opts : QueryOptions others) : Phase others :=
  if opts.autoExecute = some true then .passing opts
  else
    match opts.statement with
    | none =>
        .returned (.error (.invalidArgument
          "statement must be present if auto_execute is true" (some "statement")))
    | some statement =>
        match cache.get statement with
        | some cachedStatement =>
            .executing statement
              { opts with statement := none, prepared := some cachedStatement }
        | none => .preparing statement (prepare statement opts)

/-- From a reply to the next request, and what is put into the cache. -/
def reply : Phase others -> Reply -> Phase others × Option (String × String)
  | .passing _, res => (.returned res, none)
  | .executing _ _, .ok reader => (.returned (.ok reader), none)
  | .executing statement opts, .error _ => (.preparing statement (prepare statement opts), none)
  | .preparing statement _, .ok reader =>
      (.returned (.ok reader), reader.prepared.map fun prepared => (statement, prepared))
  | .preparing _ _, .error e => (.returned (.error e), none)
  | .returned result, _ => (.returned result, none)

def store (cache : PreparedStatementCache) :
    Option (String × String) -> PreparedStatementCache
  | some (statement, prepared) => cache.put statement prepared
  | none => cache

/-!
# A call on its own
-/

structure Conversation (others : Type) where
  requests : List (QueryOptions others)
  phase : Phase others
  cache : PreparedStatementCache

/-- The replies come in turn.  Where they end early, a request is still out. -/
def converse (phase : Phase others) (cache : PreparedStatementCache) :
    List Reply -> Conversation others
  | [] => { requests := phase.request.toList, phase := phase, cache := cache }
  | res :: replies =>
      match phase.request with
      | none => { requests := [], phase := phase, cache := cache }
      | some request =>
          let next := converse (reply phase res).1 (store cache (reply phase res).2) replies
          { next with requests := request :: next.requests }

def preparedQuery (cache : PreparedStatementCache) (opts : QueryOptions others)
    (replies : List Reply) : Conversation others :=
  converse (start cache opts) cache replies

/-!
# Both ways a call goes
-/

variable {opts request : QueryOptions others} {statement name : String}
  {cache : PreparedStatementCache}

@[simp] theorem converse_returned (result : Reply) (cache : PreparedStatementCache)
    (replies : List Reply) :
    converse (.returned result : Phase others) cache replies =
      { requests := [], phase := .returned result, cache := cache } := by
  cases replies with
  | nil => rfl
  | cons res replies => rfl

/-- What preparing comes to. -/
def prepared (statement : String) (request : QueryOptions others)
    (cache : PreparedStatementCache) : List Reply -> Conversation others
  | [] => { requests := [request], phase := .preparing statement request, cache := cache }
  | .error e :: _ =>
      { requests := [request], phase := .returned (.error e), cache := cache }
  | .ok reader :: _ =>
      { requests := [request]
        phase := .returned (.ok reader)
        cache := store cache (reader.prepared.map fun prepared => (statement, prepared)) }

theorem converse_preparing (statement : String) (request : QueryOptions others)
    (cache : PreparedStatementCache) (replies : List Reply) :
    converse (.preparing statement request) cache replies =
      prepared statement request cache replies := by
  cases replies with
  | nil => rfl
  | cons res replies =>
      cases res with
      | error e => simp [converse, reply, Phase.request, prepared, store]
      | ok reader => simp [converse, reply, Phase.request, prepared]

/-- A statement that is not cached is prepared. -/
theorem preparedQuery_cold (replies : List Reply) (hauto : opts.autoExecute ≠ some true)
    (hstatement : opts.statement = some statement) (hcache : cache.get statement = none) :
    preparedQuery cache opts replies =
      prepared statement (prepare statement opts) cache replies := by
  unfold preparedQuery start
  rw [if_neg hauto, hstatement]
  dsimp only
  rw [hcache]
  exact converse_preparing statement _ cache replies

/-- The request for a cached name. -/
def execute (name : String) (opts : QueryOptions others) : QueryOptions others :=
  { opts with statement := none, prepared := some name }

/-- A statement that is cached is executed, and is prepared where that fails. -/
theorem preparedQuery_cached (replies : List Reply) (hauto : opts.autoExecute ≠ some true)
    (hstatement : opts.statement = some statement) (hcache : cache.get statement = some name) :
    preparedQuery cache opts replies =
      match replies with
      | [] =>
          { requests := [execute name opts]
            phase := .executing statement (execute name opts)
            cache := cache }
      | .ok reader :: _ =>
          { requests := [execute name opts], phase := .returned (.ok reader), cache := cache }
      | .error _ :: rest =>
          let next := prepared statement (prepare statement (execute name opts)) cache rest
          { next with requests := execute name opts :: next.requests } := by
  unfold preparedQuery start
  rw [if_neg hauto, hstatement]
  dsimp only
  rw [hcache]
  cases replies with
  | nil => rfl
  | cons res rest =>
      cases res with
      | ok reader => simp [converse, reply, Phase.request, store, execute]
      | error e => simp [converse, reply, Phase.request, store, execute, converse_preparing]

end Queryx
end CouchbaseSdk

/-!
# One call of a prepared query

Any failure of a cached execution leads to a second request, which prepares and executes
the statement again.  That request still has the name of the first one.
-/

namespace CouchbaseSdk
namespace Queryx

open Foundation

variable {others : Type}

/-!
# Executing at most once
-/

/-- The service does not know the prepared statement, or cannot use it. -/
def ErrorKind.preparedUnusable : ErrorKind -> Bool
  | .server e => e.kind = .preparedStatementFailure
  | _ => false

/-- There is a second request only where the name of the first one was not usable, and any
other failure of the first one is what the call returns. -/
structure AtMostOnce (cache : PreparedStatementCache) (opts : QueryOptions others)
    (statement : String) (replies : List Reply) : Prop where
  second : 2 ≤ (preparedQuery cache opts replies).requests.length ->
    exists name e, cache.get statement = some name ∧ replies.head? = some (.error e) ∧
      e.preparedUnusable = true
  returned : forall e, replies.head? = some (.error e) ->
    ¬ ((cache.get statement).isSome = true ∧ e.preparedUnusable = true) ->
      (preparedQuery cache opts replies).phase = .returned (.error e)

theorem prepared_requests (statement : String) (request : QueryOptions others)
    (cache : PreparedStatementCache) (replies : List Reply) :
    (prepared statement request cache replies).requests = [request] := by
  cases replies with
  | nil => rfl
  | cons res rest =>
      cases res with
      | error e => rfl
      | ok reader => rfl

theorem atMostOnce_cold {opts : QueryOptions others} {statement : String}
    {cache : PreparedStatementCache} (replies : List Reply)
    (hauto : opts.autoExecute ≠ some true) (hstatement : opts.statement = some statement)
    (hcache : cache.get statement = none) : AtMostOnce cache opts statement replies := by
  have hcold := preparedQuery_cold replies hauto hstatement hcache
  constructor
  case second =>
      intro hlength
      rw [hcold, prepared_requests] at hlength
      exact absurd hlength (Nat.not_succ_le_self 1)
  case returned =>
      intro e hhead _
      rw [hcold]
      cases replies with
      | nil => cases hhead
      | cons res rest =>
          cases hhead
          rfl

theorem atMostOnce_cached_iff {opts : QueryOptions others} {statement name : String}
    {cache : PreparedStatementCache} (replies : List Reply)
    (hauto : opts.autoExecute ≠ some true) (hstatement : opts.statement = some statement)
    (hcache : cache.get statement = some name) :
    AtMostOnce cache opts statement replies <->
      forall e, replies.head? = some (.error e) -> e.preparedUnusable = true := by
  have hcached := preparedQuery_cached replies hauto hstatement hcache
  constructor
  · intro honce e hhead
    cases replies with
    | nil => cases hhead
    | cons res rest =>
        cases hhead
        have hlength : 2 ≤ (preparedQuery cache opts (.error e :: rest)).requests.length := by
          rw [hcached]
          dsimp only
          rw [prepared_requests]
          exact Nat.le_refl 2
        rcases honce.second hlength with ⟨name', e', hname, hhead, hunusable⟩
        cases hhead
        exact hunusable
  · intro hall
    constructor
    case second =>
        intro hlength
        rw [hcached] at hlength
        cases replies with
        | nil => exact absurd hlength (Nat.not_succ_le_self 1)
        | cons res rest =>
            cases res with
            | ok reader => exact absurd hlength (Nat.not_succ_le_self 1)
            | error e => exact ⟨name, e, hcache, rfl, hall e rfl⟩
    case returned =>
        intro e hhead hnot
        refine absurd ⟨?_, hall e hhead⟩ hnot
        rw [hcache]
        rfl

/-- A call executes the statement at most once if and only if the statement is not cached,
or the first reply is no other failure than the one of an unusable name. -/
theorem preparedQuery_at_most_once_iff (cache : PreparedStatementCache)
    (opts : QueryOptions others) (statement : String) (replies : List Reply)
    (hauto : opts.autoExecute ≠ some true) (hstatement : opts.statement = some statement) :
    AtMostOnce cache opts statement replies <->
      (cache.get statement = none ∨
        forall e, replies.head? = some (.error e) -> e.preparedUnusable = true) := by
  cases hcache : cache.get statement with
  | none =>
      exact iff_of_true (atMostOnce_cold replies hauto hstatement hcache) (Or.inl rfl)
  | some name =>
      rw [atMostOnce_cached_iff replies hauto hstatement hcache]
      constructor
      · exact Or.inr
      · intro h
        rcases h with hnone | hall
        · cases hnone
        · exact hall

/-- Options for one statement and nothing else. -/
def plainOptions (statement : String) : QueryOptions Unit :=
  { autoExecute := none
    prepared := none
    queryContext := none
    readOnly := none
    statement := some statement
    raw := none
    others := () }

theorem preparedQuery_at_most_once_select :
    AtMostOnce ((∅ : PreparedStatementCache).put "SELECT 1" "p1") (plainOptions "SELECT 1")
      "SELECT 1" [.ok { prepared := none }] :=
  (preparedQuery_at_most_once_iff _ (plainOptions "SELECT 1") _ _ (by decide) rfl).mpr
    (Or.inr nofun)

/-- The connection breaks while the cached statement is executed. -/
def connectionBroke : ErrorKind :=
  .http (.sendRequest "error sending request") "http://10.0.0.1:8093" none none

theorem preparedQuery_not_at_most_once :
    ¬ forall (cache : PreparedStatementCache) (opts : QueryOptions Unit) (statement : String)
      (replies : List Reply), opts.autoExecute ≠ some true ->
        opts.statement = some statement -> AtMostOnce cache opts statement replies := by
  intro hall
  have honce := hall ((∅ : PreparedStatementCache).put "INSERT INTO b VALUES (1, 2)" "p1")
    (plainOptions "INSERT INTO b VALUES (1, 2)") "INSERT INTO b VALUES (1, 2)"
    [.error connectionBroke, .ok { prepared := some "p2" }] (by decide) rfl
  have hunusable := (atMostOnce_cached_iff _ (by decide) rfl rfl).mp honce connectionBroke rfl
  exact absurd hunusable (by decide)

end Queryx
end CouchbaseSdk
