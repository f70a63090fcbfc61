import CouchbaseSdk.Queryx.PreparedQuery

/-!
# What prepared queries send

A request is to have the name of the statement and not the statement, or the statement to
prepare and no name.  The options are one value for both attempts of a call, so that what the
first attempt sets, or the caller has set, is still there for the second.
-/

namespace CouchbaseSdk
namespace Queryx

open Foundation

variable {others : Type}

/-!
# Forms of requests
-/

def Body.Executes (body : Body others) (name : String) : Prop :=
  body.statement = none ∧ body.prepared = some (.string name)

def Body.Prepares (body : Body others) (statement : String) : Prop :=
  body.statement = some (.string ("PREPARE " ++ statement)) ∧
    body.autoExecute = some (.bool true) ∧ body.prepared = none

def RawAllows (opts : QueryOptions others) (key : String) (own : Value) : Prop :=
  opts.rawValue key = none ∨ opts.rawValue key = some own

theorem entry_eq_some_iff {opts : QueryOptions others} {key : String} {own : Value} :
    opts.entry key (some own) = some own <-> RawAllows opts key own := by
  unfold QueryOptions.entry RawAllows
  cases opts.rawValue key with
  | none => exact iff_of_true rfl (Or.inl rfl)
  | some v => simp

theorem entry_eq_none_iff {opts : QueryOptions others} {key : String} {own : Option Value} :
    opts.entry key own = none <-> opts.rawValue key = none ∧ own = none := by
  unfold QueryOptions.entry
  exact Option.or_eq_none_iff

theorem execute_body_executes_iff {opts : QueryOptions others} {name : String} :
    (execute name opts).body.Executes name <->
      opts.rawValue "statement" = none ∧ RawAllows opts "prepared" (.string name) := by
  have hstatement : (execute name opts).body.statement = opts.entry "statement" none := rfl
  have hprepared : (execute name opts).body.prepared =
      opts.entry "prepared" (some (.string name)) := rfl
  unfold Body.Executes
  rw [hstatement, hprepared, entry_eq_none_iff, entry_eq_some_iff]
  simp

theorem prepare_body_prepares_iff {opts : QueryOptions others} {statement : String} :
    (prepare statement opts).body.Prepares statement <->
      RawAllows opts "statement" (.string ("PREPARE " ++ statement)) ∧
        RawAllows opts "auto_execute" (.bool true) ∧
          opts.rawValue "prepared" = none ∧ opts.prepared = none := by
  have hstatement : (prepare statement opts).body.statement =
      opts.entry "statement" (some (.string ("PREPARE " ++ statement))) := rfl
  have hauto : (prepare statement opts).body.autoExecute =
      opts.entry "auto_execute" (some (.bool true)) := rfl
  have hprepared : (prepare statement opts).body.prepared =
      opts.entry "prepared" (opts.prepared.map .string) := rfl
  unfold Body.Prepares
  rw [hstatement, hauto, hprepared, entry_eq_some_iff, entry_eq_some_iff, entry_eq_none_iff,
    Option.map_eq_none_iff]

/-- A request with a name does not prepare. -/
theorem not_prepares_of_prepared {opts : QueryOptions others} {statement name : String}
    (h : opts.prepared = some name) : ¬ opts.body.Prepares statement := by
  intro hprepares
  have hnone : opts.entry "prepared" (opts.prepared.map .string) = none := hprepares.2.2
  rw [h, entry_eq_none_iff] at hnone
  cases hnone.2

/-- A request with a statement does not execute a name. -/
theorem not_executes_of_statement {opts : QueryOptions others} {statement name : String}
    (h : opts.statement = some statement) : ¬ opts.body.Executes name := by
  intro hexecutes
  have hnone : opts.entry "statement" (opts.statement.map .string) = none := hexecutes.1
  rw [h, entry_eq_none_iff] at hnone
  cases hnone.2

/-!
# The cache
-/

/-- The reply to the request that prepares, if there is one. -/
def coldReply (cache : PreparedStatementCache) (statement : String) :
    List Reply -> Option Reply
  | [] => none
  | res :: replies =>
      match cache.get statement with
      | none => some res
      | some _ =>
          match res with
          | .ok _ => none
          | .error _ => replies.head?

/-- What a call leaves in the cache. -/
def learnt (cache : PreparedStatementCache) (statement : String) :
    Option Reply -> PreparedStatementCache
  | some (.ok reader) => store cache (reader.prepared.map fun name => (statement, name))
  | _ => cache

theorem prepared_cache (statement : String) (request : QueryOptions others)
    (cache : PreparedStatementCache) (replies : List Reply) :
    (prepared statement request cache replies).cache =
      learnt cache statement replies.head? := by
  cases replies with
  | nil => rfl
  | cons res rest =>
      cases res with
      | error e => rfl
      | ok reader => rfl

theorem preparedQuery_cache {cache : PreparedStatementCache} {opts : QueryOptions others}
    {statement : String} (replies : List Reply) (hauto : opts.autoExecute ≠ some true)
    (hstatement : opts.statement = some statement) :
    (preparedQuery cache opts replies).cache =
      learnt cache statement (coldReply cache statement replies) := by
  cases hcache : cache.get statement with
  | none =>
      rw [preparedQuery_cold _ hauto hstatement hcache, prepared_cache]
      cases replies with
      | nil => rfl
      | cons res rest => simp [coldReply, hcache]
  | some name =>
      rw [preparedQuery_cached _ hauto hstatement hcache]
      cases replies with
      | nil => rfl
      | cons res rest =>
          cases res with
          | ok reader => simp [coldReply, hcache, learnt]
          | error e => simp [coldReply, hcache, prepared_cache]

theorem learnt_name {cache : PreparedStatementCache} {statement name : String}
    {reader : QueryRespReader} (hname : reader.prepared = some name) :
    (learnt cache statement (some (.ok reader))).get statement = some name ∧
      forall other, other ≠ statement ->
        (learnt cache statement (some (.ok reader))).get other = cache.get other := by
  have hlearnt : learnt cache statement (some (.ok reader)) = cache.put statement name := by
    simp [learnt, hname, store]
  rw [hlearnt]
  constructor
  · exact PreparedStatementCache.get_put cache statement name
  · intro other hne
    exact PreparedStatementCache.get_put_ne name hne

/-!
# Transparency
-/

/-- The requests of a call have one of the two forms, the second attempt is what an empty cache
would have led to, and the cache learns the name that is reported and nothing else. -/
structure Transparent (cache : PreparedStatementCache) (opts : QueryOptions others)
    (statement : String) (replies : List Reply) : Prop where
  carries : forall request, request ∈ (preparedQuery cache opts replies).requests ->
    (exists name, cache.get statement = some name ∧ request.body.Executes name) ∨
      request.body.Prepares statement
  fallback : forall first second,
    (preparedQuery cache opts replies).requests = [first, second] ->
      (start ∅ opts).request.map QueryOptions.body = some second.body
  learns : forall reader name, coldReply cache statement replies = some (.ok reader) ->
    reader.prepared = some name ->
      (preparedQuery cache opts replies).cache.get statement = some name ∧
        forall other, other ≠ statement ->
          (preparedQuery cache opts replies).cache.get other = cache.get other

/-- The raw options leave the request alone, a cached name is not followed by a failure, and
the caller has not given a name where there is none cached. -/
def Undisturbed (cache : PreparedStatementCache) (opts : QueryOptions others)
    (statement : String) (replies : List Reply) : Prop :=
  match cache.get statement with
  | some name =>
      opts.rawValue "statement" = none ∧ RawAllows opts "prepared" (.string name) ∧
        forall e, replies.head? ≠ some (.error e)
  | none =>
      RawAllows opts "statement" (.string ("PREPARE " ++ statement)) ∧
        RawAllows opts "auto_execute" (.bool true) ∧
          opts.rawValue "prepared" = none ∧ opts.prepared = none

variable {cache : PreparedStatementCache} {opts : QueryOptions others} {statement : String}
  {replies : List Reply}

theorem learns_of_any (hauto : opts.autoExecute ≠ some true)
    (hstatement : opts.statement = some statement) {reader : QueryRespReader} {name : String}
    (hcold : coldReply cache statement replies = some (.ok reader))
    (hname : reader.prepared = some name) :
    (preparedQuery cache opts replies).cache.get statement = some name ∧
      forall other, other ≠ statement ->
        (preparedQuery cache opts replies).cache.get other = cache.get other := by
  rw [preparedQuery_cache replies hauto hstatement, hcold]
  exact learnt_name hname

theorem transparent_cold_iff (hauto : opts.autoExecute ≠ some true)
    (hstatement : opts.statement = some statement) (hcache : cache.get statement = none) :
    Transparent cache opts statement replies <->
      (prepare statement opts).body.Prepares statement := by
  have hrequests : (preparedQuery cache opts replies).requests = [prepare statement opts] := by
    rw [preparedQuery_cold _ hauto hstatement hcache, prepared_requests]
  constructor
  · intro htransparent
    have hcarries := htransparent.carries (prepare statement opts)
      (by rw [hrequests]; exact List.mem_cons_self)
    rcases hcarries with ⟨name, hname, -⟩ | hprepares
    · rw [hcache] at hname
      cases hname
    · exact hprepares
  · intro hprepares
    constructor
    case carries =>
        intro request hmem
        rw [hrequests, List.mem_singleton] at hmem
        rw [hmem]
        exact Or.inr hprepares
    case fallback =>
        intro first second heq
        rw [hrequests] at heq
        cases heq
    case learns =>
        intro reader name
        exact learns_of_any hauto hstatement

theorem cached_requests {name : String} (hauto : opts.autoExecute ≠ some true)
    (hstatement : opts.statement = some statement) (hcache : cache.get statement = some name)
    (h : forall e, replies.head? ≠ some (.error e)) :
    (preparedQuery cache opts replies).requests = [execute name opts] := by
  rw [preparedQuery_cached _ hauto hstatement hcache]
  cases replies with
  | nil => rfl
  | cons res rest =>
      cases res with
      | ok reader => rfl
      | error e => exact absurd rfl (h e)

theorem cached_requests_error {name : String} {e : ErrorKind}
    (hauto : opts.autoExecute ≠ some true) (hstatement : opts.statement = some statement)
    (hcache : cache.get statement = some name) (h : replies.head? = some (.error e)) :
    (preparedQuery cache opts replies).requests =
      [execute name opts, prepare statement (execute name opts)] := by
  rw [preparedQuery_cached _ hauto hstatement hcache]
  cases replies with
  | nil => cases h
  | cons res rest =>
      cases h
      dsimp only
      rw [prepared_requests]

/-- The second attempt has the name of the first. -/
theorem not_transparent_of_error {name : String} {e : ErrorKind}
    (hauto : opts.autoExecute ≠ some true) (hstatement : opts.statement = some statement)
    (hcache : cache.get statement = some name) (h : replies.head? = some (.error e)) :
    ¬ Transparent cache opts statement replies := by
  intro htransparent
  have hcarries := htransparent.carries (prepare statement (execute name opts)) (by
    rw [cached_requests_error hauto hstatement hcache h]
    exact List.mem_cons_of_mem _ List.mem_cons_self)
  rcases hcarries with ⟨name', -, hexecutes⟩ | hprepares
  · exact not_executes_of_statement rfl hexecutes
  · exact not_prepares_of_prepared rfl hprepares

theorem transparent_cached_iff {name : String} (hauto : opts.autoExecute ≠ some true)
    (hstatement : opts.statement = some statement) (hcache : cache.get statement = some name) :
    Transparent cache opts statement replies <->
      (execute name opts).body.Executes name ∧ forall e, replies.head? ≠ some (.error e) := by
  constructor
  · intro htransparent
    have hhead : forall e, replies.head? ≠ some (.error e) := by
      intro e h
      exact not_transparent_of_error hauto hstatement hcache h htransparent
    refine ⟨?_, hhead⟩
    have hcarries := htransparent.carries (execute name opts) (by
      rw [cached_requests hauto hstatement hcache hhead]
      exact List.mem_cons_self)
    rcases hcarries with ⟨name', hname, hexecutes⟩ | hprepares
    · cases hcache.symm.trans hname
      exact hexecutes
    · exact absurd hprepares (not_prepares_of_prepared rfl)
  · intro ⟨hexecutes, hhead⟩
    have hrequests := cached_requests hauto hstatement hcache hhead
    constructor
    case carries =>
        intro request hmem
        rw [hrequests, List.mem_singleton] at hmem
        rw [hmem]
        exact Or.inl ⟨name, hcache, hexecutes⟩
    case fallback =>
        intro first second heq
        rw [hrequests] at heq
        cases heq
    case learns =>
        intro reader name
        exact learns_of_any hauto hstatement

/-!
# After any calls
-/

/-- A call that has been made, with the replies it got. -/
structure Call (others : Type) where
  opts : QueryOptions others
  replies : List Reply

def cacheAfter (calls : List (Call others)) : PreparedStatementCache :=
  calls.foldl (fun cache call => (preparedQuery cache call.opts call.replies).cache) ∅

/-- After any calls, the next one is transparent if and only if it is left undisturbed. -/
theorem preparedQuery_transparent_iff (calls : List (Call others)) (opts : QueryOptions others)
    (statement : String) (replies : List Reply) (hauto : opts.autoExecute ≠ some true)
    (hstatement : opts.statement = some statement) :
    Transparent (cacheAfter calls) opts statement replies <->
      Undisturbed (cacheAfter calls) opts statement replies := by
  unfold Undisturbed
  cases hcache : (cacheAfter calls).get statement with
  | none => rw [transparent_cold_iff hauto hstatement hcache, prepare_body_prepares_iff]
  | some name =>
      rw [transparent_cached_iff hauto hstatement hcache, execute_body_executes_iff, and_assoc]

theorem preparedQuery_transparent_select :
    Transparent (cacheAfter ([] : List (Call Unit))) (plainOptions "SELECT 1") "SELECT 1"
      [.ok { prepared := some "p1" }] :=
  (preparedQuery_transparent_iff [] (plainOptions "SELECT 1") "SELECT 1" _ (by decide) rfl).mpr
    ⟨Or.inl rfl, Or.inl rfl, rfl, rfl⟩

/-- The service has forgotten the name. -/
def noSuchPrepared : ErrorKind :=
  .server { kind := .preparedStatementFailure, code := 4040, msg := "No such prepared statement" }

theorem preparedQuery_not_transparent :
    ¬ forall (calls : List (Call Unit)) (opts : QueryOptions Unit) (statement : String)
      (replies : List Reply), opts.autoExecute ≠ some true ->
        opts.statement = some statement ->
          Transparent (cacheAfter calls) opts statement replies := by
  intro hall
  have htransparent := hall
    [{ opts := plainOptions "SELECT 1", replies := [.ok { prepared := some "p1" }] }]
    (plainOptions "SELECT 1") "SELECT 1" [.error noSuchPrepared, .ok { prepared := some "p2" }]
    (by decide) rfl
  exact not_transparent_of_error (by decide) rfl rfl rfl htransparent

end Queryx
end CouchbaseSdk
