import CouchbaseSdk.CollectionDs.Collection

/-!
# Queues

A queue is an array with its newest item first.  Clients push at the front of it and pop at its
end.
-/

namespace CouchbaseSdk
namespace CollectionDs

open Foundation
open Kv (Deserialize ErrorKind LookupInSpec MutateInSpec deserializeList)
open Memdx (MutateInOp SubdocDocFlag)

inductive QueueOp where
  | iter
  | push (value : JsonValue)
  | pop

inductive QueueResult (alpha : Type) where
  | items (r : Except ErrorKind (List alpha))
  | pushed (r : Except ErrorKind Unit)
  | popped (r : Except ErrorKind alpha)

namespace CouchbaseQueue

section Programs

variable {alpha : Type} (readAs : Deserialize alpha)

def iter : DsProgram (QueueResult alpha) :=
  get fun res => .done (.items
    (match res with
    | .error e => .error e
    | .ok res => (res.contentAs (deserializeList readAs)).map List.reverse))

def push (value : JsonValue) : DsProgram (QueueResult alpha) :=
  mutateIn [MutateInSpec.arrayPrepend "" [value] {}] { storeSemantics := some .upsert } fun res =>
    .done (.pushed (res.map fun _ => ()))

/-- As many tries as are left. -/
def popLoop : Nat -> DsProgram (QueueResult alpha)
  | 0 => .done (.popped (.error (.otherFailure "failed to perform operation after 16 retries")))
  | n + 1 =>
      lookupIn [LookupInSpec.get "[-1]" none] fun res =>
        match res with
        | .error e => .done (.popped (.error e))
        | .ok res =>
            match res.contentAs readAs 0 with
            | .error e => .done (.popped (.error e))
            | .ok value =>
                mutateIn [MutateInSpec.remove "[-1]" {}] { cas := some res.cas }
                  (retried (popLoop n) (fun e => .done (.popped (.error e)))
                    (.done (.popped (.ok value))))

def pop : DsProgram (QueueResult alpha) :=
  popLoop readAs 16

def program : QueueOp -> DsProgram (QueueResult alpha)
  | .iter => iter readAs
  | .push value => push value
  | .pop => pop readAs

end Programs

end CouchbaseQueue

/-!
# What the operations of a queue do
-/

/-- On the document as it is, or without one. -/
inductive QueueDoes {alpha : Type} (readAs : Deserialize alpha) :
    QueueOp -> Option JsonValue -> QueueResult alpha -> Option JsonValue -> Prop where
  | pushFirst (value : JsonValue) :
      QueueDoes readAs (.push value) none (.pushed (.ok ())) (some (.array [value]))
  | push (value : JsonValue) (items : List JsonValue) :
      QueueDoes readAs (.push value) (some (.array items)) (.pushed (.ok ()))
        (some (.array (value :: items)))
  | pushFails (value v : JsonValue) (e : ErrorKind) (h : forall items, v ≠ .array items) :
      QueueDoes readAs (.push value) (some v) (.pushed (.error e)) (some v)
  | pop (items : List JsonValue) (oldest : JsonValue) (value : alpha)
      (h : readAs oldest = some value) :
      QueueDoes readAs .pop (some (.array (items ++ [oldest]))) (.popped (.ok value))
        (some (.array items))
  | popFails (content : Option JsonValue) (e : ErrorKind) :
      QueueDoes readAs .pop content (.popped (.error e)) content
  | iter (items : List JsonValue) (values : List alpha) (h : items.mapM readAs = some values) :
      QueueDoes readAs .iter (some (.array items)) (.items (.ok values.reverse))
        (some (.array items))
  | iterFails (content : Option JsonValue) (e : ErrorKind) :
      QueueDoes readAs .iter content (.items (.error e)) content

namespace CouchbaseQueue

open Server

/-!
# The requests of a queue
-/

def pushOp (value : JsonValue) : MutateInOp :=
  { op := .arrayPushFirst, flags := 0, path := Kv.asBytes "", value := value.toVec }

def removeLastOp : MutateInOp :=
  { op := .delete, flags := 0, path := Kv.asBytes "[-1]", value := [] }

theorem stripBrackets_singleton (value : JsonValue) :
    MutateInSpec.stripBrackets (JsonValue.array [value]).toVec = value.toVec := by
  rw [JsonValue.toVec_singleton, MutateInSpec.stripBrackets, List.tail_cons,
    List.dropLast_concat]

theorem toOp_arrayPrepend (value : JsonValue) :
    (MutateInSpec.arrayPrepend "" [value] {}).toOp = .ok (pushOp value) := by
  unfold MutateInSpec.arrayPrepend
  rw [stripBrackets_singleton]
  simp [MutateInSpec.toOp, MutateInSpec.toOpType, MutateInSpec.opFlags,
    MutateInSpec.arrayPrependRaw, pushOp, Except.map]

theorem toOp_removeLast : (MutateInSpec.remove "[-1]" {}).toOp = .ok removeLastOp := by
  simp [MutateInSpec.toOp, MutateInSpec.toOpType, MutateInSpec.opFlags, MutateInSpec.remove,
    removeLastOp, Except.map]

theorem mutateOne_pushOp (value v : JsonValue) :
    mutateOne (pushOp value) v = (arrayPushFirst value.toVec v).map some :=
  mutateOne_body rfl parsePath_empty rfl v

theorem mutateOne_push (value : JsonValue) (items : List JsonValue) :
    mutateOne (pushOp value) (.array items) = .ok (some (.array (value :: items))) := by
  have hread : JsonValue.fromSlice (JsonValue.beginArray :: (value.toVec ++ [JsonValue.endArray])) =
      some (.array [value]) := by
    rw [← JsonValue.toVec_singleton, JsonValue.fromSlice_toVec]
  rw [mutateOne_pushOp]
  simp only [arrayPushFirst, hread]
  rfl

theorem mutateOne_push_fails (value : JsonValue) {v : JsonValue}
    (hv : forall items, v ≠ .array items) :
    mutateOne (pushOp value) v = .error .subDocPathMismatch := by
  rw [mutateOne_pushOp]
  cases v with
  | array items => exact absurd rfl (hv items)
  | _ => rfl

theorem mutateOne_removeLast (items : List JsonValue) (oldest : JsonValue) :
    mutateOne removeLastOp (.array (items ++ [oldest])) = .ok (some (.array items)) := by
  have hbody : mutateOne removeLastOp (.array (items ++ [oldest])) =
      mutateBody removeLastOp [.last] (.array (items ++ [oldest])) :=
    mutateOne_body rfl parsePath_last rfl (.array (items ++ [oldest]))
  rw [hbody]
  simp [mutateBody, removeLastOp, alter, within, delete]
  rfl

theorem newRoot_push (value : JsonValue) : newRoot [pushOp value] = .array [] := by
  have hempty : (Kv.asBytes "").isEmpty = true := by decide
  simp [newRoot, pushOp, hempty]

/-!
# Each operation works at one point
-/

section Points

variable {alpha : Type} (readAs : Deserialize alpha)

theorem push_does {s t : Server} {value : JsonValue} {choice : Choice} {answer : MutateAnswer}
    (h : serve s choice (.mutateIn [pushOp value] SubdocDocFlag.MkDoc none) =
      some (answer, t)) :
    QueueDoes readAs (.push value) s.content
      (.pushed ((mutateInResult SubdocDocFlag.MkDoc answer).map fun _ => ()))
      t.content := by
  have hone := serve_made_one h
  cases hcontent : s.content with
  | none =>
      rw [hcontent, Option.getD_none, newRoot_push, mutateOne_push] at hone
      rcases hone with ⟨status, hfails, _⟩ | ⟨content, hok, rfl, ht⟩
      · cases hfails
      · cases hok
        rw [ht]
        exact QueueDoes.pushFirst value
  | some v =>
      rw [hcontent, Option.getD_some] at hone
      by_cases harray : exists items, v = .array items
      · rcases harray with ⟨items, rfl⟩
        rw [mutateOne_push] at hone
        rcases hone with ⟨status, hfails, _⟩ | ⟨content, hok, rfl, ht⟩
        · cases hfails
        · cases hok
          rw [ht]
          exact QueueDoes.push value items
      · have hne : forall items, v ≠ .array items := fun items heq => harray ⟨items, heq⟩
        rw [mutateOne_push_fails value hne] at hone
        rcases hone with ⟨status, hfails, rfl, rfl⟩ | ⟨content, hok, _⟩
        · rw [hcontent]
          exact QueueDoes.pushFails value v _ hne
        · cases hok

theorem push_proceeds (value : JsonValue) (s : Server) :
    Proceeds serve (QueueDoes readAs) content (.push value) (push value) s := by
  unfold push
  rw [mutateIn_made (toOp_arrayPrepend value)]
  apply Proceeds.ask
  intro t _ choice answer u hserve
  constructor
  · exact push_does readAs hserve
  · trivial

theorem find_last {content v : JsonValue} (h : find [.last] content = .ok v) :
    exists items, content = .array (items ++ [v]) := by
  cases content with
  | array items =>
      simp only [find, item] at h
      cases hlast : items.getLast? with
      | none =>
          rw [hlast] at h
          cases h
      | some oldest =>
          rw [hlast] at h
          cases h
          rcases List.getLast?_eq_some_iff.mp hlast with ⟨front, rfl⟩
          exact ⟨front, rfl⟩
  | _ => cases h

/-- The removal of an item that has been looked up. -/
theorem removal_proceeds {s : Server} {d : Document} {items : List JsonValue} {oldest : JsonValue}
    {value : alpha} {again : DsProgram (QueueResult alpha)} (hdoc : s.doc = some d)
    (hitems : d.content = .array (items ++ [oldest])) (hvalue : readAs oldest = some value)
    (hagain : forall t, Proceeds serve (QueueDoes readAs) content .pop again t) :
    Proceeds serve (QueueDoes readAs) content .pop
      (mutateIn [MutateInSpec.remove "[-1]" {}] { cas := some d.cas }
        (retried again (fun e => .done (.popped (.error e))) (.done (.popped (.ok value))))) s := by
  have hremove : mutateOne removeLastOp d.content = .ok (some (.array items)) := by
    rw [hitems, mutateOne_removeLast]
  apply guarded_proceeds toOp_removeLast hdoc hremove
  · intro e t
    exact retried_error (P := fun p => Proceeds serve (QueueDoes readAs) content .pop p t)
      (hagain t) (fun e => Proceeds.done (QueueDoes.popFails _ e)) e
  · intro res
    refine ⟨_, rfl, ?_⟩
    rw [hitems]
    exact QueueDoes.pop items oldest value hvalue

theorem popLoop_proceeds (n : Nat) : forall s : Server,
    Proceeds serve (QueueDoes readAs) content .pop (popLoop readAs n) s := by
  induction n with
  | zero =>
      intro s
      exact Proceeds.done (QueueDoes.popFails _ _)
  | succ n ih =>
      intro s
      unfold popLoop
      rw [lookupIn_one]
      apply Proceeds.ask
      intro t _ choice answer u hserve
      rcases serve_lookupIn_one hserve with ⟨rfl, ⟨_, rfl⟩ | ⟨d, hdoc, rfl⟩⟩
      · exact Proceeds.done (QueueDoes.popFails _ _)
      · change Proceeds _ _ _ _ (match (lookedUp _ d).contentAs readAs 0 with
          | .error e => _
          | .ok value => _) _
        cases hfind : find [.last] d.content with
        | error status =>
            rcases contentAs_get_error readAs parsePath_last (by decide) hfind with ⟨e, he⟩
            rw [he]
            exact Proceeds.done (QueueDoes.popFails _ _)
        | ok oldest =>
            rw [contentAs_get readAs parsePath_last (by decide) hfind]
            cases hvalue : readAs oldest with
            | none => exact Proceeds.done (QueueDoes.popFails _ _)
            | some value =>
                rcases find_last hfind with ⟨items, hitems⟩
                exact removal_proceeds readAs hdoc hitems hvalue ih

theorem iter_proceeds (s : Server) :
    Proceeds serve (QueueDoes readAs) content .iter (iter readAs) s := by
  apply Proceeds.ask
  intro t _ choice answer u hserve
  rcases serve_get hserve with ⟨rfl, ⟨_, rfl⟩ | ⟨d, hdoc, rfl⟩⟩
  · exact Proceeds.done (QueueDoes.iterFails _ _)
  · change Proceeds _ _ _ _
      (.done (QueueResult.items
        ((d.getResult.contentAs (deserializeList readAs)).map List.reverse))) _
    cases hread : d.getResult.contentAs (deserializeList readAs) with
    | error e => exact Proceeds.done (QueueDoes.iterFails _ _)
    | ok values =>
        rcases deserializeList_eq_some readAs (contentAs_document _ hread)
          with ⟨items, hitems, hmap⟩
        have hcontent : u.content = some (.array items) := by
          rw [Server.content, hdoc, Option.map_some, hitems]
        apply Proceeds.done
        rw [hcontent]
        exact QueueDoes.iter items values hmap

theorem implements : Implements serve (QueueDoes readAs) content (program readAs) := by
  intro o s
  cases o with
  | iter => exact iter_proceeds readAs s
  | push value => exact push_proceeds readAs value s
  | pop => exact popLoop_proceeds readAs 16 s

end Points

end CouchbaseQueue

/-!
# First in, first out

In every run, what has been popped and what is still in the queue is what has been pushed, in the
order in which it was.
-/

open Kv (Deserialize ErrorKind)
open Memdx (SubdocDocFlag)

namespace CouchbaseQueue

open Server

section Order

variable {alpha : Type} (readAs : Deserialize alpha)

/-- The values of the pushes that have returned, in order. -/
def pushed (log : List (QueueOp × QueueResult alpha)) : List JsonValue :=
  log.filterMap fun
    | (.push value, .pushed (.ok _)) => some value
    | _ => none

/-- The values that pops have returned, in order. -/
def popped (log : List (QueueOp × QueueResult alpha)) : List alpha :=
  log.filterMap fun
    | (.pop, .popped (.ok value)) => some value
    | _ => none

/-- No document, or an array. -/
def IsQueue : Option JsonValue -> Prop
  | none => True
  | some (.array _) => True
  | _ => False

/-- The items in the order of `iter`, the oldest first. -/
def inOrder : Option JsonValue -> List JsonValue
  | some (.array items) => items.reverse
  | _ => []

/-- The items that have been popped, each read as the value that was returned, and those that are
left are the ones there were first and all that were pushed. -/
def Ordered (start : Option JsonValue) (log : List (QueueOp × QueueResult alpha))
    (content : Option JsonValue) : Prop :=
  IsQueue content ∧ exists removed, removed.map readAs = (popped log).map some ∧
    removed ++ inOrder content = inOrder start ++ pushed log

variable {readAs}

theorem Ordered.step {start before after : Option JsonValue}
    {log : List (QueueOp × QueueResult alpha)} {op : QueueOp} {r : QueueResult alpha}
    (h : Ordered readAs start log before) (hdoes : QueueDoes readAs op before r after) :
    Ordered readAs start (log ++ [(op, r)]) after := by
  rcases h with ⟨hqueue, removed, hpopped, horder⟩
  cases hdoes with
  | pushFirst value =>
      refine ⟨trivial, removed, ?_, ?_⟩
      · simpa [popped] using hpopped
      · simp only [inOrder, List.append_nil] at horder
        simp [inOrder, pushed, horder]
  | push value items =>
      refine ⟨trivial, removed, ?_, ?_⟩
      · simpa [popped] using hpopped
      · simp only [inOrder] at horder
        simp only [inOrder, List.reverse_cons, pushed, List.filterMap_append]
        rw [← List.append_assoc, horder, List.append_assoc]
        rfl
  | pushFails value v e hv =>
      cases v with
      | array items => exact absurd rfl (hv items)
      | _ => exact absurd hqueue id
  | pop items oldest value hvalue =>
      refine ⟨trivial, removed ++ [oldest], ?_, ?_⟩
      · simp only [popped, List.filterMap_append, List.map_append] at hpopped ⊢
        rw [hpopped]
        simp [hvalue]
      · simp only [inOrder, List.reverse_append, List.reverse_cons, List.reverse_nil] at horder
        simpa [inOrder, pushed] using horder
  | popFails content e =>
      refine ⟨hqueue, removed, ?_, ?_⟩
      · simpa [popped] using hpopped
      · simpa [pushed] using horder
  | iter items values hvalues =>
      refine ⟨hqueue, removed, ?_, ?_⟩
      · simpa [popped] using hpopped
      · simpa [pushed] using horder
  | iterFails content e =>
      refine ⟨hqueue, removed, ?_, ?_⟩
      · simpa [popped] using hpopped
      · simpa [pushed] using horder

theorem ordered_of_history {start content : Option JsonValue}
    {log : List (QueueOp × QueueResult alpha)} (hstart : IsQueue start)
    (h : History (QueueDoes readAs) start log content) : Ordered readAs start log content := by
  apply h.invariant
  · exact ⟨hstart, [], rfl, by simp [pushed]⟩
  · intro log before op r after hordered hdoes
    exact hordered.step hdoes

/-- In every run of clients that push and pop, nothing is lost, nothing comes twice and nothing
comes out of order; and what a step changes it records. -/
theorem queue_in_order {client : Type} [DecidableEq client] {s : Server}
    {w : World client QueueOp Server Call Answer (QueueResult alpha)} (hstart : IsQueue s.content)
    (hreach : StepFn.Reach (World.step (program readAs) serve) StepFn.Always (World.new s) w) :
    Ordered readAs s.content w.log w.shared.content ∧
      forall action w', World.step (program readAs) serve w action = some w' ->
        Records (QueueDoes readAs) content w w' := by
  constructor
  · exact ordered_of_history hstart (linearizable (implements readAs) hreach)
  · intro action w' hstep
    exact step_records (implements readAs) hreach hstep

/-- One client pushes, and another one pops what it has pushed. -/
theorem queue_in_order_push_pop :
    exists w : World Bool QueueOp Server Call Answer (QueueResult JsonValue),
      popped w.log = [JsonValue.null] ∧
      Ordered some none w.log w.shared.content ∧
        forall action w', World.step (program some) serve w action = some w' ->
          Records (QueueDoes some) content w w' := by
  have hrun : exists w, StepFn.run (@World.step Bool _ _ _ _ _ _ _ (program some) serve)
      (World.new Server.empty)
      [.start true (.push .null), .serve true ⟨1, none⟩, .start false .pop,
        .serve false ⟨2, none⟩, .serve false ⟨2, none⟩] = some w ∧
      popped w.log = [JsonValue.null] := ⟨_, rfl, rfl⟩
  rcases hrun with ⟨w, hrun, hpopped⟩
  exact ⟨w, hpopped, @queue_in_order _ _ Bool _ Server.empty w trivial (StepFn.reach_of_run hrun)⟩

end Order

end CouchbaseQueue

end CollectionDs
end CouchbaseSdk
