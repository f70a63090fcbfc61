import CouchbaseSdk.CollectionDs.Collection

/-!
# Sets

A set is an array without two equal items.  The server compares an item that is added with those
there are, and a client that removes one looks for it first.
-/

namespace CouchbaseSdk
namespace CollectionDs

open Foundation
open Kv (Deserialize ErrorKind MutateInSpec checkIsMacro deserializeList)
open Memdx (MutateInOp SubdocDocFlag)

inductive SetOp (alpha : Type) where
  | insert (value : JsonValue)
  | remove (value : alpha)

inductive SetResult where
  | inserted (r : Except ErrorKind Bool)
  | removed (r : Except ErrorKind Unit)

namespace CouchbaseSet

def insertResult : Except ErrorKind MutateInResult -> SetResult
  | .error .pathExists => .inserted (.ok false)
  | .error e => .inserted (.error e)
  | .ok _ => .inserted (.ok true)

def insert (value : JsonValue) : DsProgram SetResult :=
  mutateIn [MutateInSpec.arrayAddUnique "" value {}] { storeSemantics := some .upsert } fun res =>
    .done (insertResult res)

section Remove

variable {alpha : Type} [DecidableEq alpha] (readAs : Deserialize alpha)

/-- The index of the last item that is equal. -/
def indexToRemove (value : alpha) (contents : List alpha) : Option Nat :=
  contents.zipIdx.foldl (fun found p => if p.1 = value then some p.2 else found) none

/-- As many tries as are left. -/
def removeLoop (value : alpha) : Nat -> DsProgram SetResult
  | 0 => .done (.removed (.error (.otherFailure "failed to perform operation after 16 retries")))
  | n + 1 =>
      get fun res =>
        match res with
        | .error e => .done (.removed (.error e))
        | .ok items =>
            match items.contentAs (deserializeList readAs) with
            | .error e => .done (.removed (.error e))
            | .ok contents =>
                match indexToRemove value contents with
                | none => .done (.removed (.ok ()))
                | some index =>
                    mutateIn [MutateInSpec.remove ("[" ++ index.repr ++ "]") {}]
                      { cas := some items.cas }
                      (retried (removeLoop value n) (fun e => .done (.removed (.error e)))
                        (.done (.removed (.ok ()))))

def remove (value : alpha) : DsProgram SetResult :=
  removeLoop readAs value 16

def program : SetOp alpha -> DsProgram SetResult
  | .insert value => insert value
  | .remove value => remove readAs value

end Remove

end CouchbaseSet

/-!
# What the operations of a set do
-/

/-- Values with parts and macros are not accepted, and only values without parts are compared. -/
def Accepts (value : JsonValue) (content : Option JsonValue) : Prop :=
  isPrimitive value = true ∧ checkIsMacro value.toVec = false ∧
    (content = none ∨ exists items, content = some (.array items) ∧ items.all isPrimitive = true)

/-- On the document as it is, or without one. -/
inductive SetDoes {alpha : Type} (readAs : Deserialize alpha) :
    SetOp alpha -> Option JsonValue -> SetResult -> Option JsonValue -> Prop where
  | insertFirst (value : JsonValue) :
      SetDoes readAs (.insert value) none (.inserted (.ok true)) (some (.array [value]))
  | insertNew (value : JsonValue) (items : List JsonValue) (h : value ∉ items) :
      SetDoes readAs (.insert value) (some (.array items)) (.inserted (.ok true))
        (some (.array (items ++ [value])))
  | insertOld (value : JsonValue) (items : List JsonValue) (h : value ∈ items) :
      SetDoes readAs (.insert value) (some (.array items)) (.inserted (.ok false))
        (some (.array items))
  | insertFails (value : JsonValue) (content : Option JsonValue) (e : ErrorKind)
      (h : ¬ Accepts value content) :
      SetDoes readAs (.insert value) content (.inserted (.error e)) content
  | removeOne (value : alpha) (before after : List JsonValue) (x : JsonValue)
      (h : readAs x = some value) :
      SetDoes readAs (.remove value) (some (.array (before ++ x :: after))) (.removed (.ok ()))
        (some (.array (before ++ after)))
  | removeNone (value : alpha) (items : List JsonValue)
      (h : forall x, x ∈ items -> readAs x ≠ some value) :
      SetDoes readAs (.remove value) (some (.array items)) (.removed (.ok ()))
        (some (.array items))
  | removeFails (value : alpha) (content : Option JsonValue) (e : ErrorKind) :
      SetDoes readAs (.remove value) content (.removed (.error e)) content

namespace CouchbaseSet

open Server

/-!
# The requests of a set
-/

def addOp (value : JsonValue) : MutateInOp :=
  { op := .arrayAddUnique
    flags := if checkIsMacro value.toVec then 0x14 else 0
    path := Kv.asBytes ""
    value := value.toVec }

def removeAtOp (index : Nat) : MutateInOp :=
  { op := .delete, flags := 0, path := Kv.asBytes ("[" ++ index.repr ++ "]"), value := [] }

theorem toOp_arrayAddUnique (value : JsonValue) :
    (MutateInSpec.arrayAddUnique "" value {}).toOp = .ok (addOp value) := by
  cases h : checkIsMacro value.toVec <;>
    simp [MutateInSpec.toOp, MutateInSpec.toOpType, MutateInSpec.opFlags,
      MutateInSpec.arrayAddUnique, MutateInSpec.arrayAddUniqueRaw, MutateInSpec.withMacro, addOp, h,
      Except.map]
  decide

theorem toOp_removeAt (index : Nat) :
    (MutateInSpec.remove ("[" ++ index.repr ++ "]") {}).toOp = .ok (removeAtOp index) := by
  simp [MutateInSpec.toOp, MutateInSpec.toOpType, MutateInSpec.opFlags, MutateInSpec.remove,
    removeAtOp, Except.map]

theorem newRoot_add (value : JsonValue) : newRoot [addOp value] = .array [] := by
  have hempty : (Kv.asBytes "").isEmpty = true := by decide
  simp [newRoot, addOp, hempty]

theorem mutateOne_macro_add {value : JsonValue} (h : checkIsMacro value.toVec = true)
    (v : JsonValue) : mutateOne (addOp value) v = .error .subDocXattrInvalidKeyCombo := by
  have hpath : (JsonValue.utf8 (addOp value).path).bind parsePath = some [] := by
    rw [addOp, utf8_asBytes, Option.bind_some, parsePath_empty]
  have hflags : (addOp value).flags &&& Memdx.SubdocOpFlag.XATTR_PATH ≠ 0 := by
    simp only [addOp, h, if_true]
    decide
  unfold mutateOne
  rw [hpath]
  simp only [if_pos hflags]
  rfl

theorem mutateOne_add {value : JsonValue} (h : checkIsMacro value.toVec = false)
    (v : JsonValue) : mutateOne (addOp value) v = (arrayAddUnique value.toVec v).map some := by
  have hflags : (addOp value).flags = 0 := by
    simp [addOp, h]
  exact mutateOne_body rfl parsePath_empty hflags v

/-- Where a value is added it was not there before, and where it is not it was, or is not
accepted. -/
theorem arrayAddUnique_cases (value : JsonValue) (v : JsonValue) :
    (exists items, v = .array items ∧ value ∉ items ∧
      arrayAddUnique value.toVec v = .ok (.array (items ++ [value]))) ∨
    (exists items, v = .array items ∧ value ∈ items ∧
      arrayAddUnique value.toVec v = .error .subDocPathExists) ∨
    (¬ Accepts value (some v) ∧
      (arrayAddUnique value.toVec v = .error .subDocCantInsert ∨
        arrayAddUnique value.toVec v = .error .subDocPathMismatch)) := by
  cases v with
  | array items =>
      simp only [arrayAddUnique, JsonValue.fromSlice_toVec]
      cases hvalue : isPrimitive value with
      | false =>
          refine Or.inr (Or.inr ⟨?_, Or.inl rfl⟩)
          intro haccepts
          rw [haccepts.1] at hvalue
          cases hvalue
      | true =>
          cases hall : items.all isPrimitive with
          | false =>
              refine Or.inr (Or.inr ⟨?_, Or.inr rfl⟩)
              intro haccepts
              rcases haccepts.2.2 with hnone | ⟨items', hitems, hall'⟩
              · cases hnone
              · cases hitems
                rw [hall] at hall'
                cases hall'
          | true =>
              by_cases hmem : value ∈ items
              · refine Or.inr (Or.inl ⟨items, rfl, hmem, ?_⟩)
                simp [hmem]
              · refine Or.inl ⟨items, rfl, hmem, ?_⟩
                simp [hmem]
  | _ =>
      refine Or.inr (Or.inr ⟨?_, Or.inr rfl⟩)
      intro haccepts
      rcases haccepts.2.2 with hnone | ⟨items', hitems, _⟩
      · cases hnone
      · cases hitems

theorem mutateOne_removeAt (before after : List JsonValue) (x : JsonValue) :
    mutateOne (removeAtOp before.length) (.array (before ++ x :: after)) =
      .ok (some (.array (before ++ after))) := by
  have hbody : mutateOne (removeAtOp before.length) (.array (before ++ x :: after)) =
      mutateBody (removeAtOp before.length) [.index before.length]
        (.array (before ++ x :: after)) :=
    mutateOne_body rfl (parsePath_index before.length) rfl (.array (before ++ x :: after))
  rw [hbody]
  simp [mutateBody, removeAtOp, alter, within, delete, List.eraseIdx_append_of_length_le]
  rfl

/-!
# Each operation works at one point
-/

theorem insert_on {value v : JsonValue} {answer : MutateAnswer} {choice : Choice}
    {s t : Server} (hplain : checkIsMacro value.toVec = false)
    (hone : (exists status, mutateOne (addOp value) v = .error status ∧
        answer = .pathFailure 0 status ∧ t = s) ∨
      exists content, mutateOne (addOp value) v = .ok content ∧ answer = .mutated choice.fresh ∧
        t.content = content) :
    (exists items, v = .array items ∧ value ∉ items ∧
      insertResult (mutateInResult SubdocDocFlag.MkDoc answer) = .inserted (.ok true) ∧
      t.content = some (.array (items ++ [value]))) ∨
    (exists items, v = .array items ∧ value ∈ items ∧
      insertResult (mutateInResult SubdocDocFlag.MkDoc answer) = .inserted (.ok false) ∧ t = s) ∨
    (¬ Accepts value (some v) ∧ exists e,
      insertResult (mutateInResult SubdocDocFlag.MkDoc answer) = .inserted (.error e) ∧ t = s) := by
  rw [mutateOne_add hplain] at hone
  rcases arrayAddUnique_cases value v with
    ⟨items, rfl, habsent, hadd⟩ | ⟨items, rfl, hpresent, hadd⟩ | ⟨hnot, hadd⟩
  · rw [hadd] at hone
    rcases hone with ⟨status, hfails, _⟩ | ⟨content, hok, rfl, ht⟩
    · cases hfails
    · cases hok
      exact Or.inl ⟨items, rfl, habsent, rfl, ht⟩
  · rw [hadd] at hone
    rcases hone with ⟨status, hfails, rfl, ht⟩ | ⟨content, hok, _⟩
    · cases hfails
      exact Or.inr (Or.inl ⟨items, rfl, hpresent, rfl, ht⟩)
    · cases hok
  · apply Or.inr (Or.inr _)
    refine ⟨hnot, ?_⟩
    rcases hadd with hadd | hadd <;> rw [hadd] at hone <;>
      rcases hone with ⟨status, hfails, rfl, ht⟩ | ⟨content, hok, _⟩
    · cases hfails
      exact ⟨_, rfl, ht⟩
    · cases hok
    · cases hfails
      exact ⟨_, rfl, ht⟩
    · cases hok

section Points

variable {alpha : Type} (readAs : Deserialize alpha)

theorem insert_does {s t : Server} {value : JsonValue} {choice : Choice} {answer : MutateAnswer}
    (h : serve s choice (.mutateIn [addOp value] SubdocDocFlag.MkDoc none) = some (answer, t)) :
    SetDoes readAs (.insert value) s.content
      (insertResult (mutateInResult SubdocDocFlag.MkDoc answer)) t.content := by
  have hone := serve_made_one h
  cases hmacros : checkIsMacro value.toVec with
  | true =>
      rw [mutateOne_macro_add hmacros] at hone
      rcases hone with ⟨status, hfails, rfl, rfl⟩ | ⟨content, hok, _⟩
      · cases hfails
        apply SetDoes.insertFails
        intro haccepts
        rw [haccepts.2.1] at hmacros
        cases hmacros
      · cases hok
  | false =>
      cases hcontent : s.content with
      | none =>
          rw [hcontent, Option.getD_none, newRoot_add] at hone
          rcases insert_on hmacros hone with
            ⟨items, hitems, _, hres, ht⟩ | ⟨items, hitems, hmem, _⟩ | ⟨hnot, e, hres, rfl⟩
          · cases hitems
            rw [hres, ht]
            exact SetDoes.insertFirst value
          · cases hitems
            cases hmem
          · rw [hres, hcontent]
            apply SetDoes.insertFails
            intro haccepts
            exact hnot ⟨haccepts.1, haccepts.2.1, Or.inr ⟨[], rfl, rfl⟩⟩
      | some v =>
          rw [hcontent, Option.getD_some] at hone
          rcases insert_on hmacros hone with
            ⟨items, rfl, habsent, hres, ht⟩ | ⟨items, rfl, hmem, hres, rfl⟩ | ⟨hnot, e, hres, rfl⟩
          · rw [hres, ht]
            exact SetDoes.insertNew value items habsent
          · rw [hres, hcontent]
            exact SetDoes.insertOld value items hmem
          · rw [hres, hcontent]
            exact SetDoes.insertFails value _ e hnot

theorem insert_proceeds (value : JsonValue) (s : Server) :
    Proceeds serve (SetDoes readAs) content (.insert value) (insert value) s := by
  unfold insert
  rw [mutateIn_made (toOp_arrayAddUnique value)]
  apply Proceeds.ask
  intro t _ choice answer u hserve
  exact ⟨insert_does readAs hserve, trivial⟩

/-!
# Removal
-/

theorem mapM_cons_some {x : JsonValue} {items : List JsonValue} {contents : List alpha}
    (h : (x :: items).mapM readAs = some contents) :
    exists c rest, readAs x = some c ∧ items.mapM readAs = some rest ∧ contents = c :: rest := by
  rw [List.mapM_cons] at h
  rcases Option.bind_eq_some_iff.mp h with ⟨c, hc, h⟩
  rcases Option.bind_eq_some_iff.mp h with ⟨rest, hrest, h⟩
  cases h
  exact ⟨c, rest, hc, hrest, rfl⟩

/-- What is read at an index is read from the item there. -/
theorem item_of_read {items : List JsonValue} {contents : List alpha} {i : Nat} {value : alpha}
    (hread : items.mapM readAs = some contents) (hvalue : contents[i]? = some value) :
    exists before x after, items = before ++ x :: after ∧ before.length = i ∧
      readAs x = some value := by
  induction items generalizing contents i with
  | nil =>
      cases hread
      cases hvalue
  | cons x items ih =>
      rcases mapM_cons_some readAs hread with ⟨c, rest, hx, hrest, rfl⟩
      cases i with
      | zero =>
          cases hvalue
          exact ⟨[], x, items, rfl, rfl, hx⟩
      | succ i =>
          rw [List.getElem?_cons_succ] at hvalue
          rcases ih hrest hvalue with ⟨before, y, after, rfl, rfl, hy⟩
          exact ⟨x :: before, y, after, rfl, rfl, hy⟩

/-- A value that is not read is not there. -/
theorem absent_of_read {items : List JsonValue} {contents : List alpha} {value : alpha}
    (hread : items.mapM readAs = some contents) (habsent : value ∉ contents) :
    forall x, x ∈ items -> readAs x ≠ some value := by
  induction items generalizing contents with
  | nil =>
      intro x hx
      cases hx
  | cons y items ih =>
      rcases mapM_cons_some readAs hread with ⟨c, rest, hy, hrest, rfl⟩
      intro x hx heq
      rcases List.mem_cons.mp hx with rfl | htail
      · rw [hy] at heq
        cases heq
        exact habsent List.mem_cons_self
      · exact ih hrest (fun hmem => habsent (List.mem_cons_of_mem _ hmem)) x htail heq

/-- The removal of an item that has been read. -/
theorem removal_proceeds {s : Server} {d : Document} {before after : List JsonValue}
    {x : JsonValue} {value : alpha} {again : DsProgram SetResult} (hdoc : s.doc = some d)
    (hitems : d.content = .array (before ++ x :: after)) (hvalue : readAs x = some value)
    (hagain : forall t, Proceeds serve (SetDoes readAs) content (.remove value) again t) :
    Proceeds serve (SetDoes readAs) content (.remove value)
      (mutateIn [MutateInSpec.remove ("[" ++ before.length.repr ++ "]") {}] { cas := some d.cas }
        (retried again (fun e => .done (.removed (.error e))) (.done (.removed (.ok ()))))) s := by
  have hremove : mutateOne (removeAtOp before.length) d.content =
      .ok (some (.array (before ++ after))) := by
    rw [hitems, mutateOne_removeAt]
  apply guarded_proceeds (toOp_removeAt before.length) hdoc hremove
  · intro e t
    exact retried_error (P := fun p => Proceeds serve (SetDoes readAs) content (.remove value) p t)
      (hagain t) (fun e => Proceeds.done (SetDoes.removeFails value _ e)) e
  · intro res
    refine ⟨_, rfl, ?_⟩
    rw [hitems]
    exact SetDoes.removeOne value before after x hvalue

variable [DecidableEq alpha]

theorem indexToRemove_from (value : alpha) (contents : List alpha) (start : Nat)
    (found : Option Nat) :
    ((contents.zipIdx start).foldl (fun found p => if p.1 = value then some p.2 else found) found =
        found ∧ value ∉ contents) ∨
      exists i, (contents.zipIdx start).foldl
        (fun found p => if p.1 = value then some p.2 else found) found = some (start + i) ∧
          contents[i]? = some value := by
  induction contents generalizing start found with
  | nil => exact Or.inl ⟨rfl, List.not_mem_nil⟩
  | cons c contents ih =>
      rw [List.zipIdx_cons, List.foldl_cons]
      rcases ih (start + 1) (if c = value then some start else found) with
        ⟨hfound, habsent⟩ | ⟨i, hfound, hitem⟩
      · rw [hfound]
        by_cases hc : c = value
        · exact Or.inr ⟨0, by simp [hc], by simp [hc]⟩
        · refine Or.inl ⟨if_neg hc, ?_⟩
          intro hmem
          rcases List.mem_cons.mp hmem with heq | htail
          · exact hc heq.symm
          · exact habsent htail
      · refine Or.inr ⟨i + 1, ?_, ?_⟩
        · rw [hfound]
          congr 1
          omega
        · rw [List.getElem?_cons_succ]
          exact hitem

/-- An equal item, unless there is none. -/
theorem indexToRemove_cases (value : alpha) (contents : List alpha) :
    (indexToRemove value contents = none ∧ value ∉ contents) ∨
      exists i, indexToRemove value contents = some i ∧ contents[i]? = some value := by
  rcases indexToRemove_from value contents 0 none with hnone | ⟨i, hfound, hitem⟩
  · exact Or.inl hnone
  · refine Or.inr ⟨i, ?_, hitem⟩
    unfold indexToRemove
    rw [hfound, Nat.zero_add]

theorem removeLoop_proceeds (value : alpha) (n : Nat) : forall s : Server,
    Proceeds serve (SetDoes readAs) content (.remove value) (removeLoop readAs value n) s := by
  induction n with
  | zero =>
      intro s
      exact Proceeds.done (SetDoes.removeFails value _ _)
  | succ n ih =>
      intro s
      apply Proceeds.ask
      intro t _ choice answer u hserve
      rcases serve_get hserve with ⟨rfl, ⟨_, rfl⟩ | ⟨d, hdoc, rfl⟩⟩
      · exact Proceeds.done (SetDoes.removeFails value _ _)
      · change Proceeds _ _ _ _ (match d.getResult.contentAs (deserializeList readAs) with
          | .error e => _
          | .ok contents => _) _
        cases hread : d.getResult.contentAs (deserializeList readAs) with
        | error e => exact Proceeds.done (SetDoes.removeFails value _ _)
        | ok contents =>
            rcases deserializeList_eq_some readAs (contentAs_document _ hread)
              with ⟨items, hitems, hmap⟩
            rcases indexToRemove_cases value contents with ⟨hnone, habsent⟩ | ⟨i, hsome, hi⟩
            · have hcontent : u.content = some (.array items) := by
                rw [Server.content, hdoc, Option.map_some, hitems]
              simp only [hnone]
              apply Proceeds.done
              rw [hcontent]
              exact SetDoes.removeNone value items (absent_of_read readAs hmap habsent)
            · rcases item_of_read readAs hmap hi with ⟨before, x, after, rfl, rfl, hx⟩
              simp only [hsome]
              exact removal_proceeds readAs hdoc hitems hx ih

theorem implements : Implements serve (SetDoes readAs) content (program readAs) := by
  intro o s
  cases o with
  | insert value => exact insert_proceeds readAs value s
  | remove value => exact removeLoop_proceeds readAs value 16 s

end Points

end CouchbaseSet

/-!
# No item twice

In every run, the items of a set are all different.
-/

open Kv (Deserialize)

namespace CouchbaseSet

open Server

/-- No document, or an array without two equal items. -/
def IsSet : Option JsonValue -> Prop
  | none => True
  | some (.array items) => items.Nodup
  | _ => False

section Unique

variable {alpha : Type} {readAs : Deserialize alpha}

theorem isSet_add {value : JsonValue} {items : List JsonValue}
    (h : IsSet (some (.array items))) (habsent : value ∉ items) :
    IsSet (some (.array (items ++ [value]))) :=
  List.Nodup.append h (List.nodup_singleton value) (List.disjoint_singleton.mpr habsent)

theorem isSet_remove {before after : List JsonValue} {x : JsonValue}
    (h : IsSet (some (.array (before ++ x :: after)))) :
    IsSet (some (.array (before ++ after))) :=
  List.Nodup.sublist (List.Sublist.append_left (List.sublist_cons_self x after) before) h

theorem IsSet.does {before after : Option JsonValue} {op : SetOp alpha} {r : SetResult}
    (h : IsSet before) (hdoes : SetDoes readAs op before r after) : IsSet after := by
  cases hdoes with
  | insertFirst value => exact List.nodup_singleton value
  | insertNew value items habsent => exact isSet_add h habsent
  | insertOld value items hmem => exact h
  | insertFails value content e hnot => exact h
  | removeOne value before after x hx => exact isSet_remove h
  | removeNone value items hnone => exact h
  | removeFails value content e => exact h

theorem isSet_of_history {start content : Option JsonValue} {log : List (SetOp alpha × SetResult)}
    (hstart : IsSet start) (h : History (SetDoes readAs) start log content) : IsSet content := by
  apply h.invariant
  · exact hstart
  · intro log before op r after hset hdoes
    exact IsSet.does hset hdoes

variable [DecidableEq alpha]

end Unique

end CouchbaseSet

end CollectionDs
end CouchbaseSdk
