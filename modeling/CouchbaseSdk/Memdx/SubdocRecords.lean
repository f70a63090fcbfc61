import CouchbaseSdk.Memdx.SubdocResponse

/-!
# The records of a lookup

What the loop over the records of a response gives, and that it reads what a server writes.
-/

namespace CouchbaseSdk
namespace Memdx

open Foundation

namespace LookupInResponse

def resultOf (opIndex : UInt8) (record : Status × Option Buffer) : SubDocResult :=
  { err := (lookupOpFailure record.1).map fun kind => { kind := kind, opIndex := some opIndex }
    value := record.2 }

/-- The results of the records, counted from a number. -/
def resultsFrom : UInt8 -> List (Status × Option Buffer) -> List SubDocResult
  | _, [] => []
  | opIndex, record :: records => resultOf opIndex record :: resultsFrom (opIndex + 1) records

@[simp] theorem length_resultsFrom (opIndex : UInt8) (records : List (Status × Option Buffer)) :
    (resultsFrom opIndex records).length = records.length := by
  induction records generalizing opIndex with
  | nil => rfl
  | cons record records ih =>
      rw [resultsFrom, List.length_cons, ih, List.length_cons]

theorem getElem?_resultsFrom {opIndex : UInt8} {records : List (Status × Option Buffer)} {i : Nat}
    {record : Status × Option Buffer} (h : records[i]? = some record) :
    (resultsFrom opIndex records)[i]? = some (resultOf (opIndex + UInt8.ofNat i) record) := by
  induction records generalizing opIndex i with
  | nil => cases h
  | cons first records ih =>
      cases i with
      | zero =>
          cases h
          rw [resultsFrom]
          simp
      | succ i =>
          rw [List.getElem?_cons_succ] at h
          rw [resultsFrom, List.getElem?_cons_succ, ih h, UInt8.ofNat_add, UInt8.add_assoc,
            UInt8.add_comm 1]
          rfl

theorem toNat_add_one {b : UInt8} (h : b ≠ 255) : (b + 1).toNat = b.toNat + 1 := by
  have hne : b.toNat ≠ 255 := fun heq => h (UInt8.toNat_inj.mp heq)
  have hlt := b.toNat_lt
  rw [UInt8.toNat_add]
  exact Nat.mod_eq_of_lt (by change b.toNat + 1 < 256; omega)

theorem pushRecord_eq (overflowChecks : Bool) (opIndex : UInt8) (results : List SubDocResult)
    (record : Status × Option Buffer) :
    pushRecord overflowChecks (opIndex, results) record =
      if overflowChecks = true ∧ opIndex = 255 then .panic
      else .ok (opIndex + 1, results ++ [resultOf opIndex record]) := by
  have hlast : 256 ≤ opIndex.toNat + (1 : UInt8).toNat <-> opIndex = 255 := by
    rw [← UInt8.toNat_inj]
    have hlt := opIndex.toNat_lt
    change 256 ≤ opIndex.toNat + 1 <-> opIndex.toNat = 255
    omega
  have hpanics : (overflowChecks && decide (256 ≤ opIndex.toNat + (1 : UInt8).toNat)) = true <->
      overflowChecks = true ∧ opIndex = 255 := by
    rw [Bool.and_eq_true, decide_eq_true_iff, hlast]
  unfold pushRecord u8Add
  by_cases h : overflowChecks = true ∧ opIndex = 255
  · rw [if_pos h, if_pos (hpanics.mpr h)]
    rfl
  · rw [if_neg h, if_neg (mt hpanics.mp h)]
    rfl

/-- The count overflows at 256 records in a build with overflow checks. -/
theorem through_pushRecord (overflowChecks : Bool) (opIndex : UInt8) (results : List SubDocResult)
    (records : List (Status × Option Buffer)) :
    Records.through (pushRecord overflowChecks) (opIndex, results) records =
      if overflowChecks = true ∧ 256 ≤ opIndex.toNat + records.length then .panic
      else .ok (opIndex + UInt8.ofNat records.length, results ++ resultsFrom opIndex records) := by
  induction records generalizing opIndex results with
  | nil =>
      have hlt := opIndex.toNat_lt
      rw [List.length_nil, if_neg (by omega)]
      simp [Records.through, resultsFrom]
  | cons record records ih =>
      rw [Records.through, pushRecord_eq]
      by_cases hlast : overflowChecks = true ∧ opIndex = 255
      · have hmore : 256 ≤ opIndex.toNat + (record :: records).length := by
          rw [hlast.2, List.length_cons]
          change 256 ≤ 255 + (records.length + 1)
          omega
        rw [if_pos hlast, if_pos ⟨hlast.1, hmore⟩]
        rfl
      · have hcount : opIndex + 1 + UInt8.ofNat records.length =
            opIndex + UInt8.ofNat (record :: records).length := by
          rw [List.length_cons, UInt8.ofNat_add, UInt8.add_assoc, UInt8.add_comm 1]
          rfl
        have hsame : (overflowChecks = true ∧ 256 ≤ (opIndex + 1).toNat + records.length) <->
            overflowChecks = true ∧ 256 ≤ opIndex.toNat + (record :: records).length := by
          apply and_congr_right
          intro hchecks
          have hne : opIndex ≠ 255 := fun heq => hlast ⟨hchecks, heq⟩
          rw [toNat_add_one hne, List.length_cons, Nat.add_assoc, Nat.add_comm 1]
        rw [if_neg hlast, Exec.ok_bind, ih]
        simp only [hsame, hcount, List.append_assoc]
        rfl

/-- The records at the front of a value, and whether something else is behind them. -/
def recordsOf (value : Buffer) :
    List (Status × Option Buffer) × Except ResponseError Unit :=
  Records.front readRecord value.length value

theorem readRecords_eq (overflowChecks : Bool) (value : Buffer) :
    readRecords overflowChecks value =
      if overflowChecks = true ∧ 256 ≤ (recordsOf value).1.length then .panic
      else (Exec.ofExcept (recordsOf value).2).map fun _ =>
        (UInt8.ofNat (recordsOf value).1.length, resultsFrom 0 (recordsOf value).1) := by
  have hloop : readRecords overflowChecks value =
      Records.through (pushRecord overflowChecks) (0, []) (recordsOf value).1 >>= fun t =>
        (Exec.ofExcept (recordsOf value).2).map fun _ => t :=
    Records.loop_eq_through value.length (0, []) value
  have hzero : (0 : UInt8).toNat + (recordsOf value).1.length = (recordsOf value).1.length := by
    change 0 + _ = _
    exact Nat.zero_add _
  rw [hloop, through_pushRecord, hzero]
  split
  · rfl
  · rw [Exec.ok_bind, UInt8.zero_add, List.nil_append]

/-!
# Written records
-/

/-- A record as a server writes it. -/
structure Written where
  status : UInt16
  value : Buffer
  valueLt : value.length < 2 ^ 32

def Written.bytes (record : Written) : Buffer :=
  beBytes 2 record.status.toNat ++ (beBytes 4 record.value.length ++ record.value)

/-- An empty value reads back as none. -/
def Written.read (record : Written) : Status × Option Buffer :=
  (Status.ofU16 record.status, if 0 < record.value.length then some record.value else none)

theorem readRecord_bytes (record : Written) (rest : Buffer) :
    readRecord (record.bytes ++ rest) = .ok (record.read, rest) := by
  have hstatus : beField 0 2 (record.bytes ++ rest) = record.status.toNat := by
    unfold beField Written.bytes
    rw [List.drop_zero, List.append_assoc, List.take_left' (length_beBytes _ _), beNat_beBytes]
    exact Nat.mod_eq_of_lt record.status.toNat_lt
  have hbehind : (record.bytes ++ rest).drop 6 = record.value ++ rest := by
    unfold Written.bytes
    rw [← List.append_assoc (beBytes 2 _), List.append_assoc,
      List.drop_left' (by simp [length_beBytes])]
  have hlen : beField 2 4 (record.bytes ++ rest) = record.value.length := by
    unfold beField Written.bytes
    rw [List.append_assoc, List.drop_left' (length_beBytes _ _), List.append_assoc,
      List.take_left' (length_beBytes _ _), beNat_beBytes]
    exact Nat.mod_eq_of_lt record.valueLt
  have hlong : ¬ (record.bytes ++ rest).length < 6 := by
    unfold Written.bytes
    simp only [List.length_append, length_beBytes]
    omega
  unfold readRecord
  dsimp only
  rw [if_neg hlong, hstatus, hbehind, hlen, if_neg (by simp), List.take_left, List.drop_left,
    UInt16.ofNat_toNat]
  rfl

theorem front_bytes (records : List Written) :
    Records.front readRecord (records.flatMap Written.bytes).length
      (records.flatMap Written.bytes) = (records.map Written.read, .ok ()) := by
  have hreads : Records.Reads (fun buf => (readRecord buf).toOption)
      (records.flatMap Written.bytes) (records.map Written.read) := by
    induction records with
    | nil => exact Records.Reads.nil
    | cons record records ih =>
        rw [List.flatMap_cons, List.map_cons]
        apply Records.Reads.cons record.read _ ih
        rw [readRecord_bytes]
        rfl
  exact Records.front_of_reads readRecord_shrinks hreads (Nat.le_refl _)

end LookupInResponse

end Memdx
end CouchbaseSdk

/-!
# The records of a mutation

A response has records for some of the operations, each with its number.  They are pushed to a
list in the order they come, after as many empty results as the number says.
-/

namespace CouchbaseSdk
namespace Memdx
namespace MutateInResponse

open Foundation

/-!
# Written records
-/

/-- A record as a server writes it. -/
structure Written where
  opIndex : UInt8
  value : Buffer
  valueLt : value.length < 2 ^ 32

def Written.bytes (record : Written) : Buffer :=
  record.opIndex :: (beBytes 2 0 ++ (beBytes 4 record.value.length ++ record.value))

def Written.read (record : Written) : UInt8 × Buffer :=
  (record.opIndex, record.value)

theorem readRecord_bytes (record : Written) (rest : Buffer) :
    readRecord (record.bytes ++ rest) = .ok (record.read, rest) := by
  have hbytes : record.bytes ++ rest =
      record.opIndex :: 0 :: 0 :: (beBytes 4 record.value.length ++ (record.value ++ rest)) := by
    unfold Written.bytes
    rw [List.cons_append, List.append_assoc, List.append_assoc]
    rfl
  have hlen : beField 0 4 (beBytes 4 record.value.length ++ (record.value ++ rest)) =
      record.value.length := by
    unfold beField
    rw [List.drop_zero, List.take_left' (length_beBytes _ _), beNat_beBytes]
    exact Nat.mod_eq_of_lt record.valueLt
  have hbehind : (beBytes 4 record.value.length ++ (record.value ++ rest)).drop 4 =
      record.value ++ rest := List.drop_left' (length_beBytes _ _)
  have hlong : ¬ (beBytes 4 record.value.length ++ (record.value ++ rest)).length < 4 := by
    simp only [List.length_append, length_beBytes]
    omega
  have hstatus : Status.ofU16 (UInt16.ofNat (beNat [0, 0])) = .success := by decide
  rw [hbytes]
  unfold readRecord
  dsimp only
  rw [if_pos hstatus, if_neg hlong, hlen, hbehind, if_neg (by simp), List.take_left,
    List.drop_left]
  rfl

/-- The records at the front of a value, and whether something else is behind them. -/
def recordsOf (value : Option Buffer) : List (UInt8 × Buffer) × Except ResponseError Unit :=
  Records.front readRecord (value.getD []).length (value.getD [])

theorem recordsOf_bytes {value : Option Buffer} {records : List Written}
    (h : value.getD [] = records.flatMap Written.bytes) :
    recordsOf value = (records.map Written.read, .ok ()) := by
  have hreads : Records.Reads (fun buf => (readRecord buf).toOption)
      (records.flatMap Written.bytes) (records.map Written.read) := by
    clear h
    induction records with
    | nil => exact Records.Reads.nil
    | cons record records ih =>
        rw [List.flatMap_cons, List.map_cons]
        apply Records.Reads.cons record.read _ ih
        rw [readRecord_bytes]
        rfl
  unfold recordsOf
  rw [h]
  exact Records.front_of_reads readRecord_shrinks hreads (Nat.le_refl _)

theorem readRecords_eq (value : Option Buffer) :
    readRecords value = (Exec.ofExcept (recordsOf value).2).map fun _ =>
      (recordsOf value).1.foldl pushRecord [] := by
  cases value with
  | none => rfl
  | some value =>
      have hloop : readRecords (some value) =
          Records.through (fun results record => .ok (pushRecord results record)) []
            (recordsOf (some value)).1 >>= fun t =>
              (Exec.ofExcept (recordsOf (some value)).2).map fun _ => t :=
        Records.loop_eq_through value.length [] value
      rw [hloop, Records.through_ok, Exec.ok_bind]

/-!
# The list of results
-/

def present (value : Buffer) : SubDocResult := { err := none, value := some value }

theorem pushRecord_eq (results : List SubDocResult) (record : UInt8 × Buffer) :
    pushRecord results record =
      results ++ (List.replicate (record.1.toNat - results.length % 256) noResult ++
        [present record.2]) := by
  have hlen : (UInt8.ofNat results.length).toNat = results.length % 256 := UInt8.toNat_ofNat'
  unfold pushRecord
  dsimp only
  rw [hlen]
  split
  · rw [List.append_assoc]
    rfl
  · rename_i hle
    rw [UInt8.lt_iff_toNat_lt, hlen] at hle
    rw [Nat.sub_eq_zero_of_le (Nat.le_of_not_lt hle)]
    rfl

theorem prefix_foldl (results : List SubDocResult) (records : List (UInt8 × Buffer)) :
    results <+: records.foldl pushRecord results := by
  induction records generalizing results with
  | nil => exact List.prefix_rfl
  | cons record records ih =>
      apply List.IsPrefix.trans _ (ih (pushRecord results record))
      rw [pushRecord_eq]
      exact List.prefix_append _ _

theorem getElem?_foldl {results : List SubDocResult} (records : List (UInt8 × Buffer)) {i : Nat}
    (hi : i < results.length) : (records.foldl pushRecord results)[i]? = results[i]? := by
  rcases prefix_foldl results records with ⟨rest, hrest⟩
  rw [← hrest, List.getElem?_append_left hi]

/-!
# Increasing numbers
-/

/-- A number at or behind the end is where its value is pushed to. -/
theorem pushRecord_of_le {results : List SubDocResult} {record : UInt8 × Buffer}
    (h : results.length ≤ record.1.toNat) :
    pushRecord results record =
      results ++ (List.replicate (record.1.toNat - results.length) noResult ++
        [present record.2]) := by
  have hlt := record.1.toNat_lt
  rw [pushRecord_eq, Nat.mod_eq_of_lt (by omega)]

theorem length_pushRecord_of_le {results : List SubDocResult} {record : UInt8 × Buffer}
    (h : results.length ≤ record.1.toNat) :
    (pushRecord results record).length = record.1.toNat + 1 := by
  rw [pushRecord_of_le h]
  simp only [List.length_append, List.length_replicate, List.length_singleton]
  omega

theorem getElem?_pushed {results : List SubDocResult} {record : UInt8 × Buffer}
    (h : results.length ≤ record.1.toNat) :
    (pushRecord results record)[record.1.toNat]? = some (present record.2) := by
  rw [pushRecord_of_le h, List.getElem?_append_right h,
    List.getElem?_append_right (by rw [List.length_replicate]), List.length_replicate,
    Nat.sub_self]
  rfl

/-- Between the end and the number nothing is there. -/
theorem getElem?_padded {results : List SubDocResult} {record : UInt8 × Buffer} {i : Nat}
    (hle : results.length ≤ i) (hlt : i < record.1.toNat) :
    (pushRecord results record)[i]? = some noResult := by
  rw [pushRecord_of_le (by omega), List.getElem?_append_right hle,
    List.getElem?_append_left (by rw [List.length_replicate]; omega)]
  exact List.getElem?_replicate_of_lt (by omega)

/-- Numbers that increase from the end of a list. -/
def Increasing (results : List SubDocResult) (records : List (UInt8 × Buffer)) : Prop :=
  (forall record, record ∈ records -> results.length ≤ record.1.toNat) ∧
    (records.map Prod.fst).Pairwise (· < ·)

theorem Increasing.tail {results : List SubDocResult} {record : UInt8 × Buffer}
    {records : List (UInt8 × Buffer)} (h : Increasing results (record :: records)) :
    Increasing (pushRecord results record) records := by
  rcases h with ⟨hle, hsorted⟩
  rw [List.map_cons, List.pairwise_cons] at hsorted
  refine ⟨?_, hsorted.2⟩
  intro later hlater
  rw [length_pushRecord_of_le (hle record List.mem_cons_self)]
  exact hsorted.1 later.1 (List.mem_map_of_mem hlater)

/-- Every value is at its number. -/
theorem getElem?_of_increasing {results : List SubDocResult} {records : List (UInt8 × Buffer)}
    (h : Increasing results records) {record : UInt8 × Buffer} (hmem : record ∈ records) :
    (records.foldl pushRecord results)[record.1.toNat]? = some (present record.2) := by
  induction records generalizing results with
  | nil => cases hmem
  | cons first records ih =>
      rw [List.foldl_cons]
      have hfirst := h.1 first List.mem_cons_self
      rcases List.mem_cons.mp hmem with rfl | hmem
      · rw [getElem?_foldl _ (by rw [length_pushRecord_of_le hfirst]; omega)]
        exact getElem?_pushed hfirst
      · exact ih h.tail hmem

/-- Elsewhere nothing is there. -/
theorem getElem?_other {results : List SubDocResult} {records : List (UInt8 × Buffer)}
    (h : Increasing results records) {i : Nat} (hi : results.length ≤ i)
    (hother : forall record, record ∈ records -> record.1.toNat ≠ i)
    (hlt : i < (records.foldl pushRecord results).length) :
    (records.foldl pushRecord results)[i]? = some noResult := by
  induction records generalizing results with
  | nil =>
      rw [List.foldl_nil] at hlt
      omega
  | cons first records ih =>
      rw [List.foldl_cons] at hlt ⊢
      have hfirst := h.1 first List.mem_cons_self
      have hne := hother first List.mem_cons_self
      have hlength := length_pushRecord_of_le hfirst
      by_cases hbehind : first.1.toNat < i
      · apply ih h.tail (by omega) _ hlt
        intro record hmem
        exact hother record (List.mem_cons_of_mem _ hmem)
      · rw [getElem?_foldl _ (by omega)]
        exact getElem?_padded hi (by omega)

/-- Where every value is at its number, distinct numbers increase. -/
theorem increasing_of_present {results : List SubDocResult} {records : List (UInt8 × Buffer)}
    (hdistinct : (records.map Prod.fst).Nodup)
    (hfree : forall record, record ∈ records ->
      results[record.1.toNat]? ≠ some (present record.2))
    (hpresent : forall record, record ∈ records ->
      (records.foldl pushRecord results)[record.1.toNat]? = some (present record.2)) :
    Increasing results records := by
  induction records generalizing results with
  | nil => exact ⟨fun _ h => absurd h List.not_mem_nil, List.Pairwise.nil⟩
  | cons first records ih =>
      rw [List.map_cons, List.nodup_cons] at hdistinct
      have hfirst : results.length ≤ first.1.toNat := by
        -- in front of the end the list is left as it is
        by_contra hlt
        have hstays := getElem?_foldl (first :: records) (Nat.lt_of_not_le hlt)
        exact hfree first List.mem_cons_self
          (hstays.symm.trans (hpresent first List.mem_cons_self))
      have htail : Increasing (pushRecord results first) records := by
        apply ih hdistinct.2
        · intro record hmem hsome
          have hne : record.1.toNat ≠ first.1.toNat := by
            intro heq
            apply hdistinct.1
            rw [← UInt8.toNat_inj.mp heq]
            exact List.mem_map_of_mem hmem
          have hlt := (List.getElem?_eq_some_iff.mp hsome).1
          rw [length_pushRecord_of_le hfirst] at hlt
          by_cases hold : record.1.toNat < results.length
          · rw [pushRecord_eq, List.getElem?_append_left hold] at hsome
            exact hfree record (List.mem_cons_of_mem _ hmem) hsome
          · rw [getElem?_padded (Nat.le_of_not_lt hold) (by omega)] at hsome
            cases hsome
        · intro record hmem
          exact hpresent record (List.mem_cons_of_mem _ hmem)
      refine ⟨?_, ?_⟩
      · intro record hmem
        rcases List.mem_cons.mp hmem with rfl | hmem
        · exact hfirst
        · have hle := htail.1 record hmem
          rw [length_pushRecord_of_le hfirst] at hle
          omega
      · rw [List.map_cons, List.pairwise_cons]
        refine ⟨?_, htail.2⟩
        intro opIndex hmem
        rcases List.mem_map.mp hmem with ⟨record, hrecord, rfl⟩
        have hle := htail.1 record hrecord
        rw [length_pushRecord_of_le hfirst] at hle
        exact UInt8.lt_iff_toNat_lt.mpr hle

/-!
# The length of the list
-/

/-- The length of a list after records with these numbers. -/
def filledLength : Nat -> List UInt8 -> Nat
  | len, [] => len
  | len, opIndex :: indexes =>
      filledLength (len + (opIndex.toNat - len % 256) + 1) indexes

theorem length_foldl (results : List SubDocResult) (records : List (UInt8 × Buffer)) :
    (records.foldl pushRecord results).length =
      filledLength results.length (records.map Prod.fst) := by
  induction records generalizing results with
  | nil => rfl
  | cons record records ih =>
      rw [List.foldl_cons, ih, pushRecord_eq, List.map_cons, filledLength]
      simp only [List.length_append, List.length_replicate, List.length_singleton, Nat.add_assoc]

/-- Each operation leaves room for itself and the records behind it. -/
def LeavesRoom (count : Nat) : List UInt8 -> Prop
  | [] => True
  | opIndex :: indexes => opIndex.toNat + 1 + indexes.length ≤ count ∧ LeavesRoom count indexes

theorem le_filledLength (len : Nat) (indexes : List UInt8) :
    len + indexes.length ≤ filledLength len indexes := by
  induction indexes generalizing len with
  | nil => exact Nat.le_refl _
  | cons opIndex indexes ih =>
      have hle := ih (len + (opIndex.toNat - len % 256) + 1)
      rw [filledLength, List.length_cons]
      omega

theorem filledLength_le_iff {count : Nat} (hcount : count < 256) (len : Nat)
    (indexes : List UInt8) :
    filledLength len indexes ≤ count <->
      len + indexes.length ≤ count ∧ LeavesRoom count indexes := by
  induction indexes generalizing len with
  | nil => exact (and_iff_left trivial).symm
  | cons opIndex indexes ih =>
      rw [filledLength, ih, LeavesRoom, List.length_cons]
      by_cases hlen : len < 256
      · rw [Nat.mod_eq_of_lt hlen]
        constructor
        · rintro ⟨hle, hroom⟩
          exact ⟨by omega, by omega, hroom⟩
        · rintro ⟨hle, hfirst, hroom⟩
          exact ⟨by omega, hroom⟩
      · refine iff_of_false ?_ ?_
        · rintro ⟨hle, _⟩
          omega
        · rintro ⟨hle, _⟩
          omega

/-- As many results as operations: a list of fewer than 256 must not be overrun, and one of more
operations is not filled up to their number. -/
def FillsExactly (count : Nat) (indexes : List UInt8) : Prop :=
  if count < 256 then LeavesRoom count indexes else filledLength 0 indexes = count

theorem fillsExactly_iff (count : Nat) (indexes : List UInt8) :
    filledLength 0 indexes + (count % 256 - filledLength 0 indexes) = count <->
      FillsExactly count indexes := by
  unfold FillsExactly
  by_cases hcount : count < 256
  · rw [if_pos hcount, Nat.mod_eq_of_lt hcount]
    have hle := filledLength_le_iff hcount 0 indexes
    have hlength : LeavesRoom count indexes -> 0 + indexes.length ≤ count := by
      intro hroom
      cases indexes with
      | nil => exact Nat.zero_le _
      | cons opIndex indexes =>
          have hfirst := hroom.1
          rw [List.length_cons]
          omega
    constructor
    · intro hsum
      exact (hle.mp (by omega)).2
    · intro hroom
      have hfits := hle.mpr ⟨hlength hroom, hroom⟩
      omega
  · rw [if_neg hcount]
    have hmod := Nat.mod_lt count (show 0 < 256 by decide)
    omega

end MutateInResponse
end Memdx
end CouchbaseSdk
