import CouchbaseSdk.Foundation.Bytes

/-!
# Records

A sequence of records, one after the other in a buffer: written from the front of a buffer that
has been reserved for them, and read off the front until nothing is left.
-/

namespace CouchbaseSdk
namespace Foundation
namespace Records

variable {error record : Type} {items : List record} {encode : record -> Buffer}

/-!
# Writing
-/

/-- Each record is written where the one before it ends. -/
def write (writeOne : Nat -> record -> Buffer -> Exec error Buffer) (size : record -> Nat) :
    Nat -> List record -> Buffer -> Exec error Buffer
  | _, [], buf => .ok buf
  | start, item :: items, buf =>
      writeOne start item buf >>= write writeOne size (start + size item) items

def totalSize (size : record -> Nat) (items : List record) : Nat :=
  (items.map size).sum

/-- The bytes of one record go where they belong, and nothing else changes. -/
def Writes (writeOne : Nat -> record -> Buffer -> Exec error Buffer)
    (encode : record -> Buffer) : Prop :=
  forall item pre tail, (encode item).length ≤ tail.length ->
    writeOne pre.length item (pre ++ tail) =
      .ok (pre ++ encode item ++ tail.drop (encode item).length)

variable {writeOne : Nat -> record -> Buffer -> Exec error Buffer} {size : record -> Nat}

theorem write_append (hwrites : Writes writeOne encode)
    (hsize : forall item, size item = (encode item).length) {pre tail : Buffer}
    (h : totalSize size items ≤ tail.length) :
    write writeOne size pre.length items (pre ++ tail) =
      .ok (pre ++ items.flatMap encode ++ tail.drop (totalSize size items)) := by
  induction items generalizing pre tail with
  | nil => simp [write, totalSize]
  | cons item items ih =>
      have hcons : totalSize size (item :: items) = size item + totalSize size items := by
        simp [totalSize]
      rw [hcons] at h
      have hroom : (encode item).length ≤ tail.length := by
        rw [← hsize item]
        exact Nat.le_trans (Nat.le_add_right _ _) h
      have hrest : totalSize size items ≤ (tail.drop (size item)).length := by
        rw [List.length_drop]
        omega
      have hoffset : pre.length + size item = (pre ++ encode item).length := by
        rw [List.length_append, hsize item]
      rw [write, hwrites item pre tail hroom, Exec.ok_bind, hoffset, ← hsize item, ih hrest, hcons,
        List.drop_drop]
      simp

/-- The records fill a buffer of their size. -/
theorem write_reserved (hwrites : Writes writeOne encode)
    (hsize : forall item, size item = (encode item).length) (items : List record) (b : UInt8) :
    write writeOne size 0 items (List.replicate (totalSize size items) b) =
      .ok (items.flatMap encode) := by
  have hlength : (List.replicate (totalSize size items) b).length = totalSize size items :=
    List.length_replicate
  have hwrite := @write_append error record items encode writeOne size hwrites hsize []
    (List.replicate (totalSize size items) b) (Nat.le_of_eq hlength.symm)
  rw [List.drop_eq_nil_of_le (Nat.le_of_eq hlength), List.append_nil] at hwrite
  exact hwrite

/-!
# Reading
-/

/-- The records that are read off, up to the end. -/
inductive Reads (readOne : Buffer -> Option (record × Buffer)) : Buffer -> List record -> Prop where
  | nil : Reads readOne [] []
  | cons {buf rest : Buffer} {items : List record} (item : record) :
      readOne buf = some (item, rest) -> Reads readOne rest items ->
        Reads readOne buf (item :: items)

variable {readOne : Buffer -> Option (record × Buffer)}

theorem reads_flatMap
    (h : forall item, item ∈ items -> forall rest,
      readOne (encode item ++ rest) = some (item, rest)) :
    Reads readOne (items.flatMap encode) items := by
  induction items with
  | nil => exact Reads.nil
  | cons item items ih =>
      rw [List.flatMap_cons]
      apply Reads.cons item (h item List.mem_cons_self _)
      exact ih fun other hmem => h other (List.mem_cons_of_mem _ hmem)

/-- What holds of everything that is read off holds of all the records. -/
theorem forall_of_reads {P : record -> Prop} {buf : Buffer}
    (hread : forall buf item rest, readOne buf = some (item, rest) -> P item)
    (h : Reads readOne buf items) : forall item, item ∈ items -> P item := by
  induction h with
  | nil => exact nofun
  | cons item hhead hrest ih => exact List.forall_mem_cons.mpr ⟨hread _ item _ hhead, ih⟩

/-!
# Loops over records

A loop reads a record and does something with it, up to the end of the buffer or the first record
that fails.  The fuel is the length of the buffer.
-/

section Loops

variable {state : Type} {readRecord : Buffer -> Except error (record × Buffer)}
  {next : state -> record -> Exec error state}

def loop (readRecord : Buffer -> Except error (record × Buffer))
    (next : state -> record -> Exec error state) : Nat -> state -> Buffer -> Exec error state
  | _, s, [] => .ok s
  | 0, s, _ :: _ => .ok s
  | fuel + 1, s, b :: buf =>
      match readRecord (b :: buf) with
      | .error e => .err e
      | .ok (item, rest) => next s item >>= fun t => loop readRecord next fuel t rest

/-- The records in front, and whether there is something else behind them. -/
def front (readRecord : Buffer -> Except error (record × Buffer)) :
    Nat -> Buffer -> List record × Except error Unit
  | _, [] => ([], .ok ())
  | 0, _ :: _ => ([], .ok ())
  | fuel + 1, b :: buf =>
      match readRecord (b :: buf) with
      | .error e => ([], .error e)
      | .ok (item, rest) =>
          let behind := front readRecord fuel rest
          (item :: behind.1, behind.2)

/-- What a loop does with the records. -/
def through (next : state -> record -> Exec error state) : state -> List record ->
    Exec error state
  | s, [] => .ok s
  | s, item :: items => next s item >>= fun t => through next t items

/-- Where nothing fails, the records are folded. -/
theorem through_ok (f : state -> record -> state) (s : state) (items : List record) :
    through (fun s item => (.ok (f s item) : Exec error state)) s items =
      .ok (items.foldl f s) := by
  induction items generalizing s with
  | nil => rfl
  | cons item items ih => exact ih (f s item)

/-- A loop goes through the records in front, and then fails if something else is behind. -/
theorem loop_eq_through (fuel : Nat) (s : state) (buf : Buffer) :
    loop readRecord next fuel s buf =
      through next s (front readRecord fuel buf).1 >>= fun t =>
        (Exec.ofExcept (front readRecord fuel buf).2).map fun _ => t := by
  induction fuel generalizing s buf with
  | zero =>
      cases buf with
      | nil => rfl
      | cons b buf => rfl
  | succ fuel ih =>
      cases buf with
      | nil => rfl
      | cons b buf =>
          rw [loop, front]
          cases hread : readRecord (b :: buf) with
          | error e => rfl
          | ok p =>
              dsimp only
              rw [through]
              cases next s p.1 with
              | ok t =>
                  rw [Exec.ok_bind, Exec.ok_bind]
                  exact ih t p.2
              | err e => rfl
              | panic => rfl

/-- Each record takes a byte at least. -/
def Shrinks (readRecord : Buffer -> Except error (record × Buffer)) : Prop :=
  forall buf item rest, readRecord buf = .ok (item, rest) -> rest.length < buf.length

theorem readRecord_some {buf rest : Buffer} {item : record}
    (h : (readRecord buf).toOption = some (item, rest)) : readRecord buf = .ok (item, rest) := by
  cases hread : readRecord buf with
  | error e =>
      rw [hread] at h
      cases h
  | ok p =>
      rw [hread] at h
      cases h
      rfl

/-- The records that fill a buffer are those in front. -/
theorem front_of_reads (hshrinks : Shrinks readRecord) {buf : Buffer} {fuel : Nat}
    (h : Reads (fun buf => (readRecord buf).toOption) buf items) (hfuel : buf.length ≤ fuel) :
    front readRecord fuel buf = (items, .ok ()) := by
  induction h generalizing fuel with
  | nil =>
      cases fuel with
      | zero => rfl
      | succ fuel => rfl
  | @cons buf rest items item hhead hrest ih =>
      have hread := readRecord_some hhead
      have hless := hshrinks buf item rest hread
      cases buf with
      | nil =>
          rw [List.length_nil] at hless
          omega
      | cons b buf =>
          cases fuel with
          | zero =>
              rw [List.length_cons] at hfuel
              omega
          | succ fuel =>
              rw [front, hread]
              dsimp only
              rw [ih (by omega)]

/-- Where nothing else is behind them, the records in front fill the buffer. -/
theorem reads_front (hshrinks : Shrinks readRecord) {buf : Buffer} {fuel : Nat}
    (h : (front readRecord fuel buf).2 = .ok ()) (hfuel : buf.length ≤ fuel) :
    Reads (fun buf => (readRecord buf).toOption) buf (front readRecord fuel buf).1 := by
  induction fuel generalizing buf with
  | zero =>
      cases buf with
      | nil => exact Reads.nil
      | cons b buf =>
          rw [List.length_cons] at hfuel
          omega
  | succ fuel ih =>
      cases buf with
      | nil => exact Reads.nil
      | cons b buf =>
          rw [front] at h ⊢
          cases hread : readRecord (b :: buf) with
          | error e =>
              rw [hread] at h
              cases h
          | ok p =>
              rw [hread] at h
              have hless := hshrinks _ p.1 p.2 hread
              dsimp only at h ⊢
              apply Reads.cons p.1 (by rw [hread]; rfl)
              exact ih h (by omega)

end Loops

end Records
end Foundation
end CouchbaseSdk
