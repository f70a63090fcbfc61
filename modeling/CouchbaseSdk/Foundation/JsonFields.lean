import CouchbaseSdk.Foundation.JsonObject

/-!
# Objects whose fields may be left out

An object is written from its fields, each with a value or none, and only the fields with a value
are members.  A reader takes a field by its name, and takes nothing that is not there.
-/

namespace CouchbaseSdk
namespace Foundation
namespace JsonFields

open JsonRecord (readBool readString readUnsigned)
open JsonValue (get)

abbrev Fields := List (String × Option JsonValue)

/-- The members of the fields that have a value. -/
def present (fields : Fields) : List (String × JsonValue) :=
  fields.filterMap fun field => field.2.map fun v => (field.1, v)

def record (fields : Fields) : JsonValue :=
  .object (present fields)

/-- The names of the members. -/
def names : JsonValue -> List String
  | .object members => members.map Prod.fst
  | _ => []

/-!
# Finding
-/

theorem present_cons_none (name : String) (fields : Fields) :
    present ((name, none) :: fields) = present fields := rfl

theorem present_cons_some (name : String) (v : JsonValue) (fields : Fields) :
    present ((name, some v) :: fields) = (name, v) :: present fields := rfl

theorem mem_of_mem_present {fields : Fields} {name : String} {v : JsonValue}
    (h : (name, v) ∈ present fields) : (name, some v) ∈ fields := by
  rcases List.mem_filterMap.mp h with ⟨⟨name', value⟩, hmem, hfield⟩
  rcases Option.map_eq_some_iff.mp hfield with ⟨w, hvalue, heq⟩
  cases heq
  have hvalue' : value = some v := hvalue
  rw [hvalue'] at hmem
  exact hmem

/-- Only fields are members. -/
theorem names_record_subset (fields : Fields) :
    names (record fields) ⊆ fields.map Prod.fst := by
  intro name hname
  rcases List.mem_map.mp hname with ⟨⟨name', v⟩, hmem, rfl⟩
  exact List.mem_map.mpr ⟨_, mem_of_mem_present hmem, rfl⟩

/-- A field with a value is a member, and one without is none. -/
theorem mem_names_record {fields : Fields} {name : String} :
    name ∈ names (record fields) <->
      (name, true) ∈ fields.map fun field => (field.1, field.2.isSome) := by
  constructor
  · intro h
    rcases List.mem_map.mp h with ⟨⟨name', v⟩, hmem, rfl⟩
    exact List.mem_map.mpr ⟨_, mem_of_mem_present hmem, rfl⟩
  · intro h
    rcases List.mem_map.mp h with ⟨⟨name', value⟩, hmem, heq⟩
    rcases Prod.mk.inj heq with ⟨rfl, hsome⟩
    rcases Option.isSome_iff_exists.mp hsome with ⟨v, hv⟩
    have hvalue : value = some v := hv
    rw [hvalue] at hmem
    exact List.mem_map.mpr ⟨(name', v), List.mem_filterMap.mpr ⟨_, hmem, rfl⟩, rfl⟩

theorem lookup_present_eq_none {fields : Fields} {name : String}
    (h : name ∉ fields.map Prod.fst) : (present fields).lookup name = none := by
  rw [List.lookup_eq_none_iff]
  intro e he
  apply bne_iff_ne.mpr
  intro heq
  apply h
  rw [heq]
  exact List.mem_map.mpr ⟨(e.1, some e.2), mem_of_mem_present he, rfl⟩

/-- A member is found exactly where its field has a value. -/
theorem get_record {fields : Fields} (hnodup : (fields.map Prod.fst).Nodup) (name : String) :
    get name (record fields) = (fields.lookup name).join := by
  show (present fields).lookup name = (fields.lookup name).join
  induction fields with
  | nil => rfl
  | cons field fields ih =>
      rcases field with ⟨name', value⟩
      rw [List.map_cons, List.nodup_cons] at hnodup
      rw [List.lookup_cons]
      cases heq : name == name' with
      | true =>
          rw [beq_iff_eq] at heq
          cases heq
          cases value with
          | none =>
              rw [present_cons_none]
              exact lookup_present_eq_none hnodup.1
          | some v =>
              rw [present_cons_some, List.lookup_cons_self]
              rfl
      | false =>
          rw [← ih hnodup.2]
          cases value with
          | none => rfl
          | some v => rw [present_cons_some, List.lookup_cons, heq]

theorem nodup_present {fields : Fields} (h : (fields.map Prod.fst).Nodup) :
    ((present fields).map Prod.fst).Nodup := by
  have hsub : ((present fields).map Prod.fst).Sublist (fields.map Prod.fst) := by
    clear h
    induction fields with
    | nil => exact List.Sublist.refl _
    | cons field fields ih =>
        rcases field with ⟨name, value⟩
        cases value with
        | none => exact ih.trans (List.sublist_cons_self name _)
        | some v => exact ih.cons_cons name
  exact hsub.nodup h

/-!
# Reading
-/

variable {alpha : Type}

def requiredField (read : JsonValue -> Option alpha) (name : String) (v : JsonValue) : Option alpha :=
  (get name v).bind read

/-- A field may be left out, but there is no other way to have no value. -/
def optionalField (read : JsonValue -> Option alpha) (name : String) (v : JsonValue) :
    Option (Option alpha) :=
  match get name v with
  | none => some none
  | some w => (read w).map some

def readArray (read : JsonValue -> Option alpha) : JsonValue -> Option (List alpha)
  | .array items => items.mapM read
  | _ => none

theorem requiredField_of_get {read : JsonValue -> Option alpha} {name : String} {v w : JsonValue}
    {a : alpha} (hget : get name v = some w) (hread : read w = some a) :
    requiredField read name v = some a := by
  rw [requiredField, hget, Option.bind_some, hread]

theorem optionalField_of_get {read : JsonValue -> Option alpha} {write : alpha -> JsonValue}
    {name : String} {v : JsonValue} {o : Option alpha} (hget : get name v = o.map write)
    (hread : forall a, o = some a -> read (write a) = some a) : optionalField read name v = some o := by
  unfold optionalField
  rw [hget]
  cases o with
  | none => rfl
  | some a => simp [hread a rfl]

theorem mapM_map {read : JsonValue -> Option alpha} {write : alpha -> JsonValue}
    {items : List alpha} (h : forall a, a ∈ items -> read (write a) = some a) :
    (items.map write).mapM read = some items := by
  induction items with
  | nil => rfl
  | cons a items ih =>
      rw [List.map_cons, List.mapM_cons, h a List.mem_cons_self,
        ih fun b hb => h b (List.mem_cons_of_mem a hb)]
      rfl

theorem readUnsigned_ofNat {size n : Nat} (h : n < size) (ofNat : Nat -> alpha) :
    readUnsigned size ofNat (.ofNat n) = some (ofNat n) := by
  unfold readUnsigned
  rw [JsonValue.toNat_ofNat]
  exact if_pos h

theorem readUnsigned_u32 (n : UInt32) :
    readUnsigned (2 ^ 32) UInt32.ofNat (.ofNat n.toNat) = some n := by
  rw [readUnsigned_ofNat n.toNat_lt, UInt32.ofNat_toNat]

theorem readUnsigned_u64 (n : UInt64) :
    readUnsigned (2 ^ 64) UInt64.ofNat (.ofNat n.toNat) = some n := by
  rw [readUnsigned_ofNat n.toNat_lt, UInt64.ofNat_toNat]

/-!
# Records
-/

theorem filter_of_nodup {members : List (String × JsonValue)} (h : (members.map Prod.fst).Nodup)
    (name : String) :
    members.filter (fun e => e.1 == name) =
      (members.lookup name).toList.map fun v => (name, v) := by
  induction members with
  | nil => rfl
  | cons e members ih =>
      rcases e with ⟨name', v⟩
      rw [List.map_cons, List.nodup_cons] at h
      rw [List.filter_cons, List.lookup_cons, ih h.2]
      by_cases hname : name' = name
      · cases hname
        have hnone : members.lookup name = none := by
          rw [List.lookup_eq_none_iff]
          intro e he
          exact bne_iff_ne.mpr fun heq => h.1 (List.mem_map.mpr ⟨e, he, heq.symm⟩)
        rw [if_pos (beq_self_eq_true _), beq_self_eq_true, hnone]
        rfl
      · rw [if_neg (mt eq_of_beq hname), beq_eq_false_iff_ne.mpr (Ne.symm hname)]

/-- A record in which no field stands twice is read like an object. -/
theorem field_present {fields : Fields} (h : (fields.map Prod.fst).Nodup) (name : String) :
    JsonRecord.field name (present fields) = some (get name (record fields)) := by
  show JsonRecord.field name (present fields) = some ((present fields).lookup name)
  rw [JsonRecord.field, filter_of_nodup (nodup_present h)]
  cases (present fields).lookup name with
  | none => rfl
  | some v => rfl

theorem required_present {fields : Fields} (h : (fields.map Prod.fst).Nodup)
    {read : JsonValue -> Option alpha} {name : String} {w : JsonValue} {a : alpha}
    (hfield : fields.lookup name = some (some w)) (hread : read w = some a) :
    JsonRecord.required read name (present fields) = some a := by
  rw [JsonRecord.required, field_present h, get_record h, hfield]
  exact hread

theorem optional_present {fields : Fields} (h : (fields.map Prod.fst).Nodup)
    {read : JsonValue -> Option alpha} {name : String} {o : Option JsonValue} {p : Option alpha}
    (hfield : fields.lookup name = some o) (hnull : o ≠ some .null)
    (hread : o.map read = p.map some) :
    JsonRecord.optional read name (present fields) = some p := by
  rw [JsonRecord.optional, field_present h, get_record h, hfield]
  cases o with
  | none =>
      cases p with
      | none => rfl
      | some a => cases hread
  | some w =>
      cases p with
      | none => cases hread
      | some a =>
          have hw : read w = some a := Option.some.inj hread
          cases w with
          | null => exact absurd rfl hnull
          | bool b => exact congrArg (Option.map some) hw
          | number n => exact congrArg (Option.map some) hw
          | string s => exact congrArg (Option.map some) hw
          | array items => exact congrArg (Option.map some) hw
          | object members => exact congrArg (Option.map some) hw

/-!
# Floats
-/

/-- A finite float is written as a number that is read as the same float. -/
structure FloatText (float : Type) where
  write : float -> JsonNumber
  read : JsonNumber -> Option float
  read_write : forall x, read (write x) = some x

/-- The numbers themselves. -/
def FloatText.exact : FloatText JsonNumber where
  write := id
  read := some
  read_write := fun _ => rfl

variable {float : Type}

def FloatText.value (t : FloatText float) (x : float) : JsonValue :=
  .number (t.write x)

def FloatText.readValue (t : FloatText float) : JsonValue -> Option float
  | .number n => t.read n
  | _ => none

theorem FloatText.readValue_value (t : FloatText float) (x : float) :
    t.readValue (t.value x) = some x :=
  t.read_write x

end JsonFields
end Foundation
end CouchbaseSdk
