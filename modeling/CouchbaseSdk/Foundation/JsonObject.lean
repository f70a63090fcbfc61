import CouchbaseSdk.Foundation.JsonRoundTrip
import CouchbaseSdk.Foundation.JsonValue
import CouchbaseSdk.Foundation.Ordered

/-!
# Values below an object

What is found in a value along names, and values that are made for a list of names.
-/

namespace CouchbaseSdk
namespace Foundation
namespace JsonValue

/-- The value of a name, where there is an object. -/
def get (name : String) : JsonValue -> Option JsonValue
  | object members => members.lookup name
  | _ => none

/-- The value along names. -/
def getPath : List String -> JsonValue -> Option JsonValue
  | [], v => some v
  | name :: names, v => (get name v).bind (getPath names)

/-- Nothing is found below. -/
def IsLeaf (v : JsonValue) : Prop :=
  forall name, get name v = none

/-- One member in another, down to a value. -/
def nest (names : List String) (v : JsonValue) : JsonValue :=
  names.foldr (fun name v => object [(name, v)]) v

/-!
# Finding
-/

theorem get_object (name : String) (members : List (String × JsonValue)) :
    get name (object members) = members.lookup name := rfl

theorem getPath_cons (name : String) (names : List String) (v : JsonValue) :
    getPath (name :: names) v = (get name v).bind (getPath names) := rfl

theorem getPath_append (names more : List String) (v : JsonValue) :
    getPath (names ++ more) v = (getPath names v).bind (getPath more) := by
  induction names generalizing v with
  | nil => rfl
  | cons name names ih =>
      rw [List.cons_append, getPath_cons, getPath_cons]
      cases get name v with
      | none => rfl
      | some child => exact ih child

theorem get_single_self (name : String) (v : JsonValue) : get name (object [(name, v)]) = some v :=
  List.lookup_cons_self

theorem get_single_ne {name other : String} (h : name ≠ other) (v : JsonValue) :
    get name (object [(other, v)]) = none :=
  Ordered.lookup_cons_ne h v []

theorem getPath_nest (names more : List String) (v : JsonValue) :
    getPath (names ++ more) (nest names v) = getPath more v := by
  induction names with
  | nil => rfl
  | cons name names ih =>
      have hget : get name (nest (name :: names) v) = some (nest names v) := get_single_self name _
      rw [List.cons_append, getPath_cons, hget]
      exact ih

/-- What is found along the names of a nested value is above its value or below it. -/
theorem prefix_of_getPath_nest {names path : List String} {v found : JsonValue}
    (h : getPath path (nest names v) = some found) : path <+: names ∨ names <+: path := by
  induction names generalizing path with
  | nil => exact Or.inr List.nil_prefix
  | cons name names ih =>
      cases path with
      | nil => exact Or.inl List.nil_prefix
      | cons other path =>
          by_cases hname : other = name
          · rw [hname] at h
            rw [hname, List.prefix_cons_inj, List.prefix_cons_inj]
            have hget : get name (nest (name :: names) v) = some (nest names v) :=
              get_single_self name _
            rw [getPath_cons, hget] at h
            exact ih h
          · have hget : get other (nest (name :: names) v) = none := get_single_ne hname _
            rw [getPath_cons, hget] at h
            cases h

/-- There is a leaf below every value. -/
theorem exists_leaf : (v : JsonValue) ->
    exists path leaf, getPath path v = some leaf ∧ IsLeaf leaf
  | null => ⟨[], null, rfl, fun _ => rfl⟩
  | bool b => ⟨[], bool b, rfl, fun _ => rfl⟩
  | number n => ⟨[], number n, rfl, fun _ => rfl⟩
  | string s => ⟨[], string s, rfl, fun _ => rfl⟩
  | array items => ⟨[], array items, rfl, fun _ => rfl⟩
  | object [] => ⟨[], object [], rfl, fun _ => rfl⟩
  | object ((name, child) :: members) => by
      rcases exists_leaf child with ⟨path, leaf, hpath, hleaf⟩
      have hget : get name (object ((name, child) :: members)) = some child :=
        List.lookup_cons_self
      refine ⟨name :: path, leaf, ?_, hleaf⟩
      rw [getPath_cons, hget]
      exact hpath

end JsonValue
end Foundation
end CouchbaseSdk

/-!
# Records as JSON values

A record is an object with its fields as members, or an array with its fields in order.  A
field stands once at most, and members that are no fields are skipped.
-/

namespace CouchbaseSdk
namespace Foundation

/-- The names of the fields, and how many of them an array has to give. -/
structure RecordShape where
  fields : List String
  needed : Nat

namespace JsonRecord

abbrev Members := List (String × JsonValue)

def members (shape : RecordShape) : JsonValue -> Option Members
  | .object members => some members
  | .array items =>
      if shape.needed ≤ items.length ∧ items.length ≤ shape.fields.length then
        some (shape.fields.zip items)
      else none
  | _ => none

/-- The value of a field, if the record has it; a record with two has none. -/
def field (name : String) (members : Members) : Option (Option JsonValue) :=
  match members.filter fun e => e.1 == name with
  | [] => some none
  | [e] => some (some e.2)
  | _ => none

def required (read : JsonValue -> Option alpha) (name : String) (members : Members) :
    Option alpha :=
  match field name members with
  | some (some v) => read v
  | _ => none

/-- A field that is missing or null has no value. -/
def optional (read : JsonValue -> Option alpha) (name : String) (members : Members) :
    Option (Option alpha) :=
  match field name members with
  | some none => some none
  | some (some .null) => some none
  | some (some v) => (read v).map some
  | none => none

/-- What the record gives under the name. -/
def given (shape : RecordShape) (v : JsonValue) (name : String) : Option JsonValue :=
  match (members shape v).bind (field name) with
  | some (some .null) => none
  | some f => f
  | none => none

/-!
# Values of fields
-/

def readString : JsonValue -> Option String
  | .string s => some s
  | _ => none

def readBool : JsonValue -> Option Bool
  | .bool b => some b
  | _ => none

/-- A number of an unsigned type with so many values. -/
def readUnsigned (size : Nat) (ofNat : Nat -> alpha) (v : JsonValue) : Option alpha :=
  match v.toNat with
  | some n => if n < size then some (ofNat n) else none
  | none => none

variable {alpha : Type} {shape : RecordShape} {v : JsonValue} {ms : Members} {name : String}
  {read : JsonValue -> Option alpha}

theorem given_of_required {a : alpha} (hmembers : members shape v = some ms)
    (hnull : read .null = none) (h : required read name ms = some a) :
    exists w, given shape v name = some w ∧ read w = some a := by
  unfold required at h
  unfold given
  rw [hmembers, Option.bind_some]
  split at h
  · rename_i w hfield
    rw [hfield]
    refine ⟨w, ?_, h⟩
    cases w with
    | null =>
        rw [hnull] at h
        cases h
    | bool => rfl
    | number => rfl
    | string => rfl
    | array => rfl
    | object => rfl
  · cases h

/-- An optional field is read from what the record gives, and only from it. -/
theorem optional_eq {o : Option alpha} (hmembers : members shape v = some ms)
    (h : optional read name ms = some o) :
    (given shape v name = none ∧ o = none) ∨
      exists w a, given shape v name = some w ∧ read w = some a ∧ o = some a := by
  unfold optional at h
  unfold given
  rw [hmembers, Option.bind_some]
  split at h
  · rename_i hfield
    rw [hfield]
    exact Or.inl ⟨rfl, (Option.some.inj h).symm⟩
  · rename_i hfield
    rw [hfield]
    exact Or.inl ⟨rfl, (Option.some.inj h).symm⟩
  · rename_i w hnot hfield
    rw [hfield]
    rcases Option.map_eq_some_iff.mp h with ⟨a, hread, ho⟩
    refine Or.inr ⟨w, a, ?_, hread, ho.symm⟩
    cases w with
    | null => exact absurd rfl hnot
    | bool => rfl
    | number => rfl
    | string => rfl
    | array => rfl
    | object => rfl
  · cases h

theorem readUnsigned_eq {size : Nat} {ofNat : Nat -> alpha} {a : alpha}
    (h : readUnsigned size ofNat v = some a) :
    exists n, v.toNat = some n ∧ n < size ∧ ofNat n = a := by
  unfold readUnsigned at h
  split at h
  · rename_i n hn
    by_cases hlt : n < size
    · rw [if_pos hlt] at h
      exact ⟨n, hn, hlt, Option.some.inj h⟩
    · rw [if_neg hlt] at h
      cases h
  · cases h

end JsonRecord
end Foundation
end CouchbaseSdk
