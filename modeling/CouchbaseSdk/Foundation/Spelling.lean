import Mathlib.Logic.Basic

/-!
# Spelled constants

The constants of a type are written as texts, and a text that is none of theirs is kept
as it is.
-/

namespace CouchbaseSdk
namespace Foundation

/-- A text for each constant, and the constants of the texts that are read. -/
structure Spelling (constant : Type) where
  text : constant -> String
  table : List (String × constant)
  spells : forall e, e ∈ table -> text e.2 = e.1

/-- A constant, or a text that spells none. -/
inductive Enumerated (constant : Type) where
  | known (k : constant)
  | other (val : String)
deriving DecidableEq, Repr

namespace Spelling

variable {constant : Type} (spelling : Spelling constant)

def read (s : String) : Enumerated constant :=
  match spelling.table.lookup s with
  | some k => .known k
  | none => .other s

/-- The text is one of those that are read as constants. -/
def Known (s : String) : Prop :=
  (spelling.table.lookup s).isSome

instance decidableKnown (s : String) : Decidable (spelling.Known s) :=
  inferInstanceAs (Decidable ((spelling.table.lookup s).isSome = true))

/-- A known text is read as a constant that is written as the text. -/
theorem read_known {s : String} (h : spelling.Known s) :
    exists k, spelling.read s = .known k ∧ spelling.text k = s := by
  rcases Option.isSome_iff_exists.mp h with ⟨k, hk⟩
  have hmem : (s, k) ∈ spelling.table := by
    rcases List.lookup_eq_some_iff.mp hk with ⟨front, back, htable, hfront⟩
    rw [htable]
    exact List.mem_append_right _ List.mem_cons_self
  exact ⟨k, by rw [read, hk], spelling.spells (s, k) hmem⟩

theorem read_unknown {s : String} (h : ¬ spelling.Known s) : spelling.read s = .other s := by
  have hnone : spelling.table.lookup s = none := Option.not_isSome_iff_eq_none.mp h
  rw [read, hnone]

end Spelling
end Foundation
end CouchbaseSdk
