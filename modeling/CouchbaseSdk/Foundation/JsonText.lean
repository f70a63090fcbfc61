import CouchbaseSdk.Foundation.Bytes

/-!
# JSON texts

The grammar of JSON over bytes.  An element and a member keep the blanks around them, so a
text determines nothing more than the grammar does, and the pieces of a text can be named.
-/

namespace CouchbaseSdk
namespace Foundation
namespace Json

/-!
# Characters
-/

abbrev beginArray : UInt8 := 0x5b
abbrev endArray : UInt8 := 0x5d
abbrev beginObject : UInt8 := 0x7b
abbrev endObject : UInt8 := 0x7d
abbrev nameSeparator : UInt8 := 0x3a
abbrev valueSeparator : UInt8 := 0x2c
abbrev quotationMark : UInt8 := 0x22
abbrev reverseSolidus : UInt8 := 0x5c
abbrev minus : UInt8 := 0x2d
abbrev plus : UInt8 := 0x2b
abbrev decimalPoint : UInt8 := 0x2e
abbrev zero : UInt8 := 0x30

def isBlank (c : UInt8) : Bool :=
  c == 0x20 || c == 0x09 || c == 0x0a || c == 0x0d

def isDigit (c : UInt8) : Bool :=
  0x30 ≤ c && c ≤ 0x39

def isHexDigit (c : UInt8) : Bool :=
  isDigit c || (0x41 ≤ c && c ≤ 0x46) || (0x61 ≤ c && c ≤ 0x66)

/-- The characters that stand for themselves or for a control character after a reverse
solidus: `b f n r t \ / "`. -/
def escapable : List UInt8 := [0x62, 0x66, 0x6e, 0x72, 0x74, 0x5c, 0x2f, 0x22]

/-- A text of insignificant whitespace. -/
def Blank (w : Buffer) : Prop := forall c, c ∈ w -> isBlank c = true

def Digits (ds : Buffer) : Prop := forall d, d ∈ ds -> isDigit d = true

def trueText : Buffer := [0x74, 0x72, 0x75, 0x65]
def falseText : Buffer := [0x66, 0x61, 0x6c, 0x73, 0x65]
def nullText : Buffer := [0x6e, 0x75, 0x6c, 0x6c]

theorem digit_cases {c : UInt8} (h : isDigit c = true) :
    c = 0x30 ∨ c = 0x31 ∨ c = 0x32 ∨ c = 0x33 ∨ c = 0x34 ∨ c = 0x35 ∨ c = 0x36 ∨ c = 0x37 ∨
      c = 0x38 ∨ c = 0x39 := by
  simp [isDigit, UInt8.le_iff_toNat_le, ← UInt8.toNat_inj] at *
  omega

theorem blank_cases {c : UInt8} (h : isBlank c = true) :
    c = 0x20 ∨ c = 0x09 ∨ c = 0x0a ∨ c = 0x0d := by
  simpa [isBlank, or_assoc] using h

theorem Blank.nil : Blank [] := fun _ h => by cases h

theorem Blank.tail {c : UInt8} {w : Buffer} (h : Blank (c :: w)) : Blank w :=
  fun b hb => h b (List.mem_cons_of_mem _ hb)

theorem Blank.head {c : UInt8} {w : Buffer} (h : Blank (c :: w)) : isBlank c = true :=
  h c List.mem_cons_self

theorem Digits.nil : Digits [] := fun _ h => by cases h

theorem Digits.tail {c : UInt8} {ds : Buffer} (h : Digits (c :: ds)) : Digits ds :=
  fun b hb => h b (List.mem_cons_of_mem _ hb)

theorem Digits.head {c : UInt8} {ds : Buffer} (h : Digits (c :: ds)) : isDigit c = true :=
  h c List.mem_cons_self

/-!
# Strings and numbers
-/

inductive StringChars : Buffer -> Prop where
  | nil : StringChars []
  | plain {c : UInt8} {rest : Buffer} (hquote : c ≠ quotationMark)
      (hescape : c ≠ reverseSolidus) (hcontrol : 0x20 ≤ c) (h : StringChars rest) :
      StringChars (c :: rest)
  | escaped {c : UInt8} {rest : Buffer} (hc : c ∈ escapable) (h : StringChars rest) :
      StringChars (reverseSolidus :: c :: rest)
  | unicode {a b c d : UInt8} {rest : Buffer} (ha : isHexDigit a = true)
      (hb : isHexDigit b = true) (hc : isHexDigit c = true) (hd : isHexDigit d = true)
      (h : StringChars rest) :
      StringChars (reverseSolidus :: 0x75 :: a :: b :: c :: d :: rest)

inductive StringText : Buffer -> Prop where
  | quoted {chars : Buffer} (h : StringChars chars) :
      StringText (quotationMark :: (chars ++ [quotationMark]))

inductive IntegerText : Buffer -> Prop where
  | zero : IntegerText [zero]
  | digits {d : UInt8} {ds : Buffer} (hd : isDigit d = true) (hzero : d ≠ zero)
      (hds : Digits ds) : IntegerText (d :: ds)

inductive FractionText : Buffer -> Prop where
  | absent : FractionText []
  | digits {d : UInt8} {ds : Buffer} (hd : isDigit d = true) (hds : Digits ds) :
      FractionText (decimalPoint :: d :: ds)

inductive ExponentText : Buffer -> Prop where
  | absent : ExponentText []
  | digits {e d : UInt8} {sign ds : Buffer} (he : e = 0x65 ∨ e = 0x45)
      (hsign : sign = [] ∨ sign = [plus] ∨ sign = [minus]) (hd : isDigit d = true)
      (hds : Digits ds) : ExponentText (e :: (sign ++ d :: ds))

inductive NumberText : Buffer -> Prop where
  | parts {sign integer fraction exponent : Buffer} (hsign : sign = [] ∨ sign = [minus])
      (hinteger : IntegerText integer) (hfraction : FractionText fraction)
      (hexponent : ExponentText exponent) :
      NumberText (sign ++ (integer ++ (fraction ++ exponent)))

/-!
# Values
-/

/-- An element of an array, with the blanks around it. -/
structure Element where
  lead : Buffer
  text : Buffer
  trail : Buffer
deriving DecidableEq, Repr

/-- A member of an object, with the blanks around its key and its value. -/
structure Member where
  lead : Buffer
  key : Buffer
  beforeColon : Buffer
  afterColon : Buffer
  text : Buffer
  trail : Buffer
deriving DecidableEq, Repr

namespace Element

def whole (e : Element) : Buffer := e.lead ++ (e.text ++ e.trail)

def Spaced (e : Element) : Prop := Blank e.lead ∧ Blank e.trail

end Element

namespace Member

def whole (m : Member) : Buffer :=
  m.lead ++ (m.key ++ (m.beforeColon ++ nameSeparator :: (m.afterColon ++ (m.text ++ m.trail))))

def Spaced (m : Member) : Prop :=
  Blank m.lead ∧ Blank m.beforeColon ∧ Blank m.afterColon ∧ Blank m.trail

end Member

/-- Items after the first, each with the comma before it. -/
def following {item : Type} (whole : item -> Buffer) : List item -> Buffer
  | [] => []
  | i :: items => valueSeparator :: (whole i ++ following whole items)

/-- What stands between the brackets of a list of items. -/
inductive Inside {item : Type} (whole : item -> Buffer) : List item -> Buffer -> Prop where
  | blank {w : Buffer} (h : Blank w) : Inside whole [] w
  | items (i : item) (items : List item) :
      Inside whole (i :: items) (whole i ++ following whole items)

/-- The values that have no parts. -/
inductive Scalar : Buffer -> Prop where
  | string {t : Buffer} (h : StringText t) : Scalar t
  | number {t : Buffer} (h : NumberText t) : Scalar t
  | true : Scalar trueText
  | false : Scalar falseText
  | null : Scalar nullText

inductive Value : Buffer -> Prop where
  | scalar {t : Buffer} (h : Scalar t) : Value t
  | array {elements : List Element} {inside : Buffer}
      (hinside : Inside Element.whole elements inside)
      (hspaced : forall e, e ∈ elements -> e.Spaced)
      (hvalue : forall e, e ∈ elements -> Value e.text) :
      Value (beginArray :: (inside ++ [endArray]))
  | object {members : List Member} {inside : Buffer}
      (hinside : Inside Member.whole members inside)
      (hspaced : forall m, m ∈ members -> m.Spaced)
      (hkey : forall m, m ∈ members -> StringText m.key)
      (hvalue : forall m, m ∈ members -> Value m.text) :
      Value (beginObject :: (inside ++ [endObject]))

/-- The arrays and the objects. -/
inductive Container : Buffer -> Prop where
  | array {es : List Element} {inside : Buffer} (hinside : Inside Element.whole es inside)
      (hspaced : forall e, e ∈ es -> e.Spaced) (hvalue : forall e, e ∈ es -> Value e.text) :
      Container (beginArray :: (inside ++ [endArray]))
  | object {ms : List Member} {inside : Buffer} (hinside : Inside Member.whole ms inside)
      (hspaced : forall m, m ∈ ms -> m.Spaced) (hkey : forall m, m ∈ ms -> StringText m.key)
      (hvalue : forall m, m ∈ ms -> Value m.text) :
      Container (beginObject :: (inside ++ [endObject]))

theorem Value.scalar_or_container {t : Buffer} (h : Value t) : Scalar t ∨ Container t := by
  cases h with
  | scalar h => exact Or.inl h
  | array hinside hspaced hvalue => exact Or.inr (.array hinside hspaced hvalue)
  | object hinside hspaced hkey hvalue => exact Or.inr (.object hinside hspaced hkey hvalue)

/-!
# The ends of a value
-/

theorem IntegerText.head {t : Buffer} (h : IntegerText t) :
    exists d ds, t = d :: ds ∧ isDigit d = true := by
  cases h with
  | zero => exact ⟨_, _, rfl, rfl⟩
  | digits hd _ _ => exact ⟨_, _, rfl, hd⟩

/-- The bytes that a value begins with. -/
inductive Opens : UInt8 -> Prop where
  | quotationMark : Opens quotationMark
  | minus : Opens minus
  | digit {d : UInt8} (hd : isDigit d = true) : Opens d
  | t : Opens 0x74
  | f : Opens 0x66
  | n : Opens 0x6e
  | beginArray : Opens beginArray
  | beginObject : Opens beginObject

/-- The bytes that a scalar begins with, other than digits. -/
def scalarSigns : List UInt8 := [quotationMark, minus, 0x74, 0x66, 0x6e]

theorem scalar_first {t : Buffer} (h : Scalar t) :
    exists c rest, t = c :: rest ∧ (isDigit c = true ∨ c ∈ scalarSigns) := by
  cases h with
  | string h =>
      cases h with
      | quoted _ => exact ⟨_, _, rfl, Or.inr (by decide)⟩
  | number h =>
      cases h with
      | parts hsign hinteger _ _ =>
          rcases hinteger.head with ⟨d, ds, rfl, hd⟩
          rcases hsign with rfl | rfl
          · exact ⟨_, _, rfl, Or.inl hd⟩
          · exact ⟨_, _, rfl, Or.inr (by decide)⟩
  | true => exact ⟨_, _, rfl, Or.inr (by decide)⟩
  | false => exact ⟨_, _, rfl, Or.inr (by decide)⟩
  | null => exact ⟨_, _, rfl, Or.inr (by decide)⟩

theorem scalarSign_cases {c : UInt8} (h : c ∈ scalarSigns) :
    c = quotationMark ∨ c = minus ∨ c = 0x74 ∨ c = 0x66 ∨ c = 0x6e := by
  simpa [scalarSigns] using h

theorem Scalar.head {t : Buffer} (h : Scalar t) : exists c rest, t = c :: rest ∧ Opens c := by
  rcases scalar_first h with ⟨c, rest, heq, hdigit | hsign⟩
  · exact ⟨c, rest, heq, .digit hdigit⟩
  · refine ⟨c, rest, heq, ?_⟩
    rcases scalarSign_cases hsign with rfl | rfl | rfl | rfl | rfl
    · exact .quotationMark
    · exact .minus
    · exact .t
    · exact .f
    · exact .n

/-- An object is no scalar. -/
theorem not_scalar_object (t : Buffer) : ¬ Scalar (beginObject :: t) := by
  intro h
  rcases scalar_first h with ⟨c, rest, heq, hc⟩
  rcases List.cons_eq_cons.mp heq with ⟨rfl, _⟩
  revert hc
  decide

theorem Value.head {t : Buffer} (h : Value t) : exists c rest, t = c :: rest ∧ Opens c := by
  cases h with
  | scalar h => exact h.head
  | array => exact ⟨_, _, rfl, .beginArray⟩
  | object => exact ⟨_, _, rfl, .beginObject⟩

/-- The bytes that a value ends with. -/
inductive Shuts : UInt8 -> Prop where
  | quotationMark : Shuts quotationMark
  | digit {d : UInt8} (hd : isDigit d = true) : Shuts d
  | e : Shuts 0x65
  | l : Shuts 0x6c
  | endArray : Shuts endArray
  | endObject : Shuts endObject

theorem Digits.last {d : UInt8} {ds : Buffer} (hd : isDigit d = true) (hds : Digits ds) :
    exists front c, d :: ds = front ++ [c] ∧ isDigit c = true := by
  induction ds generalizing d with
  | nil => exact ⟨[], d, rfl, hd⟩
  | cons c ds ih =>
      rcases ih hds.head hds.tail with ⟨front, last, heq, hlast⟩
      exact ⟨d :: front, last, by rw [heq, List.cons_append], hlast⟩

theorem IntegerText.last {t : Buffer} (h : IntegerText t) :
    exists front c, t = front ++ [c] ∧ isDigit c = true := by
  cases h with
  | zero => exact ⟨[], _, rfl, rfl⟩
  | digits hd _ hds => exact Digits.last hd hds

/-- What may be left out ends with a digit where it is there. -/
theorem FractionText.last {t : Buffer} (h : FractionText t) :
    t = [] ∨ exists front c, t = front ++ [c] ∧ isDigit c = true := by
  cases h with
  | absent => exact Or.inl rfl
  | digits hd hds =>
      rcases Digits.last hd hds with ⟨front, c, heq, hc⟩
      rw [heq]
      exact Or.inr ⟨decimalPoint :: front, c, rfl, hc⟩

theorem ExponentText.last {t : Buffer} (h : ExponentText t) :
    t = [] ∨ exists front c, t = front ++ [c] ∧ isDigit c = true := by
  cases h with
  | absent => exact Or.inl rfl
  | @digits e d sign ds _ _ hd hds =>
      rcases Digits.last hd hds with ⟨front, c, heq, hc⟩
      rw [heq]
      exact Or.inr ⟨e :: (sign ++ front), c, by simp, hc⟩

theorem NumberText.last {t : Buffer} (h : NumberText t) :
    exists front c, t = front ++ [c] ∧ isDigit c = true := by
  cases h with
  | @parts sign integer fraction exponent _ hinteger hfraction hexponent =>
      rcases hexponent.last with rfl | ⟨front, c, rfl, hc⟩
      · rcases hfraction.last with rfl | ⟨front, c, rfl, hc⟩
        · rcases hinteger.last with ⟨front, c, rfl, hc⟩
          exact ⟨sign ++ front, c, by simp, hc⟩
        · exact ⟨sign ++ (integer ++ front), c, by simp, hc⟩
      · exact ⟨sign ++ (integer ++ (fraction ++ front)), c, by simp, hc⟩

theorem Value.last {t : Buffer} (h : Value t) :
    exists front c, t = front ++ [c] ∧ Shuts c := by
  cases h with
  | scalar h =>
      cases h with
      | string h =>
          cases h with
          | @quoted chars _ => exact ⟨quotationMark :: chars, _, rfl, .quotationMark⟩
      | number h =>
          rcases h.last with ⟨front, c, rfl, hc⟩
          exact ⟨front, c, rfl, .digit hc⟩
      | true => exact ⟨[0x74, 0x72, 0x75], _, rfl, .e⟩
      | false => exact ⟨[0x66, 0x61, 0x6c, 0x73], _, rfl, .e⟩
      | null => exact ⟨[0x6e, 0x75, 0x6c], _, rfl, .l⟩
  | @array _ inside => exact ⟨beginArray :: inside, _, rfl, .endArray⟩
  | @object _ inside => exact ⟨beginObject :: inside, _, rfl, .endObject⟩

end Json
end Foundation
end CouchbaseSdk
