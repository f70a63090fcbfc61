import CouchbaseSdk.Foundation.JsonValue
import Mathlib.Data.List.TakeWhile

/-!
# The text of a JSON value determines it

What is written for a value is read as that value, with the text behind it left over.
-/

namespace CouchbaseSdk
namespace Foundation
namespace JsonValue

/-!
# Characters and strings
-/

theorem hexValue_digitChar : forall n, n < 16 -> hexValue n.digitChar = some n := by
  decide

theorem escapes_cases {c letter : Char} (h : escapes.lookup c = some letter) :
    c ≠ 'u' ∧ letter ≠ 'u' ∧ unescape letter = some c := by
  have hmem : (c, letter) ∈ escapes := by
    rcases List.lookup_eq_some_iff.mp h with ⟨before, after, hsplit, _⟩
    rw [hsplit]
    exact List.mem_append_right _ List.mem_cons_self
  have hall : forall p, p ∈ escapes ->
      p.1 ≠ 'u' ∧ p.2 ≠ 'u' ∧ unescape p.2 = some p.1 := by
    decide
  exact hall (c, letter) hmem

theorem plain_of_lookup_none {c : Char} (h : escapes.lookup c = none) : c ≠ '"' ∧ c ≠ '\\' := by
  constructor <;> intro heq <;> rw [heq] at h <;> cases h

theorem readChars_writeChar (c : Char) (tail : List Char) :
    readChars (writeChar c tail) = (readChars tail).map fun p => (c :: p.1, p.2) := by
  unfold writeChar
  cases hescape : escapes.lookup c with
  | some letter =>
      rcases escapes_cases hescape with ⟨_, hu, hunescape⟩
      rw [readChars.eq_def]
      simp only [hunescape, if_neg hu]
      rfl
  | none =>
      rcases plain_of_lookup_none hescape with ⟨hquote, hescape⟩
      by_cases hcontrol : c.toNat < 0x20
      · have hhigh := hexValue_digitChar (c.toNat / 16) (by omega)
        have hlow := hexValue_digitChar (c.toNat % 16) (by omega)
        have hzero : hexValue '0' = some 0 := by decide
        have hchar : Char.ofNat (((0 * 16 + 0) * 16 + c.toNat / 16) * 16 + c.toNat % 16) = c := by
          rw [show ((0 * 16 + 0) * 16 + c.toNat / 16) * 16 + c.toNat % 16 = c.toNat by omega]
          exact Char.ofNat_toNat c
        simp only [if_pos hcontrol]
        rw [readChars.eq_def]
        simp only [hzero, hhigh, hlow, hchar]
        rfl
      · simp only [if_neg hcontrol]
        rw [readChars.eq_def]
        simp only [if_neg hquote, if_neg hescape, if_neg hcontrol]

theorem readChars_writeChars (cs tail : List Char) :
    readChars (cs.foldr writeChar ('"' :: tail)) = some (cs, tail) := by
  induction cs with
  | nil =>
      rw [List.foldr_nil, readChars.eq_def]
      rfl
  | cons c cs ih =>
      rw [List.foldr_cons, readChars_writeChar, ih]
      rfl

theorem length_foldr_writeChar (cs tail : List Char) :
    tail.length <= (cs.foldr writeChar tail).length := by
  induction cs with
  | nil => exact Nat.le_refl _
  | cons c cs ih =>
      have hone : forall rest, List.length rest <= (writeChar c rest).length := by
        intro rest
        unfold writeChar
        split
        · simp only [List.length_cons]
          omega
        · split <;> simp only [List.length_cons] <;> omega
      exact Nat.le_trans ih (hone _)

theorem lt_length_writeString (s : String) (tail : List Char) :
    tail.length + 2 <= (writeString s tail).length := by
  have hchars := length_foldr_writeChar s.toList ('"' :: tail)
  simp only [List.length_cons] at hchars
  simp only [writeString, List.length_cons]
  omega

theorem readKey_writeString (key : String) (tail : List Char) :
    readKey (writeString key (':' :: tail)) = some (key, tail) := by
  simp [readKey, writeString, readChars_writeChars]

/-!
# Numbers in a text
-/

/-- What follows a number does not go on with it. -/
def Ended (tail : List Char) : Prop :=
  forall c, tail.head? = some c -> isNumberChar c = false

theorem ended_nil : Ended [] :=
  fun _ h => by cases h

theorem ended_cons {c : Char} (tail : List Char) (h : isNumberChar c = false) :
    Ended (c :: tail) := by
  intro c' hc
  cases hc
  exact h

theorem readNumber_append (n : JsonNumber) {tail : List Char} (hended : Ended tail) :
    readNumber (n.text ++ tail) = some (number n, tail) := by
  have htail : tail.takeWhile isNumberChar = [] ∧ tail.dropWhile isNumberChar = tail := by
    cases tail with
    | nil => exact ⟨rfl, rfl⟩
    | cons c tail => simp [hended c rfl]
  have hall : forall c, c ∈ n.text -> isNumberChar c = true := List.all_eq_true.mp n.chars
  have htext : (n.text ++ tail).takeWhile isNumberChar = n.text := by
    rw [List.takeWhile_append_of_pos hall, htail.1, List.append_nil]
  have hrest : (n.text ++ tail).dropWhile isNumberChar = tail := by
    rw [List.dropWhile_append_of_pos hall, htail.2]
  simp only [readNumber, htext, hrest]
  rw [dif_pos ⟨n.chars, n.starts, n.grammar⟩]

theorem starts_cons (n : JsonNumber) :
    exists c cs, n.text = c :: cs ∧ startsNumber c = true := by
  have hstarts := n.starts
  cases htext : n.text with
  | nil =>
      rw [htext] at hstarts
      cases hstarts
  | cons c cs =>
      rw [htext] at hstarts
      exact ⟨c, cs, rfl, by simpa using hstarts⟩

theorem startsNumber_ne {c : Char} (h : startsNumber c = true) :
    c ≠ '"' ∧ c ≠ '[' ∧ c ≠ '\x7b' ∧ c ≠ 'n' ∧ c ≠ 't' ∧ c ≠ 'f' ∧ c ≠ ']' := by
  refine ⟨?_, ?_, ?_, ?_, ?_, ?_, ?_⟩ <;> intro heq <;> rw [heq] at h <;> revert h <;> decide

/-!
# Lengths
-/

mutual

theorem lt_length_write : (v : JsonValue) -> (tail : List Char) ->
    tail.length < (write v tail).length
  | null, tail => by
      simp only [write, List.length_cons]
      omega
  | bool true, tail => by
      simp only [write, List.length_cons]
      omega
  | bool false, tail => by
      simp only [write, List.length_cons]
      omega
  | number n, tail => by
      rcases starts_cons n with ⟨c, cs, htext, _⟩
      simp only [write, htext, List.cons_append, List.length_cons, List.length_append]
      omega
  | string s, tail => by
      have hlength := lt_length_writeString s tail
      simp only [write]
      omega
  | array items, tail => by
      have hitems := lt_length_writeItems true items tail
      simp only [write, List.length_cons]
      omega
  | object members, tail => by
      have hmembers := lt_length_writeMembers true members tail
      simp only [write, List.length_cons]
      omega

theorem lt_length_writeItems : (first : Bool) -> (items : List JsonValue) ->
    (tail : List Char) -> tail.length < (writeItems first items tail).length
  | first, [], tail => by
      simp [writeItems]
  | true, item :: items, tail => by
      have hitem := lt_length_write item (writeItems false items tail)
      have hitems := lt_length_writeItems false items tail
      simp only [writeItems]
      omega
  | false, item :: items, tail => by
      have hitem := lt_length_write item (writeItems false items tail)
      have hitems := lt_length_writeItems false items tail
      simp only [writeItems, List.length_cons]
      omega

theorem lt_length_writeMembers : (first : Bool) -> (members : List (String × JsonValue)) ->
    (tail : List Char) -> tail.length < (writeMembers first members tail).length
  | first, [], tail => by
      simp [writeMembers]
  | true, (key, value) :: members, tail => by
      have hvalue := lt_length_write value (writeMembers false members tail)
      have hkey := lt_length_writeString key (':' :: write value (writeMembers false members tail))
      have hmembers := lt_length_writeMembers false members tail
      simp only [List.length_cons] at hkey
      simp only [writeMembers]
      omega
  | false, (key, value) :: members, tail => by
      have hvalue := lt_length_write value (writeMembers false members tail)
      have hkey := lt_length_writeString key (':' :: write value (writeMembers false members tail))
      have hmembers := lt_length_writeMembers false members tail
      simp only [List.length_cons] at hkey
      simp only [writeMembers, List.length_cons]
      omega

end

/-!
# What follows a text
-/

theorem writeString_append (s : String) (tail more : List Char) :
    writeString s (tail ++ more) = writeString s tail ++ more := by
  have hchar : forall c rest, writeChar c (rest ++ more) = writeChar c rest ++ more := by
    intro c rest
    unfold writeChar
    split
    · rfl
    · split <;> rfl
  have hchars : forall cs rest,
      List.foldr writeChar (rest ++ more) cs = List.foldr writeChar rest cs ++ more := by
    intro cs rest
    induction cs with
    | nil => rfl
    | cons c cs ih => rw [List.foldr_cons, ih, hchar, List.foldr_cons]
  unfold writeString
  rw [← List.cons_append, hchars]
  rfl

mutual

theorem write_append : (v : JsonValue) -> (tail more : List Char) ->
    write v (tail ++ more) = write v tail ++ more
  | null, tail, more => by simp [write]
  | bool true, tail, more => by simp [write]
  | bool false, tail, more => by simp [write]
  | number n, tail, more => by simp [write]
  | string s, tail, more => by
      simp only [write]
      exact writeString_append s tail more
  | array items, tail, more => by
      simp only [write, writeItems_append true items tail more, List.cons_append]
  | object members, tail, more => by
      simp only [write, writeMembers_append true members tail more, List.cons_append]

theorem writeItems_append : (first : Bool) -> (items : List JsonValue) ->
    (tail more : List Char) ->
      writeItems first items (tail ++ more) = writeItems first items tail ++ more
  | first, [], tail, more => by simp [writeItems]
  | true, item :: items, tail, more => by
      simp only [writeItems, writeItems_append false items tail more, write_append item]
  | false, item :: items, tail, more => by
      simp only [writeItems, writeItems_append false items tail more, write_append item,
        List.cons_append]

theorem writeMembers_append : (first : Bool) -> (members : List (String × JsonValue)) ->
    (tail more : List Char) ->
      writeMembers first members (tail ++ more) = writeMembers first members tail ++ more
  | first, [], tail, more => by simp [writeMembers]
  | true, (key, value) :: members, tail, more => by
      simp only [writeMembers, writeMembers_append false members tail more, write_append value,
        ← List.cons_append, writeString_append]
  | false, (key, value) :: members, tail, more => by
      simp only [writeMembers, writeMembers_append false members tail more, write_append value,
        ← List.cons_append, writeString_append]

end

theorem toVec_eq (v : JsonValue) : v.toVec = (write v []).flatMap String.utf8EncodeChar := by
  unfold toVec
  rw [String.toUTF8_eq_toByteArray, String.toByteArray_ofList, List.utf8Encode,
    List.toList_data_toByteArray]

/-- An array of one item is the item in brackets. -/
theorem toVec_singleton (v : JsonValue) :
    (array [v]).toVec = beginArray :: (v.toVec ++ [endArray]) := by
  have hwrite : write (array [v]) [] = '[' :: (write v [] ++ [']']) := by
    simp only [write, writeItems]
    rw [← write_append v [] [']'], List.nil_append]
  rw [toVec_eq, hwrite, List.flatMap_cons, List.flatMap_append, ← toVec_eq]
  rfl

/-!
# What is written is read
-/

/-- No value starts as an end of items does. -/
theorem write_ne_bracket (v : JsonValue) (tail : List Char) :
    exists c cs, write v tail = c :: cs ∧ c ≠ ']' := by
  cases v with
  | number n =>
      rcases starts_cons n with ⟨c, cs, htext, hstarts⟩
      refine ⟨c, cs ++ tail, ?_, (startsNumber_ne hstarts).2.2.2.2.2.2⟩
      simp only [write, htext, List.cons_append]
  | bool b => cases b <;> exact ⟨_, _, rfl, by decide⟩
  | _ => exact ⟨_, _, rfl, by decide⟩

theorem ended_writeItems (items : List JsonValue) (tail : List Char) :
    Ended (writeItems false items tail) := by
  cases items with
  | nil => exact ended_cons tail rfl
  | cons item items => exact ended_cons _ rfl

theorem ended_writeMembers (members : List (String × JsonValue)) (tail : List Char) :
    Ended (writeMembers false members tail) := by
  cases members with
  | nil => exact ended_cons tail rfl
  | cons m members => exact ended_cons _ rfl

theorem readItems_cons {n : Nat} {first : Bool} {cs rest tail : List Char} {item : JsonValue}
    {items : List JsonValue} (hne : cs.head? ≠ some ']') (hnil : cs ≠ [])
    (hcomma : afterComma first cs = some rest) {rest' : List Char}
    (hitem : readValue n rest = some (item, rest'))
    (hitems : readItems n false rest' = some (items, tail)) :
    readItems (n + 1) first cs = some (item :: items, tail) := by
  cases cs with
  | nil => exact absurd rfl hnil
  | cons c cs =>
      have hc : c ≠ ']' := by
        intro heq
        exact hne (by rw [heq]; rfl)
      simp only [readItems, if_neg hc, hcomma, hitem, hitems]
      rfl

theorem readMembers_cons {n : Nat} {first : Bool} {c : Char} {cs rest rest' tail : List Char}
    {key : String} {value : JsonValue} {members : List (String × JsonValue)} (hne : c ≠ '\x7d')
    (hkey : (afterComma first (c :: cs)).bind readKey = some (key, rest))
    (hvalue : readValue n rest = some (value, rest'))
    (hmembers : readMembers n false rest' = some (members, tail)) :
    readMembers (n + 1) first (c :: cs) = some ((key, value) :: members, tail) := by
  simp only [readMembers, if_neg hne, hkey, hvalue, hmembers]
  rfl

theorem readValue_number (num : JsonNumber) (n : Nat) {tail : List Char} (hended : Ended tail) :
    readValue (n + 1) (write (number num) tail) = some (number num, tail) := by
  rcases starts_cons num with ⟨c, cs, htext, hstarts⟩
  rcases startsNumber_ne hstarts with ⟨h1, h2, h3, h4, h5, h6, _⟩
  have hread := readNumber_append num hended
  rw [htext, List.cons_append] at hread
  have hwrite : write (number num) tail = c :: (cs ++ tail) := by
    simp only [write, htext, List.cons_append]
  rw [hwrite, readValue, if_neg h1, if_neg h2, if_neg h3, if_neg h4, if_neg h5, if_neg h6, hread]

mutual

theorem readValue_write : (v : JsonValue) -> (n : Nat) -> (tail : List Char) ->
    (write v tail).length <= n + tail.length -> Ended tail ->
      readValue n (write v tail) = some (v, tail)
  | v, 0, tail, hlength, _ => by
      have hlt := lt_length_write v tail
      omega
  | null, n + 1, tail, _, _ => by
      simp [write, readValue, literal]
  | bool true, n + 1, tail, _, _ => by
      simp [write, readValue, literal]
  | bool false, n + 1, tail, _, _ => by
      simp [write, readValue, literal]
  | number num, n + 1, tail, _, hended => readValue_number num n hended
  | string s, n + 1, tail, _, _ => by
      simp [write, writeString, readValue, readChars_writeChars]
  | array items, n + 1, tail, hlength, _ => by
      simp only [write, List.length_cons] at hlength
      have hitems := readItems_write true items n tail (by omega)
      simp [write, readValue, hitems]
  | object members, n + 1, tail, hlength, _ => by
      simp only [write, List.length_cons] at hlength
      have hmembers := readMembers_write true members n tail (by omega)
      simp [write, readValue, hmembers]

theorem readItems_write : (first : Bool) -> (items : List JsonValue) -> (n : Nat) ->
    (tail : List Char) -> (writeItems first items tail).length <= n + tail.length ->
      readItems n first (writeItems first items tail) = some (items, tail)
  | first, items, 0, tail, hlength => by
      have hlt := lt_length_writeItems first items tail
      omega
  | first, [], n + 1, tail, _ => by
      simp [writeItems, readItems]
  | true, item :: items, n + 1, tail, hlength => by
      have hlt := lt_length_writeItems false items tail
      have hltItem := lt_length_write item (writeItems false items tail)
      simp only [writeItems] at hlength
      have hitem := readValue_write item n (writeItems false items tail) (by omega)
        (ended_writeItems items tail)
      have hitems := readItems_write false items n tail (by omega)
      rcases write_ne_bracket item (writeItems false items tail) with ⟨c, cs, hwrite, hne⟩
      simp only [writeItems]
      apply readItems_cons _ _ rfl hitem hitems
      · rw [hwrite]
        intro heq
        exact hne (Option.some.inj heq)
      · rw [hwrite]
        exact List.cons_ne_nil c cs
  | false, item :: items, n + 1, tail, hlength => by
      have hlt := lt_length_writeItems false items tail
      have hltItem := lt_length_write item (writeItems false items tail)
      simp only [writeItems, List.length_cons] at hlength
      have hitem := readValue_write item n (writeItems false items tail) (by omega)
        (ended_writeItems items tail)
      have hitems := readItems_write false items n tail (by omega)
      simp only [writeItems]
      apply readItems_cons _ (List.cons_ne_nil _ _) _ hitem hitems
      · simp
      · rfl

theorem readMembers_write : (first : Bool) -> (members : List (String × JsonValue)) ->
    (n : Nat) -> (tail : List Char) ->
    (writeMembers first members tail).length <= n + tail.length ->
      readMembers n first (writeMembers first members tail) = some (members, tail)
  | first, members, 0, tail, hlength => by
      have hlt := lt_length_writeMembers first members tail
      omega
  | first, [], n + 1, tail, _ => by
      simp [writeMembers, readMembers]
  | true, (key, value) :: members, n + 1, tail, hlength => by
      have hlt := lt_length_writeMembers false members tail
      have hltValue := lt_length_write value (writeMembers false members tail)
      have hltKey := lt_length_writeString key
        (':' :: write value (writeMembers false members tail))
      simp only [List.length_cons] at hltKey
      simp only [writeMembers] at hlength
      have hvalue := readValue_write value n (writeMembers false members tail) (by omega)
        (ended_writeMembers members tail)
      have hmembers := readMembers_write false members n tail (by omega)
      simp only [writeMembers]
      apply readMembers_cons (by decide) _ hvalue hmembers
      exact readKey_writeString key _
  | false, (key, value) :: members, n + 1, tail, hlength => by
      have hlt := lt_length_writeMembers false members tail
      have hltValue := lt_length_write value (writeMembers false members tail)
      have hltKey := lt_length_writeString key
        (':' :: write value (writeMembers false members tail))
      simp only [List.length_cons] at hltKey
      simp only [writeMembers, List.length_cons] at hlength
      have hvalue := readValue_write value n (writeMembers false members tail) (by omega)
        (ended_writeMembers members tail)
      have hmembers := readMembers_write false members n tail (by omega)
      simp only [writeMembers]
      apply readMembers_cons (by decide) _ hvalue hmembers
      exact readKey_writeString key _

end

theorem utf8_toUTF8 (s : String) : utf8 s.toUTF8.data.toList = some s :=
  dif_pos s.isValidUTF8

theorem fromSlice_toVec (v : JsonValue) : fromSlice v.toVec = some v := by
  have hread := readValue_write v (write v []).length [] (Nat.le_add_right _ _) ended_nil
  simp only [fromSlice, toVec, utf8_toUTF8, Option.bind_some, String.toList_ofList, hread]

theorem toVec_injective {v w : JsonValue} (h : v.toVec = w.toVec) : v = w := by
  have hread := congrArg fromSlice h
  rw [fromSlice_toVec, fromSlice_toVec] at hread
  exact Option.some.inj hread

/-- Values are compared by their texts. -/
instance : DecidableEq JsonValue :=
  fun v w => decidable_of_iff (v.toVec = w.toVec) ⟨toVec_injective, congrArg toVec⟩

/-!
# Natural numbers
-/

theorem head_toDigits {n : Nat} (hpos : 0 < n) : (Nat.toDigits 10 n).head? ≠ some '0' := by
  induction n using Nat.strongRecOn with
  | ind n ih =>
      by_cases hsmall : n < 10
      · have hall : forall d, d < 10 -> 0 < d -> Nat.digitChar d ≠ '0' := by decide
        rw [Nat.toDigits_of_lt_base hsmall]
        intro heq
        exact hall n hsmall hpos (Option.some.inj heq)
      · rw [Nat.toDigits_of_base_le (by decide) (Nat.le_of_not_lt hsmall)]
        intro heq
        have hnext := ih (n / 10) (by omega) (by omega)
        cases hdigits : Nat.toDigits 10 (n / 10) with
        | nil => exact Nat.toDigits_ne_nil hdigits
        | cons c cs =>
            rw [hdigits] at heq hnext
            exact hnext heq

theorem isDigit_of_mem_toDigits {n : Nat} {c : Char} (h : c ∈ Nat.toDigits 10 n) :
    c.isDigit = true :=
  Nat.isDigit_of_mem_toDigits (by decide) (by decide) h

theorem isNumber_toDigits (n : Nat) : isNumber (Nat.toDigits 10 n) = true := by
  have hdigits : forall c, c ∈ Nat.toDigits 10 n -> c.isDigit = true :=
    fun c hc => isDigit_of_mem_toDigits hc
  have hsign : (Nat.toDigits 10 n).head? ≠ some '-' := by
    intro heq
    have hdigit := hdigits '-' (List.mem_of_head? heq)
    revert hdigit
    decide
  have hwhole : isWhole (Nat.toDigits 10 n) = true := by
    rcases Nat.eq_zero_or_pos n with hzero | hpos
    · rw [hzero]
      decide
    · have hhead := head_toDigits hpos
      have hne : Nat.toDigits 10 n ≠ [] := Nat.toDigits_ne_nil
      simp [isWhole, hhead, hne]
  have htake : (Nat.toDigits 10 n).takeWhile Char.isDigit = Nat.toDigits 10 n :=
    List.takeWhile_eq_self_iff.mpr hdigits
  have hdrop : (Nat.toDigits 10 n).dropWhile Char.isDigit = [] :=
    List.dropWhile_eq_nil_iff.mpr hdigits
  have hunsigned : ((Nat.toDigits 10 n).head? == some '-') = false := by
    simpa using hsign
  unfold isNumber
  simp only [hunsigned, Bool.false_eq_true, if_false, htake, hdrop, hwhole]
  rfl

end JsonValue

def JsonNumber.ofNat (n : Nat) : JsonNumber where
  text := Nat.toDigits 10 n
  chars := by
    apply List.all_eq_true.mpr
    intro c hc
    simp [isNumberChar, JsonValue.isDigit_of_mem_toDigits hc]
  starts := by
    cases hdigits : Nat.toDigits 10 n with
    | nil => exact absurd hdigits Nat.toDigits_ne_nil
    | cons c cs =>
        have hc : c.isDigit = true := by
          apply JsonValue.isDigit_of_mem_toDigits
          rw [hdigits]
          exact List.mem_cons_self
        simp [startsNumber, hc]
  grammar := JsonValue.isNumber_toDigits n

namespace JsonValue

def ofNat (n : Nat) : JsonValue :=
  number (.ofNat n)

def toNat : JsonValue -> Option Nat
  | number n => if n.text.all Char.isDigit then some (Nat.ofDigitChars 10 n.text 0) else none
  | _ => none

theorem toNat_ofNat (n : Nat) : toNat (ofNat n) = some n := by
  have hdigits : (Nat.toDigits 10 n).all Char.isDigit = true :=
    List.all_eq_true.mpr fun c hc => isDigit_of_mem_toDigits hc
  simp only [ofNat, toNat, JsonNumber.ofNat]
  rw [if_pos hdigits, Nat.ofDigitChars_toDigits (by decide) (by decide)]

end JsonValue
end Foundation
end CouchbaseSdk
