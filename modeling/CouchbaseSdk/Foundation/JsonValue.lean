import CouchbaseSdk.Foundation.Bytes

/-!
# JSON values and their texts

Values, the text that is written for one, and the value that is read from a text.  What is written
has no blanks, and only such texts are read.
-/

namespace CouchbaseSdk
namespace Foundation

/-!
# Numbers
-/

def isNumberChar (c : Char) : Bool :=
  c.isDigit || c == '-' || c == '+' || c == '.' || c == 'e' || c == 'E'

def isWhole (cs : List Char) : Bool :=
  cs == ['0'] || (! cs.isEmpty && cs.head? != some '0')

def isExponent (cs : List Char) : Bool :=
  match cs with
  | [] => true
  | mark :: cs =>
      let digits := if cs.head? == some '+' || cs.head? == some '-' then cs.tail else cs
      (mark == 'e' || mark == 'E') && ! digits.isEmpty && digits.all Char.isDigit

def isFraction (cs : List Char) : Bool :=
  match cs with
  | '.' :: cs => ! (cs.takeWhile Char.isDigit).isEmpty && isExponent (cs.dropWhile Char.isDigit)
  | cs => isExponent cs

def isNumber (cs : List Char) : Bool :=
  let unsigned := if cs.head? == some '-' then cs.tail else cs
  isWhole (unsigned.takeWhile Char.isDigit) && isFraction (unsigned.dropWhile Char.isDigit)

def startsNumber (c : Char) : Bool :=
  c.isDigit || c == '-'

/-- A number is kept by its text. -/
structure JsonNumber where
  text : List Char
  chars : text.all isNumberChar = true
  starts : text.head?.any startsNumber = true
  grammar : isNumber text = true
deriving DecidableEq

/-!
# Values
-/

inductive JsonValue where
  | null
  | bool (b : Bool)
  | number (n : JsonNumber)
  | string (s : String)
  | array (items : List JsonValue)
  | object (members : List (String × JsonValue))

namespace JsonValue

/-- The characters that are written as a reverse solidus and a letter. -/
def escapes : List (Char × Char) :=
  [('"', '"'), ('\\', '\\'), ('\x08', 'b'), ('\x0c', 'f'), ('\n', 'n'), ('\r', 'r'), ('\t', 't')]

def writeChar (c : Char) (tail : List Char) : List Char :=
  match escapes.lookup c with
  | some letter => '\\' :: letter :: tail
  | none =>
      if c.toNat < 0x20 then
        '\\' :: 'u' :: '0' :: '0' :: Nat.digitChar (c.toNat / 16) :: Nat.digitChar (c.toNat % 16) ::
          tail
      else c :: tail

def writeString (s : String) (tail : List Char) : List Char :=
  '"' :: s.toList.foldr writeChar ('"' :: tail)

mutual

/-- The text of a value, and what follows it. -/
def write : JsonValue -> List Char -> List Char
  | null, tail => 'n' :: 'u' :: 'l' :: 'l' :: tail
  | bool true, tail => 't' :: 'r' :: 'u' :: 'e' :: tail
  | bool false, tail => 'f' :: 'a' :: 'l' :: 's' :: 'e' :: tail
  | number n, tail => n.text ++ tail
  | string s, tail => writeString s tail
  | array items, tail => '[' :: writeItems true items tail
  | object members, tail => '\x7b' :: writeMembers true members tail

/-- Every item but the first has a comma before it. -/
def writeItems : Bool -> List JsonValue -> List Char -> List Char
  | _, [], tail => ']' :: tail
  | true, item :: items, tail => write item (writeItems false items tail)
  | false, item :: items, tail => ',' :: write item (writeItems false items tail)

def writeMembers : Bool -> List (String × JsonValue) -> List Char -> List Char
  | _, [], tail => '\x7d' :: tail
  | true, (key, value) :: members, tail =>
      writeString key (':' :: write value (writeMembers false members tail))
  | false, (key, value) :: members, tail =>
      ',' :: writeString key (':' :: write value (writeMembers false members tail))

end

/-!
# Reading
-/

def hexValue (c : Char) : Option Nat :=
  (List.range 16).find? fun n => n.digitChar == c

def unescape (letter : Char) : Option Char :=
  (escapes.find? fun p => p.2 == letter).map Prod.fst

/-- Up to the quotation mark at the end. -/
def readChars : List Char -> Option (List Char × List Char)
  | [] => none
  | c :: cs =>
      if c = '"' then some ([], cs)
      else if c = '\\' then
        match cs with
        | [] => none
        | letter :: cs =>
            if letter = 'u' then
              match cs with
              | a :: b :: d :: e :: cs =>
                  match hexValue a, hexValue b, hexValue d, hexValue e with
                  | some a, some b, some d, some e =>
                      (readChars cs).map fun p =>
                        (Char.ofNat (((a * 16 + b) * 16 + d) * 16 + e) :: p.1, p.2)
                  | _, _, _, _ => none
              | _ => none
            else
              match unescape letter with
              | some c => (readChars cs).map fun p => (c :: p.1, p.2)
              | none => none
      else if c.toNat < 0x20 then none
      else (readChars cs).map fun p => (c :: p.1, p.2)

def readNumber (cs : List Char) : Option (JsonValue × List Char) :=
  let text := cs.takeWhile isNumberChar
  if h : text.all isNumberChar = true ∧ text.head?.any startsNumber = true ∧ isNumber text = true
  then some (number ⟨text, h.1, h.2.1, h.2.2⟩, cs.dropWhile isNumberChar)
  else none

def literal (value : JsonValue) (text : List Char) (cs : List Char) :
    Option (JsonValue × List Char) :=
  if text <+: cs then some (value, cs.drop text.length) else none

/-- Before an item that is not the first there is a comma. -/
def afterComma : Bool -> List Char -> Option (List Char)
  | true, cs => some cs
  | false, c :: cs => if c = ',' then some cs else none
  | false, [] => none

def readKey : List Char -> Option (String × List Char)
  | c :: cs =>
      if c = '"' then
        match readChars cs with
        | some (key, colon :: cs) => if colon = ':' then some (String.ofList key, cs) else none
        | _ => none
      else none
  | [] => none

mutual

def readValue : Nat -> List Char -> Option (JsonValue × List Char)
  | 0, _ => none
  | _ + 1, [] => none
  | n + 1, c :: cs =>
      if c = '"' then (readChars cs).map fun p => (string (String.ofList p.1), p.2)
      else if c = '[' then (readItems n true cs).map fun p => (array p.1, p.2)
      else if c = '\x7b' then (readMembers n true cs).map fun p => (object p.1, p.2)
      else if c = 'n' then literal null ['u', 'l', 'l'] cs
      else if c = 't' then literal (bool true) ['r', 'u', 'e'] cs
      else if c = 'f' then literal (bool false) ['a', 'l', 's', 'e'] cs
      else readNumber (c :: cs)

def readItems : Nat -> Bool -> List Char -> Option (List JsonValue × List Char)
  | 0, _, _ => none
  | _ + 1, _, [] => none
  | n + 1, first, c :: cs =>
      if c = ']' then some ([], cs)
      else
        match afterComma first (c :: cs) with
        | none => none
        | some cs =>
            match readValue n cs with
            | none => none
            | some (item, cs) =>
                (readItems n false cs).map fun p => (item :: p.1, p.2)

def readMembers : Nat -> Bool -> List Char -> Option (List (String × JsonValue) × List Char)
  | 0, _, _ => none
  | _ + 1, _, [] => none
  | n + 1, first, c :: cs =>
      if c = '\x7d' then some ([], cs)
      else
        match (afterComma first (c :: cs)).bind readKey with
        | none => none
        | some (key, cs) =>
            match readValue n cs with
            | none => none
            | some (value, cs) =>
                (readMembers n false cs).map fun p => ((key, value) :: p.1, p.2)

end

abbrev beginArray : UInt8 := 0x5b

abbrev endArray : UInt8 := 0x5d

/-- The text as it is sent. -/
def toVec (v : JsonValue) : Buffer :=
  (String.ofList (write v [])).toUTF8.data.toList

def utf8 (bytes : Buffer) : Option String :=
  String.fromUTF8? ⟨bytes.toArray⟩

/-- The value of a whole text. -/
def fromSlice (bytes : Buffer) : Option JsonValue :=
  (utf8 bytes).bind fun text =>
    match readValue text.toList.length text.toList with
    | some (value, []) => some value
    | _ => none

end JsonValue
end Foundation
end CouchbaseSdk
