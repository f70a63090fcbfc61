import CouchbaseSdk.Foundation.JsonText
import CouchbaseSdk.Retry.Model

/-!
# The scanner

A scanner is fed one byte at a time and says where it is in a JSON value.  What it does with
the next byte depends on a step function and on the values that are open.
-/

namespace CouchbaseSdk
namespace Httpx

open Foundation Foundation.Json

def isAsciiWhitespace (c : UInt8) : Bool :=
  c == 0x20 || c == 0x09 || c == 0x0a || c == 0x0c || c == 0x0d

inductive ScanState where
  | continues | beginLiteral | beginObject | objectKey | objectValue | endObject
  | beginArray | arrayValue | endArray | skipSpace | ends | error
deriving DecidableEq, Repr

inductive ParseState where
  | objectKey | objectValue | arrayValue
deriving DecidableEq, Repr

/-- The step functions. -/
inductive StepFn where
  | beginValue | beginValueOrEmpty | beginStringOrEmpty | beginString | endValue | endTop
  | inString | inStringEsc | inStringEscU | inStringEscU1 | inStringEscU12 | inStringEscU123
  | neg | one | zero | dot | dot0 | e | eSign | e0
  | t | tr | tru | f | fa | fal | fals | n | nu | nul
  | error
deriving DecidableEq, Repr

/-- The innermost open value stands first in `parseState`. -/
structure Scanner where
  stepFn : StepFn
  endTop : Bool
  parseState : List ParseState
  err : Option ErrorKind
deriving DecidableEq

namespace Scanner

def new : Scanner :=
  { stepFn := .beginValue, endTop := false, parseState := [], err := none }

def reset (s : Scanner) : Scanner :=
  { s with stepFn := .beginValue, parseState := [], err := none, endTop := false }

def quoteChar (c : UInt8) : String :=
  match c with
  | 0x27 => "'\\''"
  | 0x22 => "'\"'"
  | _ => "'" ++ String.singleton (Char.ofNat c.toNat) ++ "'"

def error (s : Scanner) (c : UInt8) (context : String) : ScanState × Scanner :=
  (.error,
    { s with
      stepFn := .error
      err := some (.message ("invalid character " ++ quoteChar c ++ " " ++ context)) })

def pushParseState (s : Scanner) (newParseState : ParseState) (successState : ScanState) :
    ScanState × Scanner :=
  (successState, { s with parseState := newParseState :: s.parseState })

def popParseState (s : Scanner) : Scanner :=
  match s.parseState.tail with
  | [] => { s with parseState := [], stepFn := .endTop, endTop := true }
  | rest => { s with parseState := rest, stepFn := .endValue }

/-- Change what the innermost open value waits for. -/
def setTop (s : Scanner) (state : ParseState) : Scanner :=
  { s with parseState := s.parseState.modifyHead fun _ => state }

/-- Go on with another step function. -/
def continueWith (s : Scanner) (stepFn : StepFn) : ScanState × Scanner :=
  (.continues, { s with stepFn := stepFn })

def beginLiteral (s : Scanner) (stepFn : StepFn) : ScanState × Scanner :=
  (.beginLiteral, { s with stepFn := stepFn })

/-!
# The step functions
-/

def stateBeginValue (s : Scanner) (c : UInt8) : ScanState × Scanner :=
  if isAsciiWhitespace c then (.skipSpace, s)
  else if c = Json.beginObject then
    pushParseState { s with stepFn := .beginStringOrEmpty } .objectKey .beginObject
  else if c = Json.beginArray then
    pushParseState { s with stepFn := .beginValueOrEmpty } .arrayValue .beginArray
  else if c = quotationMark then s.beginLiteral .inString
  else if c = minus then s.beginLiteral .neg
  else if c = Json.zero then s.beginLiteral .zero
  else if c = 0x74 then s.beginLiteral .t
  else if c = 0x66 then s.beginLiteral .f
  else if c = 0x6e then s.beginLiteral .n
  else if isDigit c then s.beginLiteral .one
  else s.error c "looking for beginning of value"

def stateEndTop (s : Scanner) (c : UInt8) : ScanState × Scanner :=
  (.ends, if isAsciiWhitespace c then s else (s.error c "after top-level value").2)

def stateEndValue (s : Scanner) (c : UInt8) : ScanState × Scanner :=
  match s.parseState with
  | [] => stateEndTop { s with stepFn := .endTop, endTop := true } c
  | ps :: _ =>
      if isAsciiWhitespace c then (.skipSpace, { s with stepFn := .endValue })
      else
        match ps with
        | .objectKey =>
            if c = nameSeparator then
              (.objectKey, { s.setTop .objectValue with stepFn := .beginValue })
            else s.error c "after object key"
        | .objectValue =>
            if c = valueSeparator then
              (.objectValue, { s.setTop .objectKey with stepFn := .beginString })
            else if c = Json.endObject then (.endObject, s.popParseState)
            else s.error c "after object key:value pair"
        | .arrayValue =>
            if c = valueSeparator then (.arrayValue, { s with stepFn := .beginValue })
            else if c = Json.endArray then (.endArray, s.popParseState)
            else s.error c "after array element"

def stateBeginValueOrEmpty (s : Scanner) (c : UInt8) : ScanState × Scanner :=
  if isAsciiWhitespace c then (.skipSpace, s)
  else if c = Json.endArray then s.stateEndValue c
  else s.stateBeginValue c

def stateBeginString (s : Scanner) (c : UInt8) : ScanState × Scanner :=
  if isAsciiWhitespace c then (.skipSpace, s)
  else if c = quotationMark then s.beginLiteral .inString
  else s.error c "looking for beginning of object key string"

-- An object is open here: the step function is entered by opening one.
def stateBeginStringOrEmpty (s : Scanner) (c : UInt8) : ScanState × Scanner :=
  if isAsciiWhitespace c then (.skipSpace, s)
  else if c = Json.endObject then (s.setTop .objectValue).stateEndValue c
  else s.stateBeginString c

def stateInString (s : Scanner) (c : UInt8) : ScanState × Scanner :=
  if c = quotationMark then s.continueWith .endValue
  else if c = reverseSolidus then s.continueWith .inStringEsc
  else if c < 0x20 then s.error c "in string literal"
  else (.continues, s)

def stateInStringEsc (s : Scanner) (c : UInt8) : ScanState × Scanner :=
  if c ∈ escapable then s.continueWith .inString
  else if c = 0x75 then s.continueWith .inStringEscU
  else s.error c "in string escape code"

/-- A hexadecimal digit of an escape. -/
def stateHexDigit (next : StepFn) (s : Scanner) (c : UInt8) : ScanState × Scanner :=
  if isHexDigit c then s.continueWith next
  else s.error c "in \\u hexadecimal character escape"

def stateInStringEscU : Scanner -> UInt8 -> ScanState × Scanner := stateHexDigit .inStringEscU1
def stateInStringEscU1 : Scanner -> UInt8 -> ScanState × Scanner := stateHexDigit .inStringEscU12
def stateInStringEscU12 : Scanner -> UInt8 -> ScanState × Scanner :=
  stateHexDigit .inStringEscU123
def stateInStringEscU123 : Scanner -> UInt8 -> ScanState × Scanner := stateHexDigit .inString

def stateNeg (s : Scanner) (c : UInt8) : ScanState × Scanner :=
  if c = Json.zero then s.continueWith .zero
  else if isDigit c then s.continueWith .one
  else s.error c "in numeric literal"

def state0 (s : Scanner) (c : UInt8) : ScanState × Scanner :=
  if c = decimalPoint then s.continueWith .dot
  else if c = 0x65 ∨ c = 0x45 then s.continueWith .e
  else s.stateEndValue c

def state1 (s : Scanner) (c : UInt8) : ScanState × Scanner :=
  if isDigit c then s.continueWith .one else s.state0 c

def stateDot (s : Scanner) (c : UInt8) : ScanState × Scanner :=
  if isDigit c then s.continueWith .dot0
  else s.error c "after decimal point in numeric literal"

def stateDot0 (s : Scanner) (c : UInt8) : ScanState × Scanner :=
  if isDigit c then (.continues, s)
  else if c = 0x65 ∨ c = 0x45 then s.continueWith .e
  else s.stateEndValue c

def stateESign (s : Scanner) (c : UInt8) : ScanState × Scanner :=
  if isDigit c then s.continueWith .e0
  else s.error c "in exponent of numeric literal"

def stateE (s : Scanner) (c : UInt8) : ScanState × Scanner :=
  if c = plus ∨ c = minus then s.continueWith .eSign else s.stateESign c

def stateE0 (s : Scanner) (c : UInt8) : ScanState × Scanner :=
  if isDigit c then (.continues, s) else s.stateEndValue c

/-- A byte of a literal name, which has to be `expected`. -/
def stateLiteral (expected : UInt8) (next : StepFn) (context : String) (s : Scanner)
    (c : UInt8) : ScanState × Scanner :=
  if c = expected then s.continueWith next else s.error c context

def stateT : Scanner -> UInt8 -> ScanState × Scanner :=
  stateLiteral 0x72 .tr "in literal true (expecting 'r')"
def stateTr : Scanner -> UInt8 -> ScanState × Scanner :=
  stateLiteral 0x75 .tru "in literal true (expecting 'u')"
def stateTru : Scanner -> UInt8 -> ScanState × Scanner :=
  stateLiteral 0x65 .endValue "in literal true (expecting 'e')"
def stateF : Scanner -> UInt8 -> ScanState × Scanner :=
  stateLiteral 0x61 .fa "in literal false (expecting 'a')"
def stateFa : Scanner -> UInt8 -> ScanState × Scanner :=
  stateLiteral 0x6c .fal "in literal false (expecting 'l')"
def stateFal : Scanner -> UInt8 -> ScanState × Scanner :=
  stateLiteral 0x73 .fals "in literal false (expecting 's')"
def stateFals : Scanner -> UInt8 -> ScanState × Scanner :=
  stateLiteral 0x65 .endValue "in literal false (expecting 'e')"
def stateN : Scanner -> UInt8 -> ScanState × Scanner :=
  stateLiteral 0x75 .nu "in literal null (expecting 'u')"
def stateNu : Scanner -> UInt8 -> ScanState × Scanner :=
  stateLiteral 0x6c .nul "in literal null (expecting 'l')"
def stateNul : Scanner -> UInt8 -> ScanState × Scanner :=
  stateLiteral 0x6c .endValue "in literal null (expecting 'l')"

def stateError (s : Scanner) (_ : UInt8) : ScanState × Scanner := (.error, s)

def step (s : Scanner) (c : UInt8) : ScanState × Scanner :=
  match s.stepFn with
  | .beginValue => s.stateBeginValue c
  | .beginValueOrEmpty => s.stateBeginValueOrEmpty c
  | .beginStringOrEmpty => s.stateBeginStringOrEmpty c
  | .beginString => s.stateBeginString c
  | .endValue => s.stateEndValue c
  | .endTop => s.stateEndTop c
  | .inString => s.stateInString c
  | .inStringEsc => s.stateInStringEsc c
  | .inStringEscU => s.stateInStringEscU c
  | .inStringEscU1 => s.stateInStringEscU1 c
  | .inStringEscU12 => s.stateInStringEscU12 c
  | .inStringEscU123 => s.stateInStringEscU123 c
  | .neg => s.stateNeg c
  | .one => s.state1 c
  | .zero => s.state0 c
  | .dot => s.stateDot c
  | .dot0 => s.stateDot0 c
  | .e => s.stateE c
  | .eSign => s.stateESign c
  | .e0 => s.stateE0 c
  | .t => s.stateT c
  | .tr => s.stateTr c
  | .tru => s.stateTru c
  | .f => s.stateF c
  | .fa => s.stateFa c
  | .fal => s.stateFal c
  | .fals => s.stateFals c
  | .n => s.stateN c
  | .nu => s.stateNu c
  | .nul => s.stateNul c
  | .error => s.stateError c

/-!
# Scanning a buffer
-/

/-- What a byte does to the scan of a value: the value ended before it, ends with it, there is
an error, or the scan goes on. -/
inductive Round where
  | before (s : Scanner)
  | after (s : Scanner)
  | failed (s : Scanner)
  | goesOn (s : Scanner)

def round (s : Scanner) (c : UInt8) : Round :=
  match s.step c with
  | (.ends, s') => .before s'
  | (.error, s') => .failed s'
  | (state, s') =>
      if state = .endObject ∨ state = .endArray then
        match s'.step 0x20 with
        | (.ends, s'') => .after s''
        | (_, s'') => .goesOn s''
      else .goesOn s'

/-- How the scan of the bytes at hand ends: with a value of so many bytes, with an error, or
in the midst of a value. -/
inductive Scanned where
  | value (n : Nat) (s : Scanner)
  | failed (s : Scanner)
  | more (s : Scanner)

/-- Scan bytes, `n` bytes into the value. -/
def scanBytes : Scanner -> Buffer -> Nat -> Scanned
  | s, [], _ => .more s
  | s, c :: rest, n =>
      match s.round c with
      | .before s' => .value n s'
      | .after s' => .value (n + 1) s'
      | .failed s' => .failed s'
      | .goesOn s' => scanBytes s' rest (n + 1)

theorem scanBytes_append (s : Scanner) (xs ys : Buffer) (n : Nat) :
    scanBytes s (xs ++ ys) n =
      match scanBytes s xs n with
      | .value m s' => .value m s'
      | .failed s' => .failed s'
      | .more s' => scanBytes s' ys (n + xs.length) := by
  induction xs generalizing s n with
  | nil => rfl
  | cons c xs ih =>
      rw [List.cons_append, scanBytes, scanBytes]
      cases s.round c with
      | before s' => rfl
      | after s' => rfl
      | failed s' => rfl
      | goesOn s' =>
          dsimp only
          rw [ih, List.length_cons, Nat.add_assoc, Nat.add_comm 1]

/-- A value is no longer than what is scanned. -/
theorem scanBytes_le {s s' : Scanner} {xs : Buffer} {n m : Nat}
    (h : scanBytes s xs n = .value m s') : m ≤ n + xs.length := by
  induction xs generalizing s n with
  | nil => cases h
  | cons c xs ih =>
      rw [scanBytes] at h
      cases hround : s.round c with
      | before t =>
          rw [hround] at h
          cases h
          exact Nat.le_add_right _ _
      | after t =>
          rw [hround] at h
          cases h
          rw [List.length_cons]
          omega
      | failed t =>
          rw [hround] at h
          cases h
      | goesOn t =>
          rw [hround] at h
          have hle := ih h
          rw [List.length_cons]
          omega

end Scanner
end Httpx
end CouchbaseSdk
