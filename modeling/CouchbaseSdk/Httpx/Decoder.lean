import CouchbaseSdk.Foundation.FiniteMap
import CouchbaseSdk.Foundation.Method
import CouchbaseSdk.Httpx.Scanner
import Mathlib.Data.List.DropRight

/-!
# The decoder

The decoder takes the chunks of a response as they come in and hands out JSON tokens and
values.  It consists of the buffer that the chunks are gathered in and of a token machine over
it.  The token machine knows the buffer by what it can ask of it, so that it can be run over
other sources of bytes.
-/

namespace CouchbaseSdk
namespace Httpx

open Foundation Foundation.Json

/-!
# The buffer
-/

/-- What the decoder keeps of the response: the stream `r`, the bytes received that are not
dropped yet, and how many of these are read. -/
structure Window where
  r : List (Except ErrorKind Buffer)
  buf : Buffer
  scanp : Nat
  scan : Scanner
  err : Option ErrorKind

namespace Window

def new (r : List (Except ErrorKind Buffer)) : Window :=
  { r := r, buf := [], scanp := 0, scan := Scanner.new, err := none }

/-- Drop what is read and take the next chunk from the stream. -/
def refill (w : Window) : Option (Except ErrorKind Unit) × Window :=
  let w := if w.scanp > 0 then { w with buf := w.buf.drop w.scanp, scanp := 0 } else w
  match w.r with
  | [] => (none, w)
  | .ok chunk :: r => (some (.ok ()), { w with r := r, buf := w.buf ++ chunk })
  | .error e :: r => (some (.error e), { w with r := r })

theorem refill_length {w w' : Window} {res : Except ErrorKind Unit}
    (h : w.refill = (some res, w')) : w'.r.length < w.r.length := by
  have hr : (if w.scanp > 0 then { w with buf := w.buf.drop w.scanp, scanp := 0 } else w).r =
      w.r := by
    split <;> rfl
  unfold refill at h
  dsimp only at h
  rw [hr] at h
  cases hstream : w.r with
  | nil =>
      rw [hstream] at h
      cases h
  | cons item r =>
      rw [hstream] at h
      cases item with
      | ok chunk =>
          cases h
          exact Nat.lt_succ_self _
      | error e =>
          cases h
          exact Nat.lt_succ_self _

/-- Look for the next byte that is no whitespace; `res` is what the last read came to. -/
def peekAfter (res : Option (Except ErrorKind Unit)) (w : Window) :
    Option (Except ErrorKind UInt8) × Window :=
  let i := w.scanp + ((w.buf.drop w.scanp).takeWhile isAsciiWhitespace).length
  match w.buf[i]?, res with
  | some c, _ => (some (.ok c), { w with scanp := i })
  | none, some (.error e) => (some (.error e), w)
  | none, _ =>
      match _ : w.refill with
      | (none, w') => (none, w')
      | (some res', w') => peekAfter (some res') w'
termination_by w.r.length
decreasing_by exact refill_length (by assumption)

def peek : Method Window ErrorKind (Option (Except ErrorKind UInt8)) :=
  fun w => match w.peekAfter none with
    | (res, w') => some (.ok res, w')

/-- The stream has ended `n` bytes into a value. -/
def valueAtEnd (n : Nat) (w : Window) : Option (Except ErrorKind Nat × Window) :=
  match w.scan.step 0x20 with
  | (.ends, s) => some (.ok n, { w with scan := s })
  | (_, s) =>
      if w.buf.any fun b => !isAsciiWhitespace b then
        some (.error (.message "unexpected EOF"),
          { w with scan := s, err := some (.message "unexpected EOF") })
      else
        match w.err with
        | some e => some (.error e, { w with scan := s })
        | none => some (.ok n, { w with scan := s })

/-- The bytes of the value at hand are all scanned: `n` of them; `res` is what the last read
came to.  Read on and scan what comes in. -/
def readMore (res : Option (Except ErrorKind Unit)) (n : Nat) (w : Window) :
    Option (Except ErrorKind Nat × Window) :=
  match res with
  | some (.error e) => some (.error e, { w with err := some e })
  | _ =>
      match _ : w.refill with
      | (none, w') => valueAtEnd n w'
      | (some res', w') =>
          match w'.scan.scanBytes (w'.buf.drop (w'.scanp + n)) n with
          | .value n s => some (.ok n, { w' with scan := s })
          | .failed s =>
              match s.err with
              | some e => some (.error e, { w' with scan := s, err := some e })
              | none => none
          | .more s => readMore (some res') (w'.buf.length - w'.scanp) { w' with scan := s }
termination_by w.r.length
decreasing_by exact refill_length (by assumption)

/-- The number of bytes up to the end of the next value. -/
def readValue : Method Window ErrorKind Nat :=
  fun w =>
    match w.scan.reset.scanBytes (w.buf.drop w.scanp) 0 with
    | .value n s => some (.ok n, { w with scan := s })
    | .failed s =>
        match s.err with
        | some e => some (.error e, { w with scan := s, err := some e })
        | none => none
    | .more s => readMore none (w.buf.length - w.scanp) { w with scan := s }

def advance (n : Nat) (w : Window) : Window :=
  { w with scanp := w.scanp + n }

/-- Read a value: its bytes, and the whitespace before it. -/
def takeValue : Method Window ErrorKind Buffer := do
  let n <- readValue
  let val <- Method.gets fun w : Window => (w.buf.drop w.scanp).take n
  Method.update (advance n)
  pure val

def chunkLength : Except ErrorKind Buffer -> Nat
  | .ok chunk => chunk.length
  | .error _ => 0

/-- The number of bytes that are not read yet. -/
def size (w : Window) : Nat :=
  w.buf.length - w.scanp + (w.r.map chunkLength).sum

end Window

/-- What the token machine asks of the bytes it is run over. -/
class ByteSource (input : Type) where
  peek : Method input ErrorKind (Option (Except ErrorKind UInt8))
  advance : Nat -> input -> input
  takeValue : Method input ErrorKind Buffer
  err : input -> Option ErrorKind
  size : input -> Nat

instance : ByteSource Window where
  peek := Window.peek
  advance := Window.advance
  takeValue := Window.takeValue
  err := Window.err
  size := Window.size

/-!
# Tokens
-/

inductive TokenState where
  | topValue | arrayStart | arrayValue | arrayComma
  | objectStart | objectKey | objectColon | objectValue | objectComma
deriving DecidableEq, Repr

inductive Token where
  | delim (c : Char)
  | string (s : String)
  | value (v : Buffer)
deriving DecidableEq

/-- What `serde_json` makes of texts and of maps.  A map is taken to be written in a fixed
order. -/
structure SerdeJson (value : Type) where
  stringFromSlice : Buffer -> Except String String
  valueFromSlice : Buffer -> Except String value
  toVec : FiniteMap String value -> Except String Buffer

def trimAscii (text : Buffer) : Buffer :=
  (text.dropWhile isAsciiWhitespace).rdropWhile isAsciiWhitespace

structure Decoder (input : Type) where
  input : input
  tokenState : TokenState
  tokenStack : List TokenState

namespace Decoder

variable {input value : Type}

def new (r : input) : Decoder input :=
  { input := r, tokenState := .topValue, tokenStack := [] }

def setTokenState (state : TokenState) (d : Decoder input) : Decoder input :=
  { d with tokenState := state }

def pushTokenState (state : TokenState) (d : Decoder input) : Decoder input :=
  { d with tokenState := state, tokenStack := d.tokenState :: d.tokenStack }

def popTokenState : Method (Decoder input) ErrorKind Unit :=
  fun d =>
    match d.tokenStack with
    | [] => none
    | state :: stack => some (.ok (), { d with tokenState := state, tokenStack := stack })

def onInput (m : Method input ErrorKind value) : Method (Decoder input) ErrorKind value :=
  Method.within Decoder.input (fun i d => { d with input := i }) m

def tokenValueAllowed (state : TokenState) : Bool :=
  match state with
  | .topValue | .arrayStart | .arrayValue | .objectValue => true
  | _ => false

def tokenValueEnd (d : Decoder input) : Decoder input :=
  match d.tokenState with
  | .arrayStart | .arrayValue => d.setTokenState .arrayComma
  | .objectValue => d.setTokenState .objectComma
  | _ => d

def tokenError (c : UInt8) : Method (Decoder input) ErrorKind Token := do
  let state <- Method.gets Decoder.tokenState
  let context := match state with
    | .topValue => " looking for beginning of value"
    | .arrayStart | .arrayValue | .objectValue => " looking for beginning of value"
    | .arrayComma => " after array element"
    | .objectKey => " looking for beginning of object key string"
    | .objectColon => " after object key"
    | .objectComma => " after object key:value pair"
    | .objectStart => ""
  Method.fail (.message ("invalid character " ++ Scanner.quoteChar c ++ context))

variable [ByteSource input]

def advance : Method (Decoder input) ErrorKind Unit :=
  onInput (Method.update (ByteSource.advance 1))

def peek : Method (Decoder input) ErrorKind (Option (Except ErrorKind UInt8)) :=
  onInput ByteSource.peek

/-- The next byte that is no whitespace, which has to be there. -/
def nextByte : Method (Decoder input) ErrorKind UInt8 := do
  let c <- peek
  match c with
  | some (.ok c) => pure c
  | some (.error e) => Method.fail e
  | none => Method.fail (.message "unexpected EOF")

def tokenPrepareForDecode : Method (Decoder input) ErrorKind Unit := do
  let state <- Method.gets Decoder.tokenState
  if state = .arrayComma then do
    let c <- nextByte
    if c = valueSeparator then do
      advance
      Method.update (setTokenState .arrayValue)
    else Method.fail (.message "expected comma after array element")
  else if state = .objectColon then do
    let c <- nextByte
    if c = nameSeparator then do
      advance
      Method.update (setTokenState .objectValue)
    else Method.fail (.message "expected colon after object key")
  else pure ()

/-- The checks of `decode` and the value it goes on to read. -/
def decodeValue : Method (Decoder input) ErrorKind Buffer := do
  tokenPrepareForDecode
  let state <- Method.gets Decoder.tokenState
  if tokenValueAllowed state then do
    let val <- onInput ByteSource.takeValue
    Method.update tokenValueEnd
    pure (trimAscii val)
  else Method.fail (.message "not at beginning of value")

def decode : Method (Decoder input) ErrorKind Buffer := do
  let err <- Method.gets fun d : Decoder input => ByteSource.err d.input
  match err with
  | some e => Method.fail e
  | none => decodeValue

/-- The string of an object key. -/
def keyToken (json : SerdeJson value) : Method (Decoder input) ErrorKind Token := do
  Method.update (setTokenState .topValue)
  let decoded <- decode
  let x <- Method.ofExcept ((json.stringFromSlice decoded).mapError ErrorKind.message)
  Method.update (setTokenState .objectColon)
  pure (.string x)

def openDelim (c : Char) (state : TokenState) : Method (Decoder input) ErrorKind Token := do
  advance
  Method.update (pushTokenState state)
  pure (.delim c)

def closeDelim (c : Char) : Method (Decoder input) ErrorKind Token := do
  advance
  popTokenState
  Method.update tokenValueEnd
  pure (.delim c)

def valueToken : Method (Decoder input) ErrorKind Token := do
  let decoded <- decode
  pure (.value decoded)

/-- The token that begins with the byte `c`; `again` is the next round of the loop. -/
def tokenAt (json : SerdeJson value) (again : Method (Decoder input) ErrorKind Token)
    (c : UInt8) (state : TokenState) : Method (Decoder input) ErrorKind Token :=
  if c = beginArray then
    if tokenValueAllowed state then openDelim '[' .arrayStart else tokenError c
  else if c = endArray then
    if state = .arrayStart ∨ state = .arrayComma then closeDelim ']' else tokenError c
  else if c = beginObject then
    if tokenValueAllowed state then openDelim '{' .objectStart else tokenError c
  else if c = endObject then
    if state = .objectStart ∨ state = .objectComma then closeDelim '}' else tokenError c
  else if c = nameSeparator then
    if state = .objectColon then do
      advance
      Method.update (setTokenState .objectValue)
      again
    else tokenError c
  else if c = valueSeparator then
    if state = .arrayComma then do
      advance
      Method.update (setTokenState .arrayValue)
      again
    else if state = .objectComma then do
      advance
      Method.update (setTokenState .objectKey)
      again
    else tokenError c
  else if c = quotationMark then
    if state = .objectStart ∨ state = .objectKey then keyToken json
    else if tokenValueAllowed state then valueToken
    else tokenError c
  else if tokenValueAllowed state then valueToken
  else tokenError c

/-- One round of the loop of `token`. -/
def tokenRound (json : SerdeJson value) (again : Method (Decoder input) ErrorKind Token) :
    Method (Decoder input) ErrorKind Token := do
  let c <- nextByte
  let state <- Method.gets Decoder.tokenState
  tokenAt json again c state

/-- The loop goes into a second round after a separator, and there is no third. -/
def token (json : SerdeJson value) : Method (Decoder input) ErrorKind Token :=
  tokenRound json (tokenRound json Method.abort)

def more : Method (Decoder input) ErrorKind Bool := do
  let c <- peek
  match c with
  | some (.ok c) => pure (c != endArray && c != endObject)
  | some (.error _) => pure false
  | none => pure false

end Decoder
end Httpx
end CouchbaseSdk
