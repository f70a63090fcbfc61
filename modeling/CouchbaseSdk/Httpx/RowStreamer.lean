import CouchbaseSdk.Httpx.Decoder

/-!
# The row streamer

A response is one object.  The rows are the elements of one of its attributes and are handed
out one by one; the other attributes are kept.
-/

namespace CouchbaseSdk
namespace Httpx

open Foundation

inductive RowStreamState where
  | start | rows | postRows | ended
deriving DecidableEq, Repr

inductive RawJsonRowItem where
  | row (bytes : Buffer)
  | metadata (bytes : Buffer)
deriving DecidableEq

structure RawJsonRowStreamer (input value : Type) where
  stream : Decoder input
  rowsAttrib : String
  attribs : FiniteMap String value
  state : RowStreamState

namespace RawJsonRowStreamer

variable {input value result : Type}

def new (stream : Decoder input) (rowsAttrib : String) : RawJsonRowStreamer input value :=
  { stream := stream, rowsAttrib := rowsAttrib, attribs := ∅, state := .start }

def setState (state : RowStreamState) (s : RawJsonRowStreamer input value) :
    RawJsonRowStreamer input value :=
  { s with state := state }

def insertAttrib (key : String) (v : value) (s : RawJsonRowStreamer input value) :
    RawJsonRowStreamer input value :=
  { s with attribs := s.attribs.insert key v }

def onStream (m : Method (Decoder input) ErrorKind result) :
    Method (RawJsonRowStreamer input value) ErrorKind result :=
  Method.within stream (fun d s => { s with stream := d }) m

/-- The attributes as they are written out; `context` says what they are for. -/
def encodeAttribs (json : SerdeJson value) (context : String) :
    Method (RawJsonRowStreamer input value) ErrorKind Buffer := do
  let attribs <- Method.gets attribs
  Method.ofExcept ((json.toVec attribs).mapError fun e => .message (context ++ e))

variable [ByteSource input] (json : SerdeJson value)

/-- Read the value of an attribute. -/
def readAttrib (key : String) : Method (RawJsonRowStreamer input value) ErrorKind Unit := do
  let text <- onStream Decoder.decode
  let v <- Method.ofExcept
    ((json.valueFromSlice text).mapError fun e => .message ("failed to parse value: " ++ e))
  Method.update (insertAttrib key v)

/-- Read the end of the rows. -/
def closeRows : Method (RawJsonRowStreamer input value) ErrorKind Unit := do
  let token <- onStream (Decoder.token json)
  if token = .delim ']' then Method.update (setState .postRows)
  else Method.fail (.message "expected closing ] for the result")

/-- Read the rows attribute up to the first row.  `again` is the next round of the loop of
`begin`, which is left where there are rows. -/
def beginRows (again : Method (RawJsonRowStreamer input value) ErrorKind Unit) :
    Method (RawJsonRowStreamer input value) ErrorKind Unit := do
  let token <- onStream (Decoder.token json)
  if token = .delim '[' then do
    Method.update (setState .rows)
    let more <- onStream Decoder.more
    if more then pure ()
    else do
      closeRows json
      again
  else if token = .value Json.nullText then again
  else Method.fail (.message "expected an opening bracket for the rows")

/-- The loop of `begin`, of at most so many rounds. -/
def beginLoop : Nat -> Method (RawJsonRowStreamer input value) ErrorKind Unit
  | 0 => Method.abort
  | rounds + 1 => do
      let more <- onStream Decoder.more
      if more then do
        let token <- onStream (Decoder.token json)
        let rowsAttrib <- Method.gets rowsAttrib
        match token with
        | .string key =>
            if key = rowsAttrib then beginRows json (beginLoop rounds)
            else do
              readAttrib json key
              beginLoop rounds
        | _ => Method.fail (.message "expected a string key for the result")
      else Method.update (setState .ended)

/-- The number of bytes that are not read yet. -/
def size (s : RawJsonRowStreamer input value) : Nat :=
  ByteSource.size s.stream.input

/-- A round of the loop reads a key at least, so there are no more rounds than bytes. -/
def begin : Method (RawJsonRowStreamer input value) ErrorKind Unit := do
  let state <- Method.gets state
  if state = .start then do
    let first <- onStream (Decoder.token json)
    if first = .delim '\x7b' then do
      let n <- Method.gets size
      beginLoop json (n + 1)
    else Method.fail (.message "expected an opening brace for the result")
  else Method.fail (.message "unexpected parsing state during begin")

def hasMoreRows : Method (RawJsonRowStreamer input value) ErrorKind Bool := do
  let state <- Method.gets state
  if state = .rows then onStream Decoder.more else pure false

def readPrelude : Method (RawJsonRowStreamer input value) ErrorKind Buffer := do
  begin json
  encodeAttribs json "failed to read prelude: "

def epilog : Method (RawJsonRowStreamer input value) ErrorKind Buffer :=
  encodeAttribs json "failed to read epilogue: "

/-- The loop of `next` behind the rows, of at most so many rounds. -/
def metadataLoop : Nat -> Method (RawJsonRowStreamer input value) ErrorKind RawJsonRowItem
  | 0 => Method.abort
  | rounds + 1 => do
      let token <- onStream (Decoder.token json)
      if token = .delim '\x7d' then do
        Method.update (setState .ended)
        let metadata <- encodeAttribs json "failed to encode metadata: "
        pure (.metadata metadata)
      else
        match token with
        | .string key => do
            readAttrib json key
            metadataLoop rounds
        | _ => Method.fail (.message "expected a string key for the result")

def nextRow : Method (RawJsonRowStreamer input value) ErrorKind RawJsonRowItem := do
  let row <- onStream Decoder.decode
  let more <- onStream Decoder.more
  if more then pure (.row row)
  else do
    closeRows json
    pure (.row row)

def next : Method (RawJsonRowStreamer input value) ErrorKind (Option RawJsonRowItem) := do
  let state <- Method.gets state
  if state = .ended then pure none
  else if state = .postRows then do
    let n <- Method.gets size
    let item <- metadataLoop json (n + 1)
    pure (some item)
  else do
    let item <- nextRow json
    pure (some item)

end RawJsonRowStreamer

/-!
# Runs
-/

inductive Call where
  | readPrelude | next | hasMoreRows | epilog
deriving DecidableEq, Repr

inductive Answer where
  | prelude (bytes : Buffer)
  | item (item : Option RawJsonRowItem)
  | moreRows (more : Bool)
  | epilog (bytes : Buffer)
deriving DecidableEq

namespace RawJsonRowStreamer

variable {input value : Type} [ByteSource input] (json : SerdeJson value)

def call : Call -> Method (RawJsonRowStreamer input value) ErrorKind Answer
  | .readPrelude => do
      let bytes <- readPrelude json
      pure (.prelude bytes)
  | .next => do
      let item <- next json
      pure (.item item)
  | .hasMoreRows => do
      let more <- hasMoreRows
      pure (.moreRows more)
  | .epilog => do
      let bytes <- epilog json
      pure (.epilog bytes)

/-- The answers to the calls, as long as the streamer does not abort. -/
def run (s : RawJsonRowStreamer input value) : List Call -> List (Option (Except ErrorKind Answer))
  | [] => []
  | c :: calls =>
      match call json c s with
      | some (answer, s') => some answer :: run s' calls
      | none => [none]

end RawJsonRowStreamer
end Httpx
end CouchbaseSdk
