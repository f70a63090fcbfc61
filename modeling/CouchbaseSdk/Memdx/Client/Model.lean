import CouchbaseSdk.Foundation.FiniteMap
import CouchbaseSdk.Foundation.Gather
import CouchbaseSdk.Foundation.Transition
import CouchbaseSdk.Memdx.Codec
import Mathlib.Logic.Function.Basic

/-!
# A KV connection

One connection is a client shared by many callers, a read loop task, and at most one
call of `close`.  Callers register a handler under a fresh opaque and write a packet;
the read loop takes the handler of each response packet out of the map and sends the
response into the caller's channel.

A step is what happens between two points where another task can run: a critical
section of the map, or an `await` of the writer or of a channel.  The peer may send
any packet at any time.  Channels and locks are atomic.
-/

namespace CouchbaseSdk
namespace Memdx
namespace Client

open Foundation

/-!
# State
-/

/-- A request is named by its place in the order of registration. -/
abbrev RequestId := Nat

/-- What is sent into the response channel of a request. -/
abbrev Message := Except Error ClientResponse

/-- The sending end of the channel of a request, as the map holds it. -/
structure SenderContext where
  sender : RequestId
  isPersistent : Bool
  context : Option ResponseContext
deriving DecidableEq

abbrev OpaqueMap := FiniteMap UInt32 SenderContext

/-- Where the caller of a request stands. -/
inductive Phase where
  /-- No such request yet. -/
  | unborn
  /-- `dispatch` is running: the handler is registered, the packet is not yet written. -/
  | dispatching
  /-- `dispatch` returned a `ClientPendingOp`. -/
  | pending
  /-- `cancel` took a handler out of the map and is to send the error into its channel. -/
  | cancelling (ctx : SenderContext) (kind : CancellationErrorKind)
  /-- `dispatch` returned an error. -/
  | failed
  /-- The future of `dispatch` was dropped. -/
  | abandoned
  /-- The `ClientPendingOp` was dropped. -/
  | dropped
deriving DecidableEq

/-- The caller holds the receiving end of the channel. -/
def Phase.receiving : Phase -> Bool
  | .dispatching | .pending | .cancelling _ _ => true
  | _ => false

structure Request where
  opaqueId : UInt32
  packet : RequestPacket
  isPersistent : Bool
  phase : Phase
  /-- The messages in the response channel, which has room for one. -/
  channel : List Message
  completed : Bool
  /-- The results the caller was given: the error of `dispatch`, or a message of `recv`. -/
  outcomes : List Message
  /-- Some `recv` found the channel closed and returned `RequestCancelled`. -/
  disconnected : Bool

inductive ReadLoop where
  | selecting
  /-- A response to a persistent request, whose handler has to go back first. -/
  | reinserting (resp : ClientResponse) (ctx : SenderContext)
      (persistent : ctx.isPersistent = true)
  | sending (resp : ClientResponse) (ctx : SenderContext)
  | sendingError (ctx : SenderContext)
  /-- The loop was left; the map is still to be drained. -/
  | closing
  /-- The map was drained; these senders are still to be told.  No sender left: ended. -/
  | draining (senders : List SenderContext)
  | panicked
deriving DecidableEq

/-- The one call of `close` that does the work. -/
inductive Closer where
  | notCalled
  | closingWriter
  | writerClosed
  /-- The map was drained.  No sender left: returned. -/
  | draining (senders : List SenderContext)
  /-- The future of `close` was dropped before it drained the map. -/
  | dropped
deriving DecidableEq

structure State where
  currentOpaque : UInt32
  opaqueMap : OpaqueMap
  requests : RequestId -> Request
  dispatched : Nat
  readLoop : ReadLoop
  closer : Closer
  writerShutdown : Bool
  wire : List (RequestId × RequestPacket)
  orphans : List ResponsePacket
  unsolicited : List ResponsePacket

/-- The options of the read loop; `decompress` is the Snappy decoder. -/
structure Config where
  disableDecompression : Bool
  decompress : Buffer -> Option Buffer
  hasOrphanHandler : Bool

def Request.unborn : Request :=
  { opaqueId := 0
    packet := { magic := .req, opCode := .noop, datatype := 0 }
    isPersistent := false, phase := .unborn, channel := [], completed := false
    outcomes := [], disconnected := false }

def initial : State :=
  { currentOpaque := 1
    opaqueMap := ∅
    requests := fun _ => Request.unborn
    dispatched := 0
    readLoop := .selecting
    closer := .notCalled
    writerShutdown := false
    wire := []
    orphans := []
    unsolicited := [] }

/-!
# Requests and channels
-/

def State.setRequest (s : State) (r : RequestId) (q : Request) : State :=
  { s with requests := Function.update s.requests r q }

/-- Put a message into the channel of a request. -/
def State.push (s : State) (r : RequestId) (m : Message) : State :=
  s.setRequest r { s.requests r with channel := (s.requests r).channel ++ [m] }

def State.receiving (s : State) (r : RequestId) : Bool :=
  (s.requests r).phase.receiving

def State.hasRoom (s : State) (r : RequestId) : Bool :=
  (s.requests r).channel.length < 1

/-- A send on the channel of a request: refused once the receiving end is gone, and
not possible yet while the channel is full. -/
def State.send (s : State) (r : RequestId) (m : Message) : Option (Bool × State) :=
  if s.receiving r = false then some (false, s)
  else if s.hasRoom r then some (true, s.push r m)
  else none

/-- The receiving end goes away, and what is buffered with it. -/
def Request.hangUp (q : Request) (phase : Phase) : Request :=
  { q with phase := phase, channel := [] }

def State.eraseOpaque (s : State) (opaqueId : UInt32) : State :=
  { s with opaqueMap := s.opaqueMap.erase opaqueId }

def setPhase (s : State) (r : RequestId) (phase : Phase) : State :=
  s.setRequest r { s.requests r with phase := phase }

/-!
# Sending ends

A channel is closed when no sending end of it is left anywhere.
-/

def ReadLoop.senders : ReadLoop -> List SenderContext
  | .reinserting _ ctx _ | .sending _ ctx | .sendingError ctx => [ctx]
  | .draining senders => senders
  | _ => []

def Closer.senders : Closer -> List SenderContext
  | .draining senders => senders
  | _ => []

def Phase.senders : Phase -> List SenderContext
  | .cancelling ctx _ => [ctx]
  | _ => []

/-- The sending ends that calls of `cancel` hold. -/
def State.cancelSenders (s : State) : List SenderContext :=
  gather s.dispatched fun r => (s.requests r).phase.senders

def State.senders (s : State) : List SenderContext :=
  FiniteMap.values s.opaqueMap ++
    (s.readLoop.senders ++ (s.closer.senders ++ s.cancelSenders))

def State.channelClosed (s : State) (r : RequestId) : Bool :=
  s.senders.all fun ctx => ctx.sender != r

/-!
# Dispatching
-/

/-- The first poll of `dispatch`: open a channel and register its sending end. -/
def registerHandler (s : State) (packet : RequestPacket) (isPersistent : Bool)
    (context : Option ResponseContext) : State :=
  let r := s.dispatched
  let opaqueId := s.currentOpaque
  { s with
    currentOpaque := opaqueId + 1
    opaqueMap := s.opaqueMap.insert opaqueId
      { sender := r, isPersistent := isPersistent, context := context }
    requests := Function.update s.requests r
      { opaqueId := opaqueId
        packet := { packet with opaqueId := some opaqueId }
        isPersistent := isPersistent
        phase := .dispatching, channel := [], completed := false
        outcomes := [], disconnected := false }
    dispatched := r + 1 }

/-- `close` holds the writer lock from the end of the close to its return. -/
def Closer.holdsWriter : Closer -> Bool
  | .writerClosed => true
  | .draining (_ :: _) => true
  | _ => false

/-- The packet is written and `dispatch` returns.  Nothing can be written after a shutdown. -/
def writeOk (s : State) (r : RequestId) : Option State :=
  if (s.requests r).phase = .dispatching ∧ s.closer.holdsWriter = false ∧
      s.writerShutdown = false then
    some { s.setRequest r { s.requests r with phase := .pending } with
      wire := s.wire ++ [(r, (s.requests r).packet)] }
  else none

/-- Encoding or writing fails; `dispatch` removes the handler and returns the error. -/
def writeErr (s : State) (r : RequestId) : Option State :=
  let q := s.requests r
  if q.phase = .dispatching ∧ s.closer.holdsWriter = false then
    some ((s.eraseOpaque q.opaqueId).setRequest r
      { q.hangUp .failed with
        outcomes := q.outcomes ++ [.error (.dispatch q.opaqueId q.packet.opCode)] })
  else none

/-- The future of `dispatch` is dropped while it waits for the writer; the packet may
already be in the write buffer. -/
def abandonDispatch (s : State) (r : RequestId) (buffered : Bool) : Option State :=
  if (s.requests r).phase = .dispatching then
    some { s.setRequest r ((s.requests r).hangUp .abandoned) with
      wire := if buffered then s.wire ++ [(r, (s.requests r).packet)] else s.wire }
  else none

/-!
# Pending operations
-/

def recv (s : State) (r : RequestId) : Option State :=
  let q := s.requests r
  match q.phase, q.channel with
  | .pending, m :: rest =>
      some (s.setRequest r
        { q with channel := rest, outcomes := q.outcomes ++ [m]
                 completed := q.completed || !q.isPersistent })
  | .pending, [] =>
      if s.channelClosed r then some (s.setRequest r { q with disconnected := true })
      else none
  | _, _ => none

/-- `cancel_op`: a completed operation leaves the map alone. -/
def cancelOp (s : State) (r : RequestId) : Option SenderContext × State :=
  let q := s.requests r
  if q.completed then (none, s)
  else (s.opaqueMap.lookup q.opaqueId, s.eraseOpaque q.opaqueId)

/-- Drop runs `cancel_op`, then the receiving end goes away. -/
def dropPending (s : State) (r : RequestId) : State :=
  (cancelOp s r).2.setRequest r ((s.requests r).hangUp .dropped)

def dropOp (s : State) (r : RequestId) : Option State :=
  match (s.requests r).phase with
  | .pending => some (dropPending s r)
  | _ => none

/-- `cancel` takes the handler out of the map; without one it returns at once. -/
def cancel (s : State) (r : RequestId) (kind : CancellationErrorKind) : Option State :=
  match (s.requests r).phase with
  | .pending =>
      match cancelOp s r with
      | (none, s') => some s'
      | (some ctx, s') => some (setPhase s' r (.cancelling ctx kind))
  | _ => none

/-- The error goes to the channel of the handler that was taken.  When that channel is
gone, `unwrap` panics, which drops the operation. -/
def cancelSend (s : State) (r : RequestId) : Option State :=
  match (s.requests r).phase with
  | .cancelling ctx kind =>
      ((setPhase s r .pending).send ctx.sender (.error (.cancelled kind))).map
        fun (sent, s') => if sent then s' else dropPending s r
  | _ => none

/-- The future of a `cancel` that waits for room is dropped, and the sending end with it. -/
def abandonCancel (s : State) (r : RequestId) : Option State :=
  match (s.requests r).phase with
  | .cancelling ctx _ =>
      if s.hasRoom ctx.sender then none else some (setPhase s r .pending)
  | _ => none

/-!
# The read loop
-/

/-- The packet with its value decompressed; `none` when that fails. -/
def decompressed (cfg : Config) (packet : ResponsePacket) : Option ResponsePacket :=
  match packet.value with
  | none => some packet
  | some value =>
      if !cfg.disableDecompression &&
          (packet.datatype &&& DataTypeFlag.compressed.toU8 != 0) then
        (cfg.decompress value).map fun newValue =>
          { packet with
            datatype := packet.datatype &&& ~~~ DataTypeFlag.compressed.toU8
            value := some newValue }
      else some packet

/-- What the loop does with the handler it found. -/
def resolve (cfg : Config) (packet : ResponsePacket) (ctx : SenderContext) : ReadLoop :=
  match decompressed cfg packet with
  | none => .sendingError ctx
  | some packet =>
      let resp := { packet := packet, responseContext := ctx.context }
      if h : ctx.isPersistent = true then .reinserting resp ctx h else .sending resp ctx

def handleOrphan (cfg : Config) (s : State) (packet : ResponsePacket) : State :=
  if cfg.hasOrphanHandler then { s with orphans := s.orphans ++ [packet] } else s

/-- A packet arrives: its handler is taken out of the map, or it is an orphan. -/
def readPacket (cfg : Config) (s : State) (packet : ResponsePacket) : Option State :=
  if s.readLoop = .selecting then
    if packet.magic = .serverReq then
      some { s with unsolicited := s.unsolicited ++ [packet] }
    else
      match s.opaqueMap.lookup packet.opaqueId with
      | some ctx =>
          some { s.eraseOpaque packet.opaqueId with readLoop := resolve cfg packet ctx }
      | none => some (handleOrphan cfg s packet)
  else none

def readReinsert (s : State) : Option State :=
  match s.readLoop with
  | .reinserting resp ctx _ =>
      some { s with opaqueMap := s.opaqueMap.insert resp.packet.opaqueId ctx
                    readLoop := .sending resp ctx }
  | _ => none

/-- A failed send of a response closes the loop; a failed send of an error does not. -/
def readSend (s : State) : Option State :=
  match s.readLoop with
  | .sending resp ctx =>
      (s.send ctx.sender (.ok resp)).map fun (sent, s') =>
        { s' with readLoop := if sent then .selecting else .closing }
  | .sendingError ctx =>
      (s.send ctx.sender (.error .decompression)).map fun (_, s') =>
        { s' with readLoop := .selecting }
  | _ => none

/-- A read error, the end of the stream, or the cancellation token. -/
def readClose (s : State) : Option State :=
  if s.readLoop = .selecting then some { s with readLoop := .closing } else none

/-- The decoder panics on a frame and takes the task with it. -/
def readPanic (s : State) : Option State :=
  if s.readLoop = .selecting then some { s with readLoop := .panicked } else none

def readDrain (s : State) : Option State :=
  match s.readLoop with
  | .closing =>
      some { s with opaqueMap := ∅
                    readLoop := .draining (FiniteMap.values s.opaqueMap) }
  | _ => none

/-- Tell one drained sender that the connection closed; a send that fails is ignored. -/
def closedInFlight (s : State) (ctx : SenderContext) : Option State :=
  (s.send ctx.sender (.error (.cancelled .closedInFlight))).map Prod.snd

def readDrainSend (s : State) : Option State :=
  match s.readLoop with
  | .draining (ctx :: senders) =>
      (closedInFlight s ctx).map fun s' => { s' with readLoop := .draining senders }
  | _ => none

/-!
# Closing
-/

/-- Only the first call of `close` gets past the `closed` flag. -/
def close (s : State) : Option State :=
  match s.closer with
  | .notCalled => some { s with closer := .closingWriter }
  | _ => some s

def closeWriter (s : State) (ok : Bool) : Option State :=
  match s.closer with
  | .closingWriter =>
      some { s with closer := .writerClosed, writerShutdown := s.writerShutdown || ok }
  | _ => none

def closeDrain (s : State) : Option State :=
  match s.closer with
  | .writerClosed =>
      some { s with opaqueMap := ∅
                    closer := .draining (FiniteMap.values s.opaqueMap) }
  | _ => none

def closeDrainSend (s : State) : Option State :=
  match s.closer with
  | .draining (ctx :: senders) =>
      (closedInFlight s ctx).map fun s' => { s' with closer := .draining senders }
  | _ => none

/-- The future of `close` is dropped where it waits: for the writer, or for room in a
channel, and then the senders it still holds go with it. -/
def closeDropped (s : State) : Option State :=
  match s.closer with
  | .closingWriter => some { s with closer := .dropped }
  | .draining _ => some { s with closer := .draining [] }
  | _ => none

/-!
# Steps
-/

inductive Action where
  | register (packet : RequestPacket) (isPersistent : Bool)
      (context : Option ResponseContext)
  | writeOk (r : RequestId)
  | writeErr (r : RequestId)
  | abandonDispatch (r : RequestId) (buffered : Bool)
  | recv (r : RequestId)
  | cancel (r : RequestId) (kind : CancellationErrorKind)
  | cancelSend (r : RequestId)
  | abandonCancel (r : RequestId)
  | dropOp (r : RequestId)
  | readPacket (packet : ResponsePacket)
  | readReinsert
  | readSend
  | readClose
  | readPanic
  | readDrain
  | readDrainSend
  | close
  | closeWriter (ok : Bool)
  | closeDrain
  | closeDrainSend
  | closeDropped

def step (cfg : Config) : StepFn State Action
  | s, .register packet isPersistent context =>
      some (registerHandler s packet isPersistent context)
  | s, .writeOk r => writeOk s r
  | s, .writeErr r => writeErr s r
  | s, .abandonDispatch r buffered => abandonDispatch s r buffered
  | s, .recv r => recv s r
  | s, .cancel r kind => cancel s r kind
  | s, .cancelSend r => cancelSend s r
  | s, .abandonCancel r => abandonCancel s r
  | s, .dropOp r => dropOp s r
  | s, .readPacket packet => readPacket cfg s packet
  | s, .readReinsert => readReinsert s
  | s, .readSend => readSend s
  | s, .readClose => readClose s
  | s, .readPanic => readPanic s
  | s, .readDrain => readDrain s
  | s, .readDrainSend => readDrainSend s
  | s, .close => close s
  | s, .closeWriter ok => closeWriter s ok
  | s, .closeDrain => closeDrain s
  | s, .closeDrainSend => closeDrainSend s
  | s, .closeDropped => closeDropped s

/-!
# A small exchange
-/

def Config.plain : Config :=
  { disableDecompression := false, decompress := some, hasOrphanHandler := true }

def getRequest : RequestPacket :=
  { magic := .req, opCode := .get, datatype := 0 }

def getResponse (opaqueId : UInt32) : ResponsePacket :=
  { magic := .res, opCode := .get, datatype := 0, status := .success
    opaqueId := opaqueId }

/-- One request that is written, answered and received. -/
def answeredGet : List Action :=
  [.register getRequest false none, .writeOk 0, .readPacket (getResponse 1), .readSend,
    .recv 0]

end Client
end Memdx
end CouchbaseSdk
