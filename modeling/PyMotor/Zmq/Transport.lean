import PyMotor.Lib.Dict
import PyMotor.Lib.Run
import PyMotor.Zmq.Protocol

/-!
# The transport of a worker

`_SchedulerTransport` in `scheduler_client.py`: the coroutines `connect`, `disconnect`, `send_request` and
`_receive_loop` over one socket. What a coroutine does between two suspensions is one step; the sections under
`_request_lock`, `_encode_lock` and `_decode_lock` never suspend, so those locks are never found taken. The network
holds the multipart messages on their way to the worker; it may lose, delay, repeat and invent them.
-/

namespace PyMotor.Zmq

open Lib

/-- `(event, request_timestamp)`; an event is named by the call that made it. -/
structure PendingInfo where
  event : Option Nat
  timestamp : Int

inductive ReceiveTask
  | none
  | created
  | running
  | ended
deriving DecidableEq

/-- How a call of `send_request` returned. -/
inductive CallExit
  | notConnected
  | done (response : Option SchedulerResponse)
  | timedOut
  | cancelled
  | failed

/-- What the caller gets. -/
def CallExit.result : CallExit → Option SchedulerResponse
  | .done response => response
  | _ => .none

inductive SendPhase
  | sending
  | waiting
  | returned (exit : CallExit)

/-- A call of `send_request`, with its `asyncio.Event`. -/
structure SendCall where
  requestId : String
  requestTimestamp : Int
  phase : SendPhase
  eventSet : Bool := false

/-- The serializer: the codec, and the depth at which the interpreter ends a recursion with an exception. -/
structure Serializer where
  codec : Codec
  recursionLimit : Nat

structure SchedulerTransport where
  serializer : Serializer
  timeout : Int
  socket : Bool := false
  connected : Bool := false
  connectLock : Bool := false
  pendingRequests : Dict String PendingInfo := .empty
  pendingResponses : Dict String SchedulerResponse := .empty
  receiveTask : ReceiveTask := .none
  stopEvent : Bool := false
  /-- The calls of `disconnect` that have not come to `_close_connection`. -/
  closing : Nat := 0
  calls : List SendCall := []
  inFlight : List (List Bytes) := []

/-- How far `connect` came before an exception. -/
inductive ConnectOutcome
  | ok
  | raised (socket : Bool)

inductive TransportEvent
  | connect (outcome : ConnectOutcome)
  | connectCancelled
  | disconnect
  | closeConnection
  | sendRequest (requestId : String) (now : Int)
  | requestSent (call : Nat)
  | sendRaised (call : Nat)
  | wake (call : Nat)
  | timeout (call : Nat)
  | cancel (call : Nat)
  | answer (parts : List Bytes)
  | lose (message : Nat)
  | startLoop
  | receive (message : Nat) (now : Int)

namespace SchedulerTransport

def cleanupDelay (s : SchedulerTransport) : Int := s.timeout * 2

/-- `connect`: the exception handler waits for the lock that `connect` itself holds. -/
def connect (s : SchedulerTransport) (outcome : ConnectOutcome) : SchedulerTransport :=
  if s.connectLock then s
  else if s.connected then s
  else match outcome with
    | .ok => { s with socket := true, connected := true, receiveTask := .created }
    | .raised socket => { s with socket := s.socket || socket, connectLock := true }

/-- `disconnect` up to `_close_connection`. -/
def disconnect (s : SchedulerTransport) : SchedulerTransport :=
  { s with stopEvent := true, receiveTask := .none, closing := s.closing + 1 }

/-- `_close_connection` at the end of `disconnect`. -/
def closeConnection (s : SchedulerTransport) : SchedulerTransport :=
  if s.closing = 0 ∨ s.connectLock then s
  else { s with connected := false, socket := false, closing := s.closing - 1 }

def setPhase (s : SchedulerTransport) (call : Nat) (phase : SendPhase) : SchedulerTransport :=
  { s with calls := s.calls.modify call fun c => { c with phase } }

/-- `self._pending_requests.pop(request_id, None)` and `self._pending_responses.pop(request_id, None)`. -/
def dropPending (s : SchedulerTransport) (requestId : String) : SchedulerTransport :=
  { s with
    pendingRequests := s.pendingRequests.erase requestId
    pendingResponses := s.pendingResponses.erase requestId }

/-- `send_request` up to the first suspension. -/
def sendRequest (s : SchedulerTransport) (requestId : String) (now : Int) : SchedulerTransport :=
  if s.connected && s.socket then
    { s with
      pendingRequests := s.pendingRequests.set requestId { event := some s.calls.length, timestamp := now }
      calls := s.calls ++ [{ requestId, requestTimestamp := now, phase := .sending }] }
  else
    { s with calls := s.calls ++ [{ requestId, requestTimestamp := now, phase := .returned .notConnected }] }

/-- The section of `send_request` after `asyncio.TimeoutError`. -/
def timedOut (s : SchedulerTransport) (call : Nat) (c : SendCall) : SchedulerTransport :=
  let s := s.setPhase call (.returned .timedOut)
  if s.pendingRequests.contains c.requestId then
    { s with
      pendingRequests := s.pendingRequests.set c.requestId { event := none, timestamp := c.requestTimestamp } }
  else s

def isSet (s : SchedulerTransport) (call : Nat) : Bool := ((s.calls[call]?).map SendCall.eventSet).getD false

/-- The section of `send_request` after the event. -/
def awake (s : SchedulerTransport) (call : Nat) (c : SendCall) : SchedulerTransport :=
  match s.pendingRequests.get? c.requestId with
  | some info =>
      let response :=
        if (info.event.map s.isSet).getD false then s.pendingResponses.get? c.requestId else none
      (s.dropPending c.requestId).setPhase call (.returned (.done response))
  | none =>
      { s with pendingResponses := s.pendingResponses.erase c.requestId }.setPhase call (.returned (.done none))

/-- The section of `_receive_loop` for a decoded response. -/
def handleResponse (s : SchedulerTransport) (response : SchedulerResponse) (now : Int) : SchedulerTransport :=
  match s.pendingRequests.get? response.requestId with
  | none => { s with pendingResponses := s.pendingResponses.erase response.requestId }
  | some info =>
      match info.event with
      | none =>
          if now - info.timestamp > s.cleanupDelay then s.dropPending response.requestId else s
      | some call =>
          if s.isSet call then { s with pendingResponses := s.pendingResponses.erase response.requestId }
          else
            { s with
              pendingResponses := s.pendingResponses.set response.requestId response
              calls := s.calls.modify call fun c => { c with eventSet := true } }

/-- The condition of the loop. -/
def goesOn (s : SchedulerTransport) : Bool := !s.stopEvent && s.connected && s.socket

/-- The end of an iteration. -/
def nextIteration (s : SchedulerTransport) : SchedulerTransport :=
  { s with receiveTask := if s.goesOn then .running else .ended }

/-- `self._serializer.deserialize_response(unpack_recv_payload(parts))`, with `none` for an exception. -/
def decode (s : SchedulerTransport) (parts : List Bytes) : Option SchedulerResponse :=
  match (deserializeResponse s.serializer.codec s.serializer.recursionLimit (unpackRecvPayload parts)).run with
  | some (.ok response) => some response
  | _ => none

/-- An iteration of `_receive_loop` for a message; an exception of the decoder ends the loop. -/
def receive (s : SchedulerTransport) (parts : List Bytes) (now : Int) : SchedulerTransport :=
  if parts.length < 2 then s.nextIteration
  else match s.decode parts with
    | some response => (s.handleResponse response now).nextIteration
    | none => { s with receiveTask := .ended }

/-- Do something with a call in a phase that admits it. -/
def withCall (s : SchedulerTransport) (call : Nat) (admits : SendCall → Bool)
    (f : SendCall → SchedulerTransport) : SchedulerTransport :=
  match s.calls[call]? with
  | some c => if admits c then f c else s
  | none => s

end SchedulerTransport

namespace SendCall

def isSending (c : SendCall) : Bool :=
  match c.phase with
  | .sending => true
  | _ => false

def isWaiting (c : SendCall) : Bool :=
  match c.phase with
  | .waiting => true
  | _ => false

/-- The response that the call has returned. -/
def result (c : SendCall) : Option SchedulerResponse :=
  match c.phase with
  | .returned exit => exit.result
  | _ => none

end SendCall

namespace SchedulerTransport

def step (s : SchedulerTransport) : TransportEvent → SchedulerTransport
  | .connect outcome => s.connect outcome
  | .connectCancelled => { s with connectLock := false }
  | .disconnect => s.disconnect
  | .closeConnection => s.closeConnection
  | .sendRequest requestId now => s.sendRequest requestId now
  | .requestSent call => s.withCall call SendCall.isSending fun _ => s.setPhase call .waiting
  | .sendRaised call =>
      s.withCall call SendCall.isSending fun c => (s.dropPending c.requestId).setPhase call (.returned .failed)
  | .wake call => s.withCall call (fun c => c.isWaiting && c.eventSet) fun c => s.awake call c
  | .timeout call => s.withCall call SendCall.isWaiting fun c => s.timedOut call c
  | .cancel call =>
      s.withCall call (fun c => c.isSending || c.isWaiting) fun c =>
        (s.dropPending c.requestId).setPhase call (.returned .cancelled)
  | .answer parts => { s with inFlight := s.inFlight ++ [parts] }
  | .lose message => { s with inFlight := s.inFlight.eraseIdx message }
  | .startLoop => if s.receiveTask = .created then s.nextIteration else s
  | .receive message now =>
      match s.inFlight[message]? with
      | some parts =>
          if s.receiveTask = .running then { s with inFlight := s.inFlight.eraseIdx message }.receive parts now else s
      | none => s

/-! ## What is asked of the bookkeeping -/

/-- A new call has an id of its own. -/
def FreshId (s : SchedulerTransport) : TransportEvent → Prop
  | .sendRequest requestId _ => ∀ c ∈ s.calls, c.requestId ≠ requestId
  | _ => True

/-- The message is a response to the call. -/
def Answers (s : SchedulerTransport) (parts : List Bytes) (c : SendCall) : Prop :=
  2 ≤ parts.length ∧ ∃ response, s.decode parts = some response ∧ response.requestId = c.requestId

/-- Neither table has an entry for the id. -/
def Forgotten (s : SchedulerTransport) (requestId : String) : Prop :=
  s.pendingRequests.get? requestId = none ∧ s.pendingResponses.get? requestId = none

/-- The loop receives a response to a call that has timed out, more than the cleanup delay after it was made. -/
def LateAnswer (s : SchedulerTransport) (call : Nat) : TransportEvent → Prop
  | .receive message now =>
      s.receiveTask = .running ∧ ∃ parts c, s.inFlight[message]? = some parts ∧ s.calls[call]? = some c ∧
        c.phase = .returned .timedOut ∧ s.Answers parts c ∧ s.cleanupDelay < now - c.requestTimestamp
  | _ => False

/-- Some event of the run was a late answer to the call. -/
def AnsweredLate (s : SchedulerTransport) (es : List TransportEvent) (call : Nat) : Prop :=
  ∃ es₁ e es₂, es = es₁ ++ e :: es₂ ∧ LateAnswer (run step s es₁) call e

/-- The responses that the calls returned. -/
def returnedResponses (s : SchedulerTransport) : List SchedulerResponse := s.calls.filterMap SendCall.result

/-! ## What is asked of the connection -/

/-- The receive loop is about to run or runs. -/
def LoopRuns (s : SchedulerTransport) : Prop := s.receiveTask = .created ∨ s.receiveTask = .running

/-- Outside of `disconnect`, a connected transport runs its receive loop. -/
def Served (s : SchedulerTransport) : Prop := s.closing = 0 → s.connected = true → s.LoopRuns

/-- A message that the loop receives decodes, and `connect` is not called after `disconnect`. -/
def Sound (s : SchedulerTransport) : TransportEvent → Prop
  | .connect _ => s.stopEvent = false
  | .receive message _ =>
      ∀ parts, s.inFlight[message]? = some parts → s.receiveTask = .running → 2 ≤ parts.length →
        (s.decode parts).isSome
  | _ => True

end SchedulerTransport

end PyMotor.Zmq
