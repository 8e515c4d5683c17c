import KeyApproval.Client.Request
import KeyApproval.Ticket

/-!
# The world around a run

A run meets a server that answers from a script, a clock, and a token that anybody may fire to cancel it.
Time moves only while everything waits. What happens is kept in a trace, in order.
-/

namespace KeyApproval

/-- How important a log line is. Lines for debugging, below these three, are not kept. -/
inductive Level where
  | error
  | warn
  | info
  deriving DecidableEq

def Level.text : Level → String
  | error => "ERROR"
  | warn => "WARN"
  | info => "INFO"

structure LogLine where
  level : Level
  text : String
  deriving DecidableEq

/-- What the observer of a run is told. -/
inductive Event where
  | stateChanged (id : Option UInt64) (before after : Stage)
  | pollWaiting (id : UInt64) (attempt : UInt32) (intervalMs : Nat)
  deriving DecidableEq

inductive Occurrence where
  | sent (request : Request)
  | emitted (event : Event)
  | logged (line : LogLine)
  | slept (intervalMs : Nat)
  | interrupted

/-- What the server does with one request: it may fire the token when the request arrives, takes its
time, and answers, fails or stays silent for ever. -/
structure ServerStep where
  firesToken : Bool
  delayMs : Nat
  reply : Option (Except ClientError Http.Response)

/-- How requests leave: the check before sending, and the failure when nobody answers any more. -/
structure Transport where
  check : Request → Except ClientError Unit
  exhausted : ClientError

structure Token where
  fired : Bool
  /-- The time at which the token fires, if it was not fired before. -/
  fireAtMs : Option Nat
  /-- The event whose observer fires the token, counted from the first of all. -/
  fireOnEvent : Option Nat

structure World where
  transport : Transport
  clock : Nat → Calendar.Instant
  /-- How often the clock was read. -/
  readings : Nat
  script : List ServerStep
  nowMs : Nat
  token : Token
  events : Nat
  trace : List Occurrence

/-- How waiting for something ends: it comes, the token fires first, or neither ever happens. -/
inductive Arrival (α : Type) where
  | value (a : α)
  | interrupted
  | never

namespace World

def record (w : World) (o : Occurrence) : World := { w with trace := w.trace ++ [o] }

def log (w : World) (level : Level) (text : String) : World := w.record (.logged ⟨level, text⟩)

def logAll (w : World) (lines : List LogLine) : World :=
  { w with trace := w.trace ++ lines.map .logged }

def isFired (w : World) : Bool := w.token.fired

/-- Fires the token, which stays fired. -/
def fire (w : World) : World :=
  if w.isFired then w else { w.record .interrupted with token := { w.token with fired := true } }

/-- Tells the observer, who may fire the token. -/
def tell (w : World) (e : Event) : World :=
  let w' := { w.record (.emitted e) with events := w.events + 1 }
  if w.token.fireOnEvent = some w.events then w'.fire else w'

/-- Moves on to the moment at which the token fires. -/
def fireAt (w : World) (time : Nat) : World := { w.fire with nowMs := max time w.nowMs }

/-- Lets time pass, unless the token is fired or fires meanwhile. -/
def wait (w : World) (ms : Nat) : Arrival Unit × World :=
  if ms = 0 then (.value (), w)
  else if w.isFired then (.interrupted, w)
  else
    match w.token.fireAtMs with
    | some time =>
      if time ≤ w.nowMs + ms then (.interrupted, w.fireAt time)
      else (.value (), { w with nowMs := w.nowMs + ms })
    | none => (.value (), { w with nowMs := w.nowMs + ms })

/-- Waits for nothing but the token. -/
def waitForToken {α : Type} (w : World) : Arrival α × World :=
  if w.isFired then (.interrupted, w)
  else
    match w.token.fireAtMs with
    | some time => (.interrupted, w.fireAt time)
    | none => (.never, w)

/-- Lets the server act on a request that has arrived. An answer that is there at once counts even if the
token was fired meanwhile. -/
def receive (w : World) (step : ServerStep) : Arrival (Except ClientError Http.Response) × World :=
  match (if step.firesToken then w.fire else w).wait step.delayMs with
  | (.value (), w) =>
    match step.reply with
    | some reply => (.value reply, w)
    | none => w.waitForToken
  | (.interrupted, w) => (.interrupted, w)
  | (.never, w) => (.never, w)

/-- Hands a request over to the HTTP client if it passes the check, and that is when it counts as sent, whatever its
URL is. When the HTTP client does not take it, the step of the script is a failure of the network. -/
def send (w : World) (r : Request) : Arrival (Except ClientError Http.Response) × World :=
  match w.transport.check r with
  | .error e => (.value (.error e), w)
  | .ok () =>
    match w.script with
    | [] => (.value (.error w.transport.exhausted), w.record (.sent r))
    | step :: rest => { w.record (.sent r) with script := rest }.receive step

def readClock (w : World) : Calendar.Instant × World :=
  (w.clock w.readings, { w with readings := w.readings + 1 })

/-! ### Views of the trace -/

def requestsOf (trace : List Occurrence) : List Request :=
  trace.filterMap fun
    | .sent r => some r
    | _ => none

def eventsOf (trace : List Occurrence) : List Event :=
  trace.filterMap fun
    | .emitted e => some e
    | _ => none

def logsOf (trace : List Occurrence) : List LogLine :=
  trace.filterMap fun
    | .logged l => some l
    | _ => none

end World

end KeyApproval
