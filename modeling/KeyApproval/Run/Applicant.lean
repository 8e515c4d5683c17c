import KeyApproval.Client.Call
import KeyApproval.Polling
import KeyApproval.Run.Error

/-!
# Applicants

An applicant asks for a key: the request is created, polled until there is a decision, and fulfilled. Each
step looks at the ticket first and does nothing when it is out of turn. A step that fails leaves the ticket
failed, and a denial leaves it denied. Calls and sleeps end early when the token fires.
-/

namespace KeyApproval

/-- A ticket and the world in which it is handled. -/
structure Session where
  ticket : Ticket
  world : World

/-- Why a step does not come to its end: with an error, or never. -/
inductive Stop where
  | error (e : RunError)
  | hung

abbrev Step := ExceptT Stop (StateM Session)

structure Applicant where
  client : Client
  polling : Polling
  /-- Whether somebody is told about events. -/
  observed : Bool

namespace Applicant

def fail {α : Type} (e : RunError) : Step α := throw (.error e)

def logLine (level : Level) (text : String) : Step Unit :=
  modify fun s => { s with world := s.world.log level text }

/-- Gives up the ticket with an error. -/
def giveUp {α : Type} (e : RunError) : Step α := do
  let s ← get
  logLine .warn ("Key request '" ++ s.ticket.handle ++ "' failed: " ++ e.message)
  modify fun s => { s with ticket := s.ticket.fail }
  fail e

def tell (a : Applicant) (e : Event) : Step Unit :=
  if a.observed then modify fun s => { s with world := s.world.tell e } else pure ()

/-- Moves the ticket to its next stage and tells the observer. -/
def moveTo (a : Applicant) (next : Stage) : Step Unit := do
  let ticket := (← get).ticket
  match ticket.move next with
  | .error e => fail (.transition e)
  | .ok moved =>
    modify fun s => { s with ticket := moved }
    a.tell (.stateChanged moved.id ticket.stage next)

def expectStage (expected : Stage) : Step Unit := do
  let stage := (← get).ticket.stage
  if stage = expected then pure ()
  else if stage.isTerminal then fail (.terminal stage)
  else fail (.outOfOrder expected stage)

def pendingNumber : Step UInt64 := do
  expectStage .pending
  match (← get).ticket.id with
  | some id => pure id
  | none => fail (.outOfOrder .pending .created)

/-- Makes a call unless the token is fired already, and gives up the ticket when the call fails or is
interrupted. -/
def ask {α : Type} (action : World → Arrival (Except ClientError α) × World) : Step α := do
  let s ← get
  if s.world.isFired then giveUp .cancelled
  else
    let (arrival, world) := action s.world
    set { s with world }
    match arrival with
    | .value (.ok a) => pure a
    | .value (.error e) => giveUp (.client e)
    | .interrupted => giveUp .cancelled
    | .never => throw .hung

def create (a : Applicant) : Step Unit := do
  expectStage .created
  let handle := (← get).ticket.handle
  logLine .info ("Requesting key '" ++ handle ++ "'")
  let id ← ask (a.client.requestKey handle)
  modify fun s => { s with ticket := { s.ticket with id := some id } }
  a.moveTo .pending

def poll (a : Applicant) : Step Stage := do
  let id ← pendingNumber
  let stage ← ask (a.client.inquire id)
  match stage with
  | .pending => pure stage
  | .accepted | .denied =>
    a.moveTo stage
    pure stage
  | _ => giveUp (.unexpectedState id stage)

/-- One more, up to the greatest number there is. -/
def countUp (attempts : UInt32) : UInt32 := if attempts = 0xFFFFFFFF then attempts else attempts + 1

/-- Sleeps between two polls. A fired token is noticed before. -/
def sleep (a : Applicant) : Step Unit := do
  let s ← get
  if s.world.isFired then giveUp .cancelled
  else
    let (arrival, world) :=
      (s.world.record (.slept a.polling.intervalMs)).wait a.polling.intervalMs
    set { s with world }
    match arrival with
    | .value () => pure ()
    | .interrupted => giveUp .cancelled
    | .never => throw .hung

/-- Polls until there is a decision. Every poll takes an answer from the script or fails, so `answers`,
the number of answers left and one more, bounds the number of polls. -/
def pollFrom (a : Applicant) (id : UInt64) : (answers : Nat) → (attempts : UInt32) → Step Unit
  | 0, _ => throw .hung
  | answers + 1, attempts => do
    let stage ← a.poll
    let attempts := countUp attempts
    match stage with
    | .denied =>
      logLine .warn s!"Key request {id} was denied"
      fail (.denied id)
    | .pending =>
      if a.polling.allows attempts then
        a.tell (.pollWaiting id attempts a.polling.intervalMs)
        a.sleep
        a.pollFrom id answers attempts
      else giveUp (.pollLimitExceeded id attempts)
    | _ => pure ()

def awaitDecision (a : Applicant) : Step Unit := do
  let id ← pendingNumber
  if a.polling.allows 0 then a.pollFrom id ((← get).world.script.length + 1) 0
  else giveUp (.pollLimitExceeded id 0)

def fulfill (a : Applicant) : Step String := do
  expectStage .accepted
  match (← get).ticket.id with
  | none => giveUp (.outOfOrder .accepted .created)
  | some id =>
    let secret ← ask (a.client.collect id)
    a.moveTo .fulfilled
    logLine .info s!"Key request {id} fulfilled"
    pure secret

def run (a : Applicant) : Step String := do
  a.create
  a.awaitDecision
  a.fulfill

end Applicant

def Step.on {α : Type} (step : Step α) (s : Session) : Except Stop α × Session :=
  StateT.run (ExceptT.run step) s

end KeyApproval
