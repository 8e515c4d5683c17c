import KeyApproval.Delivery.Activation
import KeyApproval.Delivery.Flag
import KeyApproval.Delivery.Sink
import KeyApproval.Text.Utf8

/-!
# Delivery to an activated socket

The module `sd_socket` serves one client of a listening socket that was passed to the process, and sends it
the secret. It is disabled unless the command line or its table says otherwise, and the command line wins.
A socket that is passed while the module is disabled is a mistake, and so is none or more than one while it
is enabled.
-/

namespace KeyApproval

/-- Where a listening socket comes from. -/
inductive Listener where
  | given
  | inherited (descriptor : Nat)
  deriving DecidableEq

/-- What the environment said about sockets. -/
abbrev Environment := Except DeliveryError Activation

/-- What the environment said, if reading it came to an end. -/
def ActivationReading.environment? : ActivationReading → Option Environment
  | .read a => some (.ok a)
  | .rejected e => some (.error e)
  | .unallocatable _ => none

/-- What is wrong with the socket or with its client, if anything. A client is awaited for as long as it takes,
so a delivery to which none comes has no end; that is none of these. -/
structure SocketFaults where
  unblock : Option String := none
  register : Option String := none
  accept : Option String := none
  /-- How much the client takes before the connection breaks, and why it breaks. -/
  send : Option (Nat × String) := none
  close : Option String := none

namespace SocketFaults

/-- Why nobody can listen to the socket. -/
def registration? (f : SocketFaults) : Option Failure :=
  match f.unblock, f.register with
  | some cause, _ => some ⟨"Failed to make the activated socket non-blocking", [cause]⟩
  | none, some cause => some ⟨"Failed to register socket", [cause]⟩
  | none, none => none

def closing (f : SocketFaults) : Except Failure Unit :=
  match f.close with
  | some cause => .error ⟨"Failed to close connection", [cause]⟩
  | none => .ok ()

/-- Sends to a client that is there: what comes of it, and what the client gets. -/
def transmit (f : SocketFaults) (bytes : List UInt8) : Except Failure Unit × List UInt8 :=
  match f.send with
  | none => (f.closing, bytes)
  | some (room, cause) =>
    if bytes.length ≤ room then (f.closing, bytes)
    else (.error ⟨"Failed to send the key", [cause]⟩, bytes.take room)

end SocketFaults

structure SocketSink where
  enabled : Bool := false
  commandLine : Option Bool := none
  /-- The environment to look at once, before that of the process. -/
  environment : Option Environment := none
  processEnvironment : Environment := .ok .none
  preset : Option Listener := none
  listener : Option Listener := none
  faults : SocketFaults := {}
  /-- What each client got. -/
  served : List (List UInt8) := []

namespace SocketSink

/-- Fixes the flag, whatever the configuration says. -/
def fix (m : SocketSink) (enabled : Bool) : SocketSink :=
  { m with enabled, commandLine := some enabled }

/-- Looks at these variables, as they are seen by process `pid`, before those of the process. There is no
such module when reading them does not come to an end. -/
def lookAt? (lookup : String → Option String) (pid : UInt32) (m : SocketSink) : Option SocketSink :=
  (Activation.ofVariables lookup pid).environment?.map fun environment =>
    { m with environment := some environment }

def configure (table : Toml.Table) (m : SocketSink) : Except Failure Unit × SocketSink :=
  if m.commandLine.isSome then (.ok (), m)
  else
    match readFlag "use_socket" table with
    | .ok flag => (.ok (), { m with enabled := flag.getD m.enabled })
    | .error f => (.error f, m)

/-- The socket among those that were passed, of which there must be one. -/
def inherit (a : Activation) : Except DeliveryError Listener :=
  match a.count with
  | 0 => .error .socketMissing
  | 1 => .ok (.inherited Activation.firstDescriptor)
  | n => .error (.tooManySockets n)

/-- The listener to serve, if any. An environment that cannot be read counts as no sockets while the
module is disabled. -/
def findListener (m : SocketSink) (environment : Environment) : Except DeliveryError (Option Listener) :=
  if m.enabled then do
    let a ← environment
    match m.preset with
    | some l => return some l
    | none => return some (← inherit a)
  else
    match environment with
    | .ok a => if 0 < a.count then .error .socketDisabled else .ok none
    | .error _ => .ok none

def start (m : SocketSink) : Except Failure Unit × SocketSink :=
  let found := m.findListener (m.environment.getD m.processEnvironment)
  let m := { m with environment := none }
  match found with
  | .error e => (.error (.ofText e.message), m)
  | .ok none => (.ok (), m)
  | .ok (some l) =>
    match m.faults.registration? with
    | some f => (.error f, { m with preset := none })
    | none => (.ok (), { m with preset := none, listener := some l })

/-- Sends the bytes of the secret and nothing else. -/
def deliver (secret : String) (m : SocketSink) : Except Failure Unit × SocketSink :=
  match m.listener, m.faults.accept with
  | none, _ => (.error (.ofText "Socket module was not initialized"), m)
  | some _, some cause => (.error ⟨"Failed to accept a connection", [cause]⟩, m)
  | some _, none =>
    let (result, got) := m.faults.transmit (Text.Utf8.encodeString secret)
    (result, { m with served := m.served ++ [got] })

def cleanUp (m : SocketSink) : SocketSink := { m with listener := none, preset := none }

instance : Sink SocketSink where
  name _ := "sd_socket"
  isEnabled := enabled
  perform
    | .configure table => configure table
    | .start => start
    | .deliver secret => deliver secret
    | .report _ => fun m => (.ok (), m)
    | .cleanUp => fun m => (.ok (), m.cleanUp)

end SocketSink

end KeyApproval
