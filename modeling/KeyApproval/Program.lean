import KeyApproval.Client.Transmission
import KeyApproval.Config.Settings
import KeyApproval.Delivery.SocketSink
import KeyApproval.Delivery.WriterSink
import KeyApproval.Run.Handover

/-!
# The program

From the command line and the configuration to an exit code. Everything that can be wrong before the run
begins is found before: the configuration is read, settings are put together, modules are configured, the
client is made. Then there is one run, and its outcome decides the exit code. Only the variables about sockets
are read later, by the module that needs them, and there are variables that it cannot read to their end.
-/

namespace KeyApproval.Program

/-- The modules of the program: standard output and the activated socket. -/
abbrev Outlet := WriterSink ⊕ SocketSink

/-! ### Verbosity -/

/-- The least important lines that are shown. -/
inductive Verbosity where
  | warn
  | info
  | debug
  | trace
  deriving DecidableEq

namespace Verbosity

def ofCount (n : UInt8) : Verbosity :=
  if n = 0 then warn else if n = 1 then info else if n = 2 then debug else trace

def text : Verbosity → String
  | warn => "WARN"
  | info => "INFO"
  | debug => "DEBUG"
  | trace => "TRACE"

def shows (v : Verbosity) (level : Level) : Bool :=
  match v, level with
  | warn, .info => false
  | _, _ => true

end Verbosity

/-! ### Surroundings -/

/-- What the program finds around it: the variables of its process, what it writes to, and the network. -/
structure Surroundings where
  lookup : String → Option String
  pid : UInt32
  /-- Standard output. -/
  output : Writer := {}
  /-- What is wrong with a socket that was passed, or with its client. -/
  socket : SocketFaults := {}
  /-- Whether secure connections can be made at all. -/
  hasTls : Bool := true

/-- What the variables say about sockets, if they are read to their end. -/
def Surroundings.environment? (p : Surroundings) : Option Environment :=
  (Activation.ofVariables p.lookup p.pid).environment?

/-! ### Preparation -/

/-- Why a run does not begin. -/
inductive SetupError where
  | load (e : Config.LoadError)
  | settings (e : Config.SettingsError)
  | modules (e : DeliveryError)
  | client (e : ClientError)

def SetupError.failure : SetupError → Failure
  | load e => e.failure
  | settings e => .ofText e.message
  | modules e => .ofText e.message
  | client e => .ofText e.message

/-- Where configuration files are, and what is found at a path. -/
structure Files where
  defaultPath : Option String
  read : String → Config.Content

def loadDocument (a : Arguments) (files : Files) : Except Config.LoadError Config.Document :=
  match a.config, files.defaultPath with
  | some path, _ => Config.Document.ofContent path true (files.read path)
  | none, some path => Config.Document.ofContent path false (files.read path)
  | none, none => .ok {}

def socketModule (a : Arguments) (p : Surroundings) : SocketSink :=
  -- without an environment no module gets as far as to look at it
  let m : SocketSink := { processEnvironment := p.environment?.getD (.ok .none), faults := p.socket }
  if a.sdSocket then m.fix true else m

def newRegistry (a : Arguments) (p : Surroundings) : Registry Outlet :=
  (Registry.empty.register (.inl { writer := p.output })).register (.inr (socketModule a p))

def registryFor (a : Arguments) (d : Config.Document) (p : Surroundings) :
    Except DeliveryError (Registry Outlet) :=
  let round := (newRegistry a p).configure d.tables
  match round.error? with
  | some e => .error e
  | none => .ok round.registry

def newClient (s : Config.Settings) (p : Surroundings) : Except ClientError Client :=
  if p.hasTls then Client.new s.endpoint s.credentials else .error (.network none)

structure Setup where
  settings : Config.Settings
  registry : Registry Outlet
  client : Client

def prepare (a : Arguments) (files : Files) (p : Surroundings) : Except SetupError Setup := do
  let d ← (loadDocument a files).mapError .load
  let settings ← (Config.Settings.resolve a d).mapError .settings
  let registry ← (registryFor a d p).mapError .modules
  let client ← (newClient settings p).mapError .client
  return ⟨settings, registry, client⟩

/-! ### The run and its end -/

def Setup.applicant (s : Setup) : Applicant := ⟨s.client, s.settings.polling, false⟩

/-- How the program ends. It crashes in the middle of the start of its modules, after these calls, if it cannot
read the variables to their end. -/
inductive Ending where
  | unprepared (e : SetupError)
  | crashed (calls : List (Call Outlet))
  | ran (report : Report Outlet)

/-- The calls to the modules that start before the variables are read. -/
def callsBeforeReading (r : Registry Outlet) : List (Call Outlet) :=
  (r.visit fun m => if m.state.isLeft then .give .start else .pass).calls

/-- Runs the program in a world that it is told about by its settings. -/
def run (a : Arguments) (files : Files) (p : Surroundings) (world : Config.Settings → World) : Ending :=
  match prepare a files p with
  | .error e => .unprepared e
  | .ok s =>
    match p.environment? with
    | none => .crashed (callsBeforeReading s.registry)
    | some _ => .ran (Handover.run s.applicant a.keyHandle s.registry (world s.settings))

def configExitCode : UInt8 := 2

/-- The exit code, unless the program never ends or crashes. -/
def exitCode? : Ending → Option UInt8
  | .unprepared _ => some configExitCode
  | .crashed _ => none
  | .ran report =>
    match report.result with
    | .ok _ => some 0
    | .error (.error e) => some e.exitCode
    | .error .hung => none

/-- What is logged about an occurrence. Here it is a signal that fires the token. -/
def lineOf? : Occurrence → Option LogLine
  | .logged line => some line
  | .interrupted => some ⟨.info, "SIGTERM received, cancelling key request"⟩
  | _ => none

/-- The line that reports the error of a run. -/
def reportLine (e : RunError) : LogLine := ⟨.error, e.message⟩

def lastLine? : Ending → Option LogLine
  | .unprepared e => some ⟨.error, e.failure.text⟩
  | .crashed _ => none
  | .ran report =>
    match report.result with
    | .ok d => some ⟨.info, s!"Key request {d.id} fulfilled"⟩
    | .error (.error e) => some (reportLine e)
    | .error .hung => none

def logs (ending : Ending) : List LogLine :=
  let earlier := match ending with
    | .unprepared _ | .crashed _ => []
    | .ran report => (Activity.occurrencesOf report.activity).filterMap lineOf?
  earlier ++ (lastLine? ending).toList

def writtenBy (c : Call Outlet) : List UInt8 :=
  match c.before.state, c.after.state with
  | .inl before, .inl after => after.writer.taken.drop before.writer.taken.length
  | _, _ => []

def written (report : Report Outlet) : List UInt8 := (Activity.callsOf report.activity).flatMap writtenBy

end KeyApproval.Program
