import KeyApproval.Delivery.Registry
import KeyApproval.Run.Applicant

/-!
# A whole run

The modules start, an applicant asks for the key, the secret or the error is dispatched to the modules, and
last of all every module is cleaned up. When a module does not start nobody asks. The error of a run is the
first of those of the start, the applicant, the delivery of the secret, and the clean-up. All other errors
are logged.
-/

namespace KeyApproval

/-- What happens in a run: calls to modules among everything else. -/
inductive Activity (σ : Type) where
  | called (call : Call σ)
  | happened (o : Occurrence)

namespace Activity

variable {σ : Type}

def callsOf (activity : List (Activity σ)) : List (Call σ) :=
  activity.filterMap fun
    | called c => some c
    | happened _ => none

def occurrencesOf (activity : List (Activity σ)) : List Occurrence :=
  activity.filterMap fun
    | called _ => none
    | happened o => some o

theorem callsOf_append (a b : List (Activity σ)) : callsOf (a ++ b) = callsOf a ++ callsOf b :=
  List.filterMap_append

theorem occurrencesOf_append (a b : List (Activity σ)) :
    occurrencesOf (a ++ b) = occurrencesOf a ++ occurrencesOf b :=
  List.filterMap_append

def log (level : Level) (text : String) : Activity σ := .happened (.logged ⟨level, text⟩)

/-- The calls of a round and the failures that it does not return. -/
def ofRound (r : Round σ) : List (Activity σ) :=
  r.calls.map called ++ r.logs.map fun l => .happened (.logged l)

end Activity

structure Delivered where
  handle : String
  id : UInt64
  /-- The modules that received the secret, in order. -/
  modules : List String
  deriving DecidableEq

structure Report (σ : Type) where
  result : Except Stop Delivered
  activity : List (Activity σ)
  ticket : Ticket
  registry : Registry σ
  world : World

/-- Puts activity in front of that of a report. -/
def Report.after {σ : Type} (r : Report σ) (earlier : List (Activity σ)) : Report σ :=
  { r with activity := earlier ++ r.activity }

namespace Handover

variable {σ : Type} [Sink σ]

/-- The outcome of a run before its modules are cleaned up. -/
structure Outcome (σ : Type) where
  result : Except RunError Delivered
  activity : List (Activity σ)
  ticket : Ticket
  registry : Registry σ
  world : World

def succeed (secret : String) (r : Registry σ) (s : Session) : Outcome σ :=
  let round := r.deliver secret
  let result : Except RunError Delivered :=
    match round.error?, s.ticket.id with
    | some e, _ => .error (.delivery e)
    | none, none => .error (.terminal s.ticket.stage)
    | none, some id => .ok ⟨s.ticket.handle, id, round.registry.enabledNames⟩
  ⟨result, Activity.ofRound round, s.ticket, round.registry, s.world⟩

/-- Dispatches the error, which stays the error of the run whatever the modules make of it. -/
def giveUp (e : RunError) (r : Registry σ) (s : Session) : Outcome σ :=
  let round := r.report e
  let complaint : List (Activity σ) :=
    match round.error? with
    | some f => [.log .error ("Failed to report failure to modules: " ++ f.message)]
    | none => []
  ⟨.error e, Activity.ofRound round ++ complaint, s.ticket, round.registry, s.world⟩

def close (o : Outcome σ) : Report σ :=
  let round := o.registry.cleanUp
  let finish (result : Except RunError Delivered) (last : List (Activity σ)) : Report σ :=
    ⟨result.mapError .error, o.activity ++ Activity.ofRound round ++ last, o.ticket, round.registry,
      o.world⟩
  match o.result, round.error? with
  | .ok d, none =>
    finish (.ok d)
      [.log .info ("Key '" ++ d.handle ++ "' delivered to " ++ toString d.modules.length ++ " module(s)")]
  | .ok _, some e => finish (.error (.delivery e)) []
  | .error e, none => finish (.error e) []
  | .error e, some f => finish (.error e) [.log .error ("Module cleanup failed: " ++ f.message)]

/-- Asks for a key and hands the outcome to the modules of a registry. The trace begins anew. -/
def run (a : Applicant) (handle : String) (registry : Registry σ) (world : World) : Report σ :=
  let round := registry.start
  let ticket := Ticket.new handle
  let world := { world with trace := [] }
  let started := Activity.ofRound round
  match round.error? with
  | some e => (close ⟨.error (.delivery e), [], ticket, round.registry, world⟩).after started
  | none =>
    let (result, session) := a.run.on ⟨ticket, world⟩
    let earlier := started ++ session.world.trace.map .happened
    let session := { session with world := { session.world with trace := [] } }
    match result with
    | .ok secret => (close (succeed secret round.registry session)).after earlier
    | .error (.error e) => (close (giveUp e round.registry session)).after earlier
    | .error .hung => ⟨.error .hung, earlier, session.ticket, round.registry, session.world⟩

end Handover

end KeyApproval
