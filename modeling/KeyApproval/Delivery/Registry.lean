import KeyApproval.Delivery.Sink
import KeyApproval.Run.World

/-!
# The registry of modules

The modules of a run in the order of their registration, which is the order of delivery. The outcome of a
run is dispatched at most once, as a success or as a failure; cleaning up empties the registry. What an
operation did is a round: the registry after it, the calls it made, and all failures among them, of which
the first is its result.
-/

namespace KeyApproval

structure Registry (σ : Type) where
  members : List (Member σ)
  /-- How many modules were ever registered; it numbers the next one. -/
  registered : Nat
  dispatched : Bool

structure Round (σ : Type) where
  registry : Registry σ
  calls : List (Call σ)
  failures : List DeliveryError

namespace Round

variable {σ : Type}

def error? (r : Round σ) : Option DeliveryError := r.failures.head?

def result (r : Round σ) : Except DeliveryError Unit :=
  match r.error? with
  | some e => .error e
  | none => .ok ()

/-- The failures after the first are logged. -/
def logs (r : Round σ) : List LogLine := r.failures.tail.map fun e => ⟨.error, e.message⟩

end Round

/-! ### Visits -/

/-- What is to become of a module in its turn: it is passed over, the whole round ends before it, or it is
given a task. -/
inductive Plan where
  | pass
  | refuse (e : DeliveryError)
  | give (task : Task)

/-- A visit to modules in order: the modules after it, the calls, and the failure that ended it. -/
structure Visit (σ : Type) where
  members : List (Member σ)
  calls : List (Call σ)
  failure : Option DeliveryError

variable {σ : Type} [Sink σ]

/-- Gives each module what is planned for it, up to the first failure. -/
def Visit.run (plan : Member σ → Plan) : List (Member σ) → Visit σ
  | [] => ⟨[], [], none⟩
  | m :: rest =>
    match plan m with
    | .pass =>
      let later := run plan rest
      { later with members := m :: later.members }
    | .refuse e => ⟨m :: rest, [], some e⟩
    | .give task =>
      let call := m.call task
      match call.error? with
      | some e => ⟨call.after :: rest, [call], some e⟩
      | none =>
        let later := run plan rest
        ⟨call.after :: later.members, call :: later.calls, later.failure⟩

/-- A visit keeps the modules and their order. -/
theorem Visit.numbers_run (plan : Member σ → Plan) (members : List (Member σ)) :
    (Visit.run plan members).members.map Member.number = members.map Member.number := by
  induction members with
  | nil => rfl
  | cons m rest ih =>
    cases hp : plan m with
    | pass => simp [Visit.run, hp, ih]
    | refuse e => simp [Visit.run, hp]
    | give task => cases hf : (m.call task).error? <;> simp [Visit.run, hp, hf, ih, number_after_call]

namespace Registry

omit [Sink σ] in
def empty : Registry σ := ⟨[], 0, false⟩

omit [Sink σ] in
def length (r : Registry σ) : Nat := r.members.length

omit [Sink σ] in
def isEmpty (r : Registry σ) : Bool := r.members.isEmpty

def names (r : Registry σ) : List String := r.members.map Member.name

def enabledNames (r : Registry σ) : List String := (r.members.filter Member.isEnabled).map Member.name

omit [Sink σ] in
def register (r : Registry σ) (state : σ) : Registry σ :=
  { r with members := r.members ++ [⟨r.registered, state⟩], registered := r.registered + 1 }

def visit (r : Registry σ) (plan : Member σ → Plan) : Round σ :=
  let v := Visit.run plan r.members
  ⟨{ r with members := v.members }, v.calls, v.failure.toList⟩

/-- Hands each module the table that stands under its name, if there is one. -/
def configure (r : Registry σ) (document : Toml.Table) : Round σ :=
  r.visit fun m =>
    match document.get? m.name with
    | none => .pass
    | some (.table table) => .give (.configure table)
    | some _ => .refuse (.invalidConfig m.name "expected a table")

def start (r : Registry σ) : Round σ := r.visit fun _ => .give .start

/-- Gives a task to every enabled module, unless there was a dispatch before. -/
def dispatch (r : Registry σ) (task : Task) : Round σ :=
  if r.dispatched then ⟨r, [], [.alreadyDispatched]⟩
  else { r with dispatched := true }.visit fun m => if m.isEnabled then .give task else .pass

def deliver (r : Registry σ) (secret : String) : Round σ := r.dispatch (.deliver secret)

def report (r : Registry σ) (error : RunError) : Round σ := r.dispatch (.report error)

/-- Cleans up and removes every module, whatever fails. -/
def cleanUp (r : Registry σ) : Round σ :=
  let calls := r.members.map (·.call .cleanUp)
  ⟨{ r with members := [] }, calls, calls.filterMap Call.error?⟩

omit [Sink σ] in
/-- Makes the registry fit for another run. -/
def reset (r : Registry σ) : Registry σ := { r with members := [], dispatched := false }

end Registry

end KeyApproval
