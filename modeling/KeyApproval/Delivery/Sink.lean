import KeyApproval.Run.Error
import KeyApproval.Toml.Value

/-!
# Delivery modules

A module is a sink for the outcome of a run. It has a name, it may be disabled, and it is given tasks, each
of which may fail and may change the module. A call is one task given to one module, with the module as it
was before and after.
-/

namespace KeyApproval

inductive Task where
  | configure (table : Toml.Table)
  | start
  | deliver (secret : String)
  | report (error : RunError)
  | cleanUp

class Sink (σ : Type) where
  name : σ → String
  isEnabled : σ → Bool
  perform : Task → σ → Except Failure Unit × σ

/-- The kinds of module side by side. -/
instance {α β : Type} [Sink α] [Sink β] : Sink (α ⊕ β) where
  name
    | .inl a => Sink.name a
    | .inr b => Sink.name b
  isEnabled
    | .inl a => Sink.isEnabled a
    | .inr b => Sink.isEnabled b
  perform task
    | .inl a => (Sink.perform task a).map id .inl
    | .inr b => (Sink.perform task b).map id .inr

/-- A module and its number, by which calls tell apart modules of one name. -/
structure Member (σ : Type) where
  number : Nat
  state : σ

namespace Member

variable {σ : Type} [Sink σ]

def name (m : Member σ) : String := Sink.name m.state

def isEnabled (m : Member σ) : Bool := Sink.isEnabled m.state

end Member

structure Call (σ : Type) where
  before : Member σ
  task : Task
  result : Except Failure Unit
  after : Member σ

def Member.call {σ : Type} [Sink σ] (m : Member σ) (task : Task) : Call σ :=
  let (result, state) := Sink.perform task m.state
  ⟨m, task, result, { m with state }⟩

/-- How a failed call is reported: a rejected table as a fault of the configuration. -/
def Call.error? {σ : Type} [Sink σ] (c : Call σ) : Option DeliveryError :=
  match c.result, c.task with
  | .ok (), _ => none
  | .error f, .configure _ => some (.invalidConfig c.after.name f.text)
  | .error f, _ => some (.moduleFailed c.after.name f)

theorem number_after_call {σ : Type} [Sink σ] (m : Member σ) (task : Task) :
    (m.call task).after.number = m.number := rfl

end KeyApproval
