/-!
# Tickets

The local view of one request for a key. Its stage changes only by the allowed moves, and a terminal stage
is never left.
-/

namespace KeyApproval

inductive Stage where
  | created
  | pending
  | accepted
  | denied
  | fulfilled
  | failed
  deriving DecidableEq

namespace Stage

def text : Stage → String
  | created => "CREATED"
  | pending => "PENDING"
  | accepted => "ACCEPTED"
  | denied => "DENIED"
  | fulfilled => "FULFILLED"
  | failed => "FAILED"

/-- The stages that a server reports. -/
def ofServer? (text : String) : Option Stage :=
  [pending, accepted, denied, fulfilled].find? (·.text == text)

def isTerminal : Stage → Bool
  | denied | fulfilled | failed => true
  | created | pending | accepted => false

def canBecome : Stage → Stage → Bool
  | created, pending | created, failed => true
  | pending, pending | pending, accepted | pending, denied | pending, failed => true
  | accepted, fulfilled | accepted, failed => true
  | _, _ => false

end Stage

structure ForbiddenMove where
  before : Stage
  after : Stage
  deriving DecidableEq

def ForbiddenMove.message (m : ForbiddenMove) : String :=
  "Invalid state transition: " ++ m.before.text ++ " -> " ++ m.after.text

structure Ticket where
  id : Option UInt64
  handle : String
  stage : Stage
  deriving DecidableEq

namespace Ticket

def new (handle : String) : Ticket := ⟨none, handle, .created⟩

def move (t : Ticket) (next : Stage) : Except ForbiddenMove Ticket :=
  if t.stage.canBecome next then .ok { t with stage := next } else .error ⟨t.stage, next⟩

/-- The ticket after a failure; a terminal stage stays as it is. -/
def fail (t : Ticket) : Ticket :=
  if t.stage.isTerminal then t else { t with stage := .failed }

theorem isTerminal_stage_fail (t : Ticket) : t.fail.stage.isTerminal = true := by
  by_cases h : t.stage.isTerminal = true
  · simp only [fail, h, if_true]
  · simp only [fail, h]
    rfl

end Ticket

end KeyApproval
