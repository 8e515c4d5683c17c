import KeyApproval.Client.Error
import KeyApproval.Delivery.Error
import KeyApproval.Ticket

/-!
# Errors of a run

Everything that can end a run, the category that a caller acts on, and the exit code of each category.
-/

namespace KeyApproval

inductive RunError where
  | client (e : ClientError)
  | denied (id : UInt64)
  | unexpectedState (id : UInt64) (state : Stage)
  | pollLimitExceeded (id : UInt64) (attempts : UInt32)
  | cancelled
  | terminal (state : Stage)
  | outOfOrder (expected actual : Stage)
  | transition (e : ForbiddenMove)
  | delivery (e : DeliveryError)
  deriving DecidableEq

namespace RunError

def message : RunError → String
  | client e => e.message
  | denied id => s!"Key request {id} was denied"
  | unexpectedState id state => "Server reported state " ++ state.text ++ s!" for key request {id}"
  | pollLimitExceeded id attempts => s!"Key request {id} still pending after {attempts} polls"
  | cancelled => "Key request cancelled"
  | terminal state => "Key request is already " ++ state.text
  | outOfOrder expected actual => "Key request is " ++ actual.text ++ ", expected " ++ expected.text
  | transition e => e.message
  | delivery e => e.message

end RunError

inductive Category where
  | transport
  | authentication
  | denied
  | protocol
  | formatting
  | delivery
  | cancelled
  deriving DecidableEq

def Category.exitCode : Category → UInt8
  | denied => 3
  | transport => 4
  | authentication => 5
  | protocol => 6
  | formatting => 7
  | delivery => 8
  | cancelled => 130

def RunError.category : RunError → Category
  | client e =>
    if e.isTransport then .transport
    else if e.isAuthentication then .authentication
    else if e.isProtocol then .protocol
    else .formatting
  | denied _ => .denied
  | unexpectedState .. | terminal _ | outOfOrder .. | transition _ => .protocol
  | pollLimitExceeded .. | cancelled => .cancelled
  | delivery _ => .delivery

def RunError.exitCode (e : RunError) : UInt8 := e.category.exitCode

end KeyApproval
