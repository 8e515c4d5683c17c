import KeyApproval.Failure

/-!
# Errors of delivery

Why handing over the outcome of a run failed.
-/

namespace KeyApproval

inductive DeliveryError where
  | moduleFailed (name : String) (cause : Failure)
  | alreadyDispatched
  | invalidConfig (name reason : String)
  | socketMissing
  | tooManySockets (count : Nat)
  | socketDisabled
  | socketEnvironment (text : String)
  deriving DecidableEq

def DeliveryError.message : DeliveryError → String
  | moduleFailed name cause => "Module " ++ name ++ " failed: " ++ cause.text
  | alreadyDispatched => "Delivery was already dispatched for this run"
  | invalidConfig name reason => "Invalid configuration for module " ++ name ++ ": " ++ reason
  | socketMissing => "No socket passed by systemd"
  | tooManySockets count => s!"Too many sockets passed by systemd ({count}), expected one"
  | socketDisabled => "Socket passed by systemd but the sd_socket module is disabled"
  | socketEnvironment text => "Invalid socket activation environment: " ++ text

end KeyApproval
