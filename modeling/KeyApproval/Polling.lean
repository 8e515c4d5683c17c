/-!
# Polling

How long to wait between two questions about a pending request, and how many of them to ask.
-/

namespace KeyApproval

structure Polling where
  intervalMs : Nat := 1000
  maxAttempts : Option UInt32 := none
  deriving DecidableEq

def Polling.allows (p : Polling) (attempts : UInt32) : Bool :=
  match p.maxAttempts with
  | none => true
  | some limit => attempts < limit

end KeyApproval
