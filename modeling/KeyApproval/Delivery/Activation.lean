import KeyApproval.Delivery.Error
import KeyApproval.Text.Blank
import KeyApproval.Text.Number
import KeyApproval.Text.Split

/-!
# Socket activation

A service manager starts a process with listening sockets as descriptors and describes them in three
environment variables: for which process they are, how many, and under which names. What is meant for
another process counts as nothing at all.
-/

namespace KeyApproval

/-- The number of descriptors that were passed, and their names. -/
structure Activation where
  count : Nat
  names : List String
  deriving DecidableEq

namespace Activation

def none : Activation := ⟨0, []⟩

def firstDescriptor : Nat := 3

/-- The names of `count` descriptors: superfluous ones are dropped and missing ones are unknown. -/
def fitNames (count : Nat) (names : List String) : List String :=
  names.take count ++ List.replicate (count - names.length) "unknown"

theorem length_fitNames (count : Nat) (names : List String) :
    (fitNames count names).length = count := by
  simp only [fitNames, List.length_append, List.length_take, List.length_replicate]
  omega

def splitNames (text : String) : List String := (Text.split ':' text.toList).map String.ofList

def readNumber? (bound : Nat) (text : String) : Option Nat :=
  Text.readBelow? bound (Text.trim text.toList)

/-- The bytes that a list of that many names takes up at least, each with its address, length and room. -/
def namesSize (count : Nat) : Nat := count * 24

/-- The most bytes that one list can take up. -/
def maxSize : Nat := 0x7FFFFFFFFFFFFFFF

end Activation

/-- How reading the environment ends. A number of descriptors may be so great that no list can hold their
names. -/
inductive ActivationReading where
  | read (a : Activation)
  | rejected (e : DeliveryError)
  | unallocatable (count : Nat)

namespace Activation

/-- Reads the names of descriptors whose number is known. -/
def readNames (names : Option String) (count : Nat) : ActivationReading :=
  if namesSize count ≤ maxSize then .read ⟨count, fitNames count ((names.map splitNames).getD [])⟩
  else .unallocatable count

/-- Reads the variables as they are seen by process `pid`. -/
def ofVariables (lookup : String → Option String) (pid : UInt32) : ActivationReading :=
  match lookup "LISTEN_PID" with
  | .none => .read none
  | some process =>
    match readNumber? UInt32.size process with
    | .none => .rejected (.socketEnvironment ("LISTEN_PID is not a number: " ++ process))
    | some n =>
      if n ≠ pid.toNat then .read none
      else
        match lookup "LISTEN_FDS" with
        | .none => readNames (lookup "LISTEN_FDNAMES") 0
        | some descriptors =>
          match readNumber? UInt64.size descriptors with
          | .none => .rejected (.socketEnvironment ("LISTEN_FDS is not a number: " ++ descriptors))
          | some count => readNames (lookup "LISTEN_FDNAMES") count

end Activation

end KeyApproval
