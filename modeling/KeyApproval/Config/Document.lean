import KeyApproval.Config.Section
import KeyApproval.Failure
import KeyApproval.Text.Utf8
import KeyApproval.Toml.Document

/-!
# Configuration documents

A document has a table for the client and one for polling; all other tables belong to the modules. A file
that is only looked for may be missing, one that was asked for may not.
-/

namespace KeyApproval.Config

structure ClientOptions where
  host : Option String := none
  port : Option UInt16 := none
  user : Option String := none
  secret : Option String := none
  skipValidation : Option Bool := none
  timeout : Option UInt64 := none
  deriving DecidableEq

structure PollingOptions where
  intervalSecs : Option UInt64 := none
  maxAttempts : Option UInt32 := none
  deriving DecidableEq

def clientFields : List (Field ClientOptions) :=
  [⟨"host", fun v s => (readText v).map fun x => { s with host := some x }⟩,
    ⟨"port", fun v s => (readNatural 16 v).map fun x => { s with port := some x.toUInt16 }⟩,
    ⟨"user", fun v s => (readText v).map fun x => { s with user := some x }⟩,
    ⟨"secret", fun v s => (readText v).map fun x => { s with secret := some x }⟩,
    ⟨"skip_validation", fun v s =>
      (readBoolean v).map fun x => { s with skipValidation := some x }⟩,
    ⟨"timeout", fun v s => (readNatural 64 v).map fun x => { s with timeout := some x.toUInt64 }⟩]

def pollingFields : List (Field PollingOptions) :=
  [⟨"interval_secs", fun v s =>
      (readNatural 64 v).map fun x => { s with intervalSecs := some x.toUInt64 }⟩,
    ⟨"max_attempts", fun v s =>
      (readNatural 32 v).map fun x => { s with maxAttempts := some x.toUInt32 }⟩]

structure Document where
  client : ClientOptions := {}
  polling : PollingOptions := {}
  /-- All of the document. -/
  tables : Toml.Table := []

inductive Fault where
  | malformed
  | badTable (name reason : String)

def Fault.failure : Fault → Failure
  | malformed => .ofText "TOML"
  | badTable name reason => (Failure.ofText reason).within ("Invalid [" ++ name ++ "] table")

def readTable {σ : Type} (tables : Toml.Table) (key name : String) (fields : List (Field σ)) (unset : σ) :
    Except Fault σ :=
  match tables.get? key with
  | none => .ok unset
  | some v => (readSection name fields unset v).mapError (.badTable key)

def Document.parse (text : String) : Except Fault Document :=
  match Toml.Table.parse? text with
  | none => .error .malformed
  | some tables => do
    let client ← readTable tables "client" "ClientSection" clientFields {}
    let polling ← readTable tables "polling" "PollingSection" pollingFields {}
    return { client, polling, tables }

/-! ### Files -/

inductive Content where
  | missing
  | unreadable (reason : String)
  | bytes (data : List UInt8)

inductive LoadError where
  | unreadable (path reason : String)
  | invalid (path : String) (fault : Fault)

def LoadError.failure : LoadError → Failure
  | unreadable path reason => (Failure.ofText reason).within ("Failed to read config file " ++ path)
  | invalid path fault => fault.failure.within ("Invalid config file " ++ path)

def Document.ofContent (path : String) (required : Bool) : Content → Except LoadError Document
  | .missing =>
    if required then .error (.unreadable path "No such file or directory (os error 2)") else .ok {}
  | .unreadable reason => .error (.unreadable path reason)
  | .bytes data =>
    match Text.Utf8.decode data with
    | .error _ => .error (.unreadable path "stream did not contain valid UTF-8")
    | .ok text => (Document.parse (String.ofList text)).mapError (.invalid path)

end KeyApproval.Config
