import KeyApproval.Delivery.Sink

/-!
# Rehearsed modules

A stand-in that delivers nothing and fails where it is told to. It serves to rehearse a run: which modules
are called, in which order, and what comes of a failure.
-/

namespace KeyApproval

inductive Scene where
  | configure
  | start
  | deliver
  | report
  | cleanUp
  deriving DecidableEq

def Task.scene : Task → Scene
  | configure _ => .configure
  | start => .start
  | deliver _ => .deliver
  | report _ => .report
  | cleanUp => .cleanUp

structure Rehearsal where
  name : String
  enabled : Bool := true
  /-- Whether the entry `enabled` of its table sets the flag. -/
  heedsConfig : Bool := true
  failures : List (Scene × Failure) := []

namespace Rehearsal

def configure (table : Toml.Table) (m : Rehearsal) : Rehearsal :=
  match m.heedsConfig, table.get? "enabled" with
  | true, some (.boolean enabled) => { m with enabled }
  | _, _ => m

def outcome (m : Rehearsal) (task : Task) : Except Failure Unit :=
  match m.failures.find? (·.1 = task.scene) with
  | some (_, f) => .error f
  | none => .ok ()

instance : Sink Rehearsal where
  name := name
  isEnabled := enabled
  perform
    | .configure table => fun m => (m.outcome (.configure table), m.configure table)
    | task => fun m => (m.outcome task, m)

end Rehearsal

end KeyApproval
