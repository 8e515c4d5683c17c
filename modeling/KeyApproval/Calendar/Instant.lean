import KeyApproval.Calendar.Date

/-!
# Instants

Points in time as whole seconds since 1970 and nanoseconds. A leap second is written as the last second
of a minute with a billion nanoseconds or more.
-/

namespace KeyApproval.Calendar

/-- The first second of the year -262143. -/
def firstSecond : Int := -8334601228800

/-- The last second of the year 262142. -/
def lastSecond : Int := 8210266876799

def IsInstant (seconds : Int) (nanos : Nat) : Prop :=
  firstSecond ≤ seconds ∧ seconds ≤ lastSecond ∧
    (nanos < 1000000000 ∨ nanos < 2000000000 ∧ seconds % 60 = 59)

instance (seconds : Int) (nanos : Nat) : Decidable (IsInstant seconds nanos) := by
  unfold IsInstant; infer_instance

structure Instant where
  seconds : Int
  nanos : Nat
  inRange : IsInstant seconds nanos
  deriving DecidableEq

def Instant.ofTimestamp? (seconds : Int) (nanos : Nat) : Option Instant :=
  if h : IsInstant seconds nanos then some ⟨seconds, nanos, h⟩ else none

instance : Inhabited Instant := ⟨⟨0, 0, by decide⟩⟩

def Instant.dayNumber (t : Instant) : Int := t.seconds / 86400

def Instant.secondOfDay (t : Instant) : Nat := (t.seconds % 86400).toNat

def Instant.date (t : Instant) : Date := .ofDayNumber t.dayNumber

def Instant.hour (t : Instant) : Nat := t.secondOfDay / 3600

def Instant.minute (t : Instant) : Nat := t.secondOfDay / 60 % 60

/-- The second of the minute, which is 60 within a leap second. -/
def Instant.second (t : Instant) : Nat := t.secondOfDay % 60 + t.nanos / 1000000000

theorem Instant.seconds_eq (t : Instant) :
    t.seconds = 86400 * t.dayNumber + t.secondOfDay := by
  simp only [dayNumber, secondOfDay]; omega

end KeyApproval.Calendar
