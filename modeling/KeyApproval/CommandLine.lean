import KeyApproval.Text.Number
import KeyApproval.Text.Split

/-!
# The command line

One argument names the key; all others are options. A long option begins with two dashes and may carry its
value after an equals sign, short ones may share one dash, and the last of them may carry its value. An
option without a value takes the next argument, unless that looks like an option itself. What was given is
settled when the next argument begins, so that of two mistakes the earlier one is reported, except that an
argument nobody knows comes first.
-/

namespace KeyApproval

structure Arguments where
  keyHandle : String
  config : Option String := none
  host : Option String := none
  port : Option UInt16 := none
  secret : Option String := none
  user : Option String := none
  skipValidation : Bool := false
  sdSocket : Bool := false
  pollInterval : Option UInt64 := none
  maxPolls : Option UInt32 := none
  timeout : Option UInt64 := none
  verbosity : UInt8 := 0
  deriving DecidableEq

inductive UsageError where
  | unknownArgument
  | missingRequiredArgument
  | valueValidation
  | invalidValue
  | argumentConflict
  | tooManyValues
  | displayHelp
  | displayVersion
  deriving DecidableEq

/-- Help and version are asked for, everything else is a mistake. -/
def UsageError.exitCode : UsageError → UInt8
  | displayHelp | displayVersion => 0
  | _ => 2

namespace CommandLine

inductive Valued where
  | config
  | host
  | port
  | secret
  | user
  | pollInterval
  | maxPolls
  | timeout
  deriving DecidableEq

inductive Switch where
  | skipValidation
  | sdSocket
  | verbose
  | help
  | version
  deriving DecidableEq

inductive Choice where
  | valued (v : Valued)
  | switch (s : Switch)

def longNames : List (String × Choice) :=
  [("config", .valued .config), ("host", .valued .host), ("port", .valued .port),
    ("secret", .valued .secret), ("user", .valued .user), ("poll-interval", .valued .pollInterval),
    ("max-polls", .valued .maxPolls), ("timeout", .valued .timeout),
    ("skip-validation", .switch .skipValidation), ("sd-socket", .switch .sdSocket),
    ("verbose", .switch .verbose), ("help", .switch .help), ("version", .switch .version)]

def shortNames : List (Char × Choice) :=
  [('c', .valued .config), ('H', .valued .host), ('p', .valued .port), ('s', .valued .secret),
    ('u', .valued .user), ('v', .switch .verbose), ('h', .switch .help), ('V', .switch .version)]

def ofLong? (name : String) : Option Choice := (longNames.find? (·.1 == name)).map (·.2)

def ofShort? (name : Char) : Option Choice := (shortNames.find? (·.1 == name)).map (·.2)

/-- What waits to be settled: the name of the key, or an option whose value may still be missing. -/
inductive Pending where
  | handle (text : String)
  | option (v : Valued) (text : Option String)

structure Progress where
  settled : Arguments
  pending : Option Pending
  /-- Whether there was an argument that names the key. -/
  named : Bool
  /-- Whether two dashes have ended the options. -/
  trailing : Bool

def Progress.start : Progress := ⟨{ keyHandle := "" }, none, false, false⟩

/-! ### Values -/

/-- Reads a number below a bound, which may carry a sign; a negative one can only be zero. -/
def readSigned? (bound : Nat) (text : List Char) : Option Nat :=
  match text with
  | '-' :: digits => (Text.readDigits? digits).filter (· = 0)
  | _ => Text.readBelow? bound text

def setOnce {α : Type} (old : Option α) (new : Except UsageError α) : Except UsageError (Option α) :=
  if old.isSome then .error .argumentConflict else new.map some

def valid {α : Type} (value : Option α) : Except UsageError α :=
  match value with
  | some a => .ok a
  | none => .error .valueValidation

/-- Settles an option. It may be given once only. -/
def settle (a : Arguments) (v : Valued) (text : String) : Except UsageError Arguments :=
  let small (bound : Nat) := valid (readSigned? bound text.toList)
  let large := valid (Text.readBelow? UInt64.size text.toList)
  match v with
  | .config => do
    let config ← setOnce a.config (if text = "" then .error .invalidValue else .ok text)
    return { a with config }
  | .host => do return { a with host := ← setOnce a.host (.ok text) }
  | .port => do return { a with port := ← setOnce a.port ((small UInt16.size).map Nat.toUInt16) }
  | .secret => do return { a with secret := ← setOnce a.secret (.ok text) }
  | .user => do return { a with user := ← setOnce a.user (.ok text) }
  | .pollInterval => do
    return { a with pollInterval := ← setOnce a.pollInterval (large.map Nat.toUInt64) }
  | .maxPolls => do
    return { a with maxPolls := ← setOnce a.maxPolls ((small UInt32.size).map Nat.toUInt32) }
  | .timeout => do return { a with timeout := ← setOnce a.timeout (large.map Nat.toUInt64) }

def Progress.resolve (p : Progress) : Except UsageError Progress :=
  match p.pending with
  | none => .ok p
  | some (.handle text) =>
    .ok { p with settled := { p.settled with keyHandle := text }, pending := none }
  | some (.option _ none) => .error .invalidValue
  | some (.option v (some text)) => do
    let settled ← settle p.settled v text
    return { p with settled, pending := none }

/-! ### Options -/

def flip (a : Arguments) : Switch → Except UsageError Arguments
  | .skipValidation =>
    if a.skipValidation then .error .argumentConflict else .ok { a with skipValidation := true }
  | .sdSocket => if a.sdSocket then .error .argumentConflict else .ok { a with sdSocket := true }
  | .verbose => .ok { a with verbosity := if a.verbosity = 255 then 255 else a.verbosity + 1 }
  | .help => .error .displayHelp
  | .version => .error .displayVersion

def Progress.flip (p : Progress) (s : Switch) : Except UsageError Progress := do
  let p ← p.resolve
  let settled ← CommandLine.flip p.settled s
  return { p with settled }

/-- An option with its value, or one that waits for it. -/
def Progress.option (p : Progress) (v : Valued) (text : Option String) : Except UsageError Progress := do
  let p ← p.resolve
  match text with
  | some text => return { p with settled := ← settle p.settled v text }
  | none => return { p with pending := some (.option v none) }

def Progress.long (p : Progress) (text : List Char) : Except UsageError Progress :=
  let (name, value) := match Text.splitFirst '=' text with
    | some (name, value) => (name, some (String.ofList value))
    | none => (text, none)
  match ofLong? (String.ofList name), value with
  | none, _ => .error .unknownArgument
  | some (.valued v), value => p.option v value
  | some (.switch _), some _ => .error .tooManyValues
  | some (.switch s), none => p.flip s

/-- Options that share a dash. An equals sign in front of a value is not part of it. -/
def Progress.short (p : Progress) : List Char → Except UsageError Progress
  | [] => .ok p
  | c :: rest =>
    match ofShort? c, rest with
    | none, _ => .error .unknownArgument
    | some (.switch s), rest => do (← p.flip s).short rest
    | some (.valued v), [] => p.option v none
    | some (.valued v), '=' :: value => p.option v (some (String.ofList value))
    | some (.valued v), value => p.option v (some (String.ofList value))

def Progress.plain (p : Progress) (text : String) : Except UsageError Progress :=
  match p.pending, p.trailing, p.named with
  | some (.option v none), false, _ => .ok { p with pending := some (.option v (some text)) }
  | _, _, true => .error .unknownArgument
  | _, _, false => do
    let p ← p.resolve
    return { p with pending := some (.handle text), named := true }

def Progress.step (p : Progress) (text : String) : Except UsageError Progress :=
  match p.trailing, text.toList with
  | false, ['-', '-'] => .ok { p with trailing := true }
  | false, '-' :: '-' :: rest => p.long rest
  | false, '-' :: c :: rest => p.short (c :: rest)
  | _, _ => p.plain text

def Progress.finish (p : Progress) : Except UsageError Arguments := do
  let p ← p.resolve
  if p.named then return p.settled else throw .missingRequiredArgument

end CommandLine

def Arguments.parse (argv : List String) : Except UsageError Arguments :=
  (argv.foldlM CommandLine.Progress.step .start).bind CommandLine.Progress.finish

end KeyApproval
