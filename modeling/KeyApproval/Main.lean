import KeyApproval.Program

/-!
# The command

Reads the arguments, the environment and the configuration file, runs the program, and shows what comes of
it. There is no network here: every request fails as it does when the server cannot be reached.
-/

namespace KeyApproval.Main

def usage : String :=
  "Usage: unlocked-client [OPTIONS] <KEY_HANDLE>\n\n" ++
    "  -c, --config <CONFIG>       Path to the configuration file\n" ++
    "  -H, --host <HOST>           Hostname of the server\n" ++
    "  -p, --port <PORT>           Port on the server (default 443)\n" ++
    "  -s, --secret <SECRET>       Secret used to authenticate against the server\n" ++
    "  -u, --user <USER>           Handle of the client\n" ++
    "      --skip-validation       Skip certificate and hostname validation\n" ++
    "      --sd-socket             Send the key to the socket passed by systemd socket activation\n" ++
    "      --poll-interval <SECS>  Seconds between two state queries (default 1)\n" ++
    "      --max-polls <N>         Give up after this many state queries\n" ++
    "      --timeout <SECS>        Timeout for each request in seconds\n" ++
    "  -v, --verbose...            Increase log verbosity (-v, -vv, -vvv)\n" ++
    "  -h, --help                  Print help\n" ++
    "  -V, --version               Print version"

def version : String := "unlocked-client 0.1.0"

def explain : UsageError → String
  | .unknownArgument => "error: unexpected argument"
  | .missingRequiredArgument => "error: the following required arguments were not provided: <KEY_HANDLE>"
  | .valueValidation => "error: invalid value for an option"
  | .invalidValue => "error: a value is required for an option but none was supplied"
  | .argumentConflict => "error: an option cannot be used multiple times"
  | .tooManyValues => "error: unexpected value for an option"
  | .displayHelp => usage
  | .displayVersion => version

def readContent (path : String) : IO Config.Content := do
  try
    return .bytes (← IO.FS.readBinFile path).toList
  catch
    | .noFileOrDirectory .. => return .missing
    | e => return .unreadable (toString e)

def configDirectory? : IO (Option String) := do
  let home := (← IO.getEnv "HOME").filter (· ≠ "")
  let own := (← IO.getEnv "XDG_CONFIG_HOME").filter (·.startsWith "/")
  return own <|> home.map (· ++ "/.config")

def processNumber : IO Nat := do
  let stat ← IO.FS.readFile "/proc/self/stat"
  return (Text.readDigits? (stat.toList.takeWhile (· ≠ ' '))).getD 0

def readSurroundings : IO Program.Surroundings := do
  let names := ["LISTEN_PID", "LISTEN_FDS", "LISTEN_FDNAMES"]
  let found ← names.mapM fun name => return (name, ← IO.getEnv name)
  return { lookup := fun name => (found.find? (·.1 == name)).bind (·.2), pid := (← processNumber).toUInt32 }

/-- A world in which no server can be reached. -/
def unreachable : World :=
  { transport := ⟨Request.check, .network none⟩, clock := fun _ => default, readings := 0, script := []
    nowMs := 0, token := ⟨false, none, none⟩, events := 0, trace := [] }

def run (a : Arguments) : IO UInt32 := do
  let defaultPath := (← configDirectory?).map (· ++ "/unlocked/config.toml")
  let path := a.config <|> defaultPath
  let content ← match path with
    | some path => readContent path
    | none => pure .missing
  let ending := Program.run a ⟨defaultPath, fun _ => content⟩ (← readSurroundings) fun _ => unreachable
  for line in Program.logs ending do
    if (Program.Verbosity.ofCount a.verbosity).shows line.level then
      IO.eprintln ("[" ++ line.level.text ++ "] " ++ line.text)
  if let .ran report := ending then
    let out ← IO.getStdout
    out.write (ByteArray.mk (Program.written report).toArray)
    out.flush
  match Program.exitCode? ending with
  | some code => return code.toUInt32
  | none => throw (IO.userError "more sockets were passed than can be named")

end KeyApproval.Main

def main (argv : List String) : IO UInt32 := do
  match KeyApproval.Arguments.parse argv with
  | .ok a => KeyApproval.Main.run a
  | .error e =>
    if e.exitCode = 0 then IO.println (KeyApproval.Main.explain e)
    else IO.eprintln (KeyApproval.Main.explain e)
    return e.exitCode.toUInt32
