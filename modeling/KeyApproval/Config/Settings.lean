import KeyApproval.CommandLine
import KeyApproval.Config.Document
import KeyApproval.Credentials
import KeyApproval.Endpoint
import KeyApproval.Polling

/-!
# Settings of a run

What holds for a run: the command line goes before the configuration document, and that goes before the
defaults. A value that is not set overrides nothing.
-/

namespace KeyApproval.Config

structure Settings where
  endpoint : Endpoint
  credentials : Credentials
  polling : Polling
  timeoutSecs : Option UInt64
  deriving DecidableEq

inductive SettingsError where
  | noHostname
  | invalidPort
  | noSecret
  | noUsername
  deriving DecidableEq

def SettingsError.message : SettingsError → String
  | noHostname => "No hostname given"
  | invalidPort => "Invalid port given"
  | noSecret => "No secret given"
  | noUsername => "No username given"

def defaultPort : UInt16 := 443

def require {α : Type} (value : Option α) (e : SettingsError) : Except SettingsError α :=
  match value with
  | some a => .ok a
  | none => .error e

/-- How to poll, from the seconds between two polls. -/
def pollingOf (intervalSecs : Option UInt64) (maxAttempts : Option UInt32) : Polling :=
  { intervalMs := ((intervalSecs.map UInt64.toNat).getD 1) * 1000, maxAttempts }

def Settings.resolve (a : Arguments) (d : Document) : Except SettingsError Settings := do
  let host ← require (a.host <|> d.client.host) .noHostname
  let port := (a.port <|> d.client.port).getD defaultPort
  if port = 0 then throw .invalidPort
  let secret ← require (a.secret <|> d.client.secret) .noSecret
  let username ← require (a.user <|> d.client.user) .noUsername
  return {
    endpoint := ⟨host, port, !(a.skipValidation || d.client.skipValidation.getD false)⟩
    credentials := ⟨username, secret⟩
    polling := pollingOf (a.pollInterval <|> d.polling.intervalSecs) (a.maxPolls <|> d.polling.maxAttempts)
    timeoutSecs := a.timeout <|> d.client.timeout }

end KeyApproval.Config
