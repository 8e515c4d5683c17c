import KeyApproval.Http.Header
import KeyApproval.Json.Value

/-!
# Errors of a call

What can go wrong between the decision to send a request and a decoded answer.
-/

namespace KeyApproval

inductive ClientError where
  /-- No complete answer came back. -/
  | network (status : Option UInt16)
  | serialization (cause : Json.Error)
  | authentication (status : UInt16)
  | unexpectedStatus (status : UInt16) (body : String)
  | invalidResponse (reason : String)
  | unknownState (text : String)
  | invalidRequest (reason : String)
  | signing (reason : String)
  | configuration (reason : String)
  deriving DecidableEq

namespace ClientError

def message : ClientError → String
  | network none => "Network error: no answer"
  | network (some status) => s!"Network error: status {status}"
  | serialization cause => "Serialization error: " ++ cause.message
  | authentication status =>
    s!"Authentication failed with status {status}, check username and secret"
  | unexpectedStatus status body => s!"Unexpected response status {status}: " ++ body
  | invalidResponse reason => "Invalid response: " ++ reason
  | unknownState text => "Unknown request state: " ++ text
  | invalidRequest reason => "Invalid request: " ++ reason
  | signing reason => "Signing error: " ++ reason
  | configuration reason => "Configuration error: " ++ reason

def ofHeader (e : Http.HeaderError) : ClientError := invalidRequest e.message

def isAuthentication : ClientError → Bool
  | authentication _ => true
  | _ => false

def isTransport : ClientError → Bool
  | network _ => true
  | _ => false

/-- Whether the answer did not follow the protocol. -/
def isProtocol : ClientError → Bool
  | serialization _ | unexpectedStatus _ _ | invalidResponse _ | unknownState _ => true
  | _ => false

def status? : ClientError → Option UInt16
  | network status => status
  | authentication status => some status
  | unexpectedStatus status _ => some status
  | _ => none

end ClientError

end KeyApproval
