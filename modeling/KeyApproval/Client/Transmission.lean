import KeyApproval.Client.Error
import KeyApproval.Client.Request
import KeyApproval.Http.Framing
import KeyApproval.Text.Base64

/-!
# Sending requests

The check that a request passes before it is handed to the HTTP client, and what the HTTP client makes of it: the
request either goes out as HTTP/1.1, with the headers that are added on the way, or it is not taken and nothing
of it goes out.
-/

namespace KeyApproval

open Http

/-- A part of a URL as it was before it was encoded, if that was a text. -/
def Url.decodePart? (part : String) : Option String :=
  match Text.Utf8.decode (percentDecode (Text.Utf8.encodeString part)) with
  | .ok text => some (String.ofList text)
  | .error _ => none

/-- The header in which the user information of a URL travels, as it is no part of what is asked for. -/
def Url.userHeader? (u : Url) : Option Header := do
  let a ← u.authority
  let username ← decodePart? a.username
  let password := a.password.bind decodePart?
  if username = "" ∧ password = none then none
  else
    let login := Text.Utf8.encodeString (username ++ ":" ++ password.getD "")
    return ⟨"Authorization", "Basic " ++ String.ofList (Text.Base64.encode login)⟩

/-- What is asked for, without the user information that travels in a header. -/
def Url.asked (u : Url) : Url :=
  if u.userHeader?.isSome then
    { u with authority := u.authority.map fun a => { a with username := "", password := none } }
  else u

/-- The longest URL that the HTTP client takes. -/
def Url.maxLength : Nat := 65534

/-- Marks that may stand in a host but not in a URL that the HTTP client takes. -/
def Url.strangeMarks : List Char := "\"`".toList ++ ['\x7b', '\x7d']

/-- Whether the HTTP client takes a URL. -/
def Url.isTaken (u : Url) : Bool :=
  ["http", "https"].contains u.scheme && u.asked.render.utf8ByteSize ≤ maxLength &&
    u.authority.any fun a => a.host.render.toList.all fun c => !strangeMarks.contains c

namespace Request

/-- Refuses the first header that cannot be sent. -/
def check (r : Request) : Except ClientError Unit :=
  match r.headers.wireFault? with
  | some (h, reason) => .error (.invalidRequest (h.name ++ ": " ++ reason))
  | none => .ok ()

/-- The name and version that the program gives to the server. -/
def agent : String := "unlocked/0.1.0"

/-- The headers of a request, that of its URL in front. -/
def ownHeaders (r : Request) : List Header := r.url.userHeader?.toList ++ r.headers.toList

/-- The headers as they travel, before it is said where the body ends. -/
def namedHeaders (r : Request) : List Header :=
  let own := travelling r.ownHeaders
  own ++ (if hasName own "accept" then [] else [⟨"accept", "*/*"⟩]) ++
    (if hasName own "user-agent" then [] else [⟨"user-agent", agent⟩])

def bodyBytes (r : Request) : List UInt8 := Text.Utf8.encodeString (r.body.getD "")

def framing (r : Request) : Framing := .of r.namedHeaders r.bodyBytes

/-- The headers that the server sees, its own name apart. -/
def seenHeaders (r : Request) : List Header := r.framing.headers r.namedHeaders r.bodyBytes

/-- What the server gets after the headers. -/
def sentBody (r : Request) : List UInt8 := r.framing.content r.bodyBytes

/-- For how many names of headers the HTTP client has room. -/
def maxNames : Nat := 24576

/-- Whether the HTTP client takes a request. -/
def isTaken (r : Request) : Bool :=
  r.url.isTaken && ("host" :: r.namedHeaders.map Header.name).eraseDups.length < maxNames

/-- The path and the query, which tell the server what is asked for. -/
def target (r : Request) : String :=
  match r.url.query with
  | some q => r.url.pathText ++ "?" ++ q
  | none => r.url.pathText

def line (r : Request) : String := r.method.text ++ " " ++ r.target ++ " HTTP/1.1"

end Request

end KeyApproval
