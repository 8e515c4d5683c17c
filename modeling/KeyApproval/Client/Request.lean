import KeyApproval.Endpoint
import KeyApproval.Http.Message
import KeyApproval.Signing

/-!
# Signed requests

A client holds the base URL of the server and the credentials that sign for its user. A request is made
of a method, a path below the base URL, and a body; its headers are the date, the signature over it, and
what kind of answer is welcome.
-/

namespace KeyApproval

open Http

structure Request where
  method : Method
  url : Url
  headers : Headers
  body : Option String

structure Client where
  credentials : Credentials
  baseUrl : Url

namespace Client

def new (endpoint : Endpoint) (credentials : Credentials) : Except ClientError Client :=
  match endpoint.baseUrl with
  | .ok url => .ok ⟨credentials, url⟩
  | .error e => .error (.configuration ("Invalid host '" ++ endpoint.host ++ "': " ++ e.message))

/-- Makes requests go below another URL, whose path is closed by a slash. -/
def rebase (c : Client) (text : String) : Except ClientError Client :=
  match Url.parse text with
  | .ok url => .ok { c with baseUrl := url.closePath }
  | .error e => .error (.configuration ("Invalid base URL '" ++ text ++ "': " ++ e.message))

def plainText : String := "text/plain"

def json : String := "application/json"

/-- The kind of answer that a method asks for. -/
def accepted : Method → String
  | .patch => plainText
  | .get | .post => json

theorem isName_accept : IsName "Accept" := by decide

theorem isName_contentType : IsName "Content-Type" := by decide

/-- The headers before the signature, which it covers. -/
def signedHeaders (now : Calendar.Instant) : Headers :=
  Headers.empty.append (Signing.dateHeader now) Signing.isName_date

/-- The headers after the signature. -/
def describeContent (method : Method) (l : Headers) : Headers :=
  let l := l.append ⟨"Accept", accepted method⟩ isName_accept
  match method with
  | .get => l
  | .post | .patch =>
    l.append ⟨"Content-Type", "application/json; charsets: utf-8"⟩ isName_contentType

def prepare (c : Client) (method : Method) (path : String) (body : Option String)
    (now : Calendar.Instant) : Except ClientError Request :=
  match c.baseUrl.join path with
  | .error e => .error (.invalidRequest ("Invalid path '" ++ path ++ "': " ++ e.message))
  | .ok url =>
    (Signing.authorize (signedHeaders now) c.credentials body).map fun headers =>
      ⟨method, url, describeContent method headers, body⟩

end Client

end KeyApproval
