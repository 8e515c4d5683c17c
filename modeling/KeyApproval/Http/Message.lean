import KeyApproval.Http.Header
import KeyApproval.Text.Split
import KeyApproval.Text.Utf8

/-!
# Responses

An answer as it was received: status, headers and the bytes of the body, and the two readings of it that
callers need.
-/

namespace KeyApproval.Http

inductive Method where
  | get
  | post
  | patch
  deriving DecidableEq

def Method.text : Method → String
  | .get => "GET"
  | .post => "POST"
  | .patch => "PATCH"

structure Response where
  status : UInt16
  headers : Headers
  body : List UInt8

/-- The value of the first content-type header in lower case, without colons and spaces in front and
without line ends behind. -/
def Response.contentType? (r : Response) : Option String :=
  (r.headers.get? "content-type").map fun value =>
    let started := value.toList.dropWhile fun c => c == ':' || c == ' '
    String.ofList (Text.lower (Text.dropEndWhile (fun c => c == '\r' || c == '\n') started))

def Response.text (r : Response) : Except Text.Utf8.Damage String :=
  (Text.Utf8.decode r.body).map String.ofList

/-- The body as a text for diagnostics, with damaged stretches replaced. -/
def Response.lossyText (r : Response) : String := String.ofList (Text.Utf8.decodeLossy r.body)

/-- The part of a content type before its parameters. -/
def mediaType (contentType : String) : String :=
  let parts := Text.splitWhere (· == ';') contentType.toList
  String.ofList (Text.trim (parts.headD []))

end KeyApproval.Http
