import KeyApproval.Calendar.HttpDate
import KeyApproval.Client.Error
import KeyApproval.Credentials
import KeyApproval.Digest.Hmac
import KeyApproval.Http.Header
import KeyApproval.Text.Hex
import KeyApproval.Text.Split
import KeyApproval.Text.Utf8

/-!
# Request signatures

A request is signed over the lines of the headers that it has so far, each followed by a line feed, and
then its body. The Authorization header names those headers in order, so that the signed text can be
built again from the request alone.
-/

namespace KeyApproval.Signing

open Http

def algorithm : String := "sha512"

/-- The names of the headers in lower case, separated by single spaces. -/
def canonicalNames (l : Headers) : String :=
  String.ofList (Text.join ' ' (l.toList.map fun h => Text.lower h.name.toList))

/-- Without a body the text ends after the last header line. -/
def signedText (l : Headers) (body : Option String) : String :=
  l.toList.foldr (fun h rest => h.line ++ "\n" ++ rest) (body.getD "")

/-- The code of the message in upper-case digits of base sixteen. -/
def signature (key message : List UInt8) : String :=
  String.ofList (Text.Hex.encodeUpper (Digest.Hmac.code key message))

def secretBytes (c : Credentials) : List UInt8 := Text.Utf8.encodeString c.secret

/-- The Authorization value of a header list and a body; nothing can vouch for an empty list. -/
def sign (l : Headers) (c : Credentials) (body : Option String) : Except ClientError String :=
  if l.isEmpty then .error (.signing "Refusing to sign a request without headers")
  else
    let code := signature (secretBytes c) (Text.Utf8.encodeString (signedText l body))
    .ok ("hmac username=\"" ++ c.username ++ "\", algorithm=\"" ++ algorithm ++ "\", headers=\"" ++
      canonicalNames l ++ "\", signature=\"" ++ code ++ "\"")

theorem isName_authorization : IsName "Authorization" := by decide

theorem isName_date : IsName "Date" := by decide

/-- Adds the signature of what the list holds to its end. -/
def authorize (l : Headers) (c : Credentials) (body : Option String) :
    Except ClientError Headers := do
  let value ← sign l c body
  return l.append ⟨"Authorization", value⟩ isName_authorization

def dateHeader (now : Calendar.Instant) : Header := ⟨"Date", Calendar.HttpDate.render now⟩

/-- The text that describes a signer shows its user and hides its secret. -/
def describeSigner (c : Credentials) : String :=
  "Signer " ++ Text.braced (" credentials: " ++ c.describe ++ " ")

end KeyApproval.Signing
