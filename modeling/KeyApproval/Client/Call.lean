import KeyApproval.Run.World

/-!
# Calls

The three calls of the protocol. Each builds its request, sends it, and decodes the answer: first the
status, then the content type, about which there is only a warning, then the body.
-/

namespace KeyApproval.Client

open Http

/-- What a decoder makes of an answer, and the warnings about it. -/
structure Decoded (α : Type) where
  warnings : List LogLine
  result : Except ClientError α

def requestsPath : String := "api/requests"

def requestPath (id : UInt64) : String := requestsPath ++ "/" ++ toString id.toNat

def statusFault? (r : Response) (expected : UInt16) : Option ClientError :=
  if r.status = expected then none
  else if r.status = 401 then some (.authentication 401)
  else some (.unexpectedStatus r.status r.lossyText)

def contentTypeWarnings (r : Response) (expected : String) : List LogLine :=
  match r.contentType? with
  | none => [⟨.warn, "Response has no content type, expected " ++ expected⟩]
  | some found =>
    if mediaType found = expected then []
    else [⟨.warn, "Unexpected content type '" ++ found ++ "', expected " ++ expected⟩]

/-- Checks the status before anything else is looked at. -/
def decodeWith {α : Type} (status : UInt16) (contentType : String)
    (body : Response → Except ClientError α) (r : Response) : Decoded α :=
  match statusFault? r status with
  | some e => ⟨[], .error e⟩
  | none => ⟨contentTypeWarnings r contentType, body r⟩

def readJson (r : Response) : Except ClientError Json.Value :=
  match Json.read r.body with
  | .ok v => .ok v
  | .error e => .error (.serialization e)

def readMember (name : String) (v : Json.Value) : Except ClientError Json.Value :=
  match v.member? name with
  | some m => .ok m
  | none => .error (.invalidResponse ("Key \"" ++ name ++ "\" not found"))

def readId (r : Response) : Except ClientError UInt64 := do
  let id ← readMember "id" (← readJson r)
  match id.natural? with
  | some n => return n
  | none => throw (.invalidResponse "Value of key \"id\" is not numeric")

def readState (r : Response) : Except ClientError Stage := do
  let state ← readMember "state" (← readJson r)
  match state.text? with
  | none => throw (.invalidResponse "Value of key \"state\" is not a string")
  | some text =>
    match Stage.ofServer? text with
    | some s => return s
    | none => throw (.unknownState text)

/-- The text without the one line feed that may end it. -/
def dropLineFeed (s : List Char) : List Char :=
  if s.getLast? = some '\n' then s.dropLast else s

def readSecret (r : Response) : Except ClientError String :=
  match r.text with
  | .ok text => .ok (String.ofList (dropLineFeed text.toList))
  | .error d => .error (.invalidResponse ("Secret is not valid UTF-8: " ++ d.message))

def decodeId : Response → Decoded UInt64 := decodeWith 201 json readId

def decodeState : Response → Decoded Stage := decodeWith 200 json readState

def decodeSecret : Response → Decoded String := decodeWith 200 plainText readSecret

def createBody (handle : String) : String :=
  Text.braced ("\"key\": " ++ Json.writeString handle)

def fulfillBody : String := Text.braced "\"state\": \"FULFILLED\""

def finish {α : Type} (decode : Response → Decoded α) :
    Arrival (Except ClientError Response) × World → Arrival (Except ClientError α) × World
  | (.value (.ok r), w) => (.value (decode r).result, w.logAll (decode r).warnings)
  | (.value (.error e), w) => (.value (.error e), w)
  | (.interrupted, w) => (.interrupted, w)
  | (.never, w) => (.never, w)

def call {α : Type} (c : Client) (method : Method) (path : String) (body : Option String)
    (decode : Response → Decoded α) (w : World) : Arrival (Except ClientError α) × World :=
  let (now, w) := w.readClock
  match c.prepare method path body now with
  | .error e => (.value (.error e), w)
  | .ok r => finish decode (w.send r)

/-- Asks for a key and gives the number of the request. -/
def requestKey (c : Client) (handle : String) (w : World) :
    Arrival (Except ClientError UInt64) × World :=
  c.call .post requestsPath (some (createBody handle)) decodeId w

def inquire (c : Client) (id : UInt64) (w : World) :
    Arrival (Except ClientError Stage) × World :=
  c.call .get (requestPath id) none decodeState w

/-- Marks the request as fulfilled and gives the secret. -/
def collect (c : Client) (id : UInt64) (w : World) :
    Arrival (Except ClientError String) × World :=
  c.call .patch (requestPath id) (some fulfillBody) decodeSecret w

end KeyApproval.Client
