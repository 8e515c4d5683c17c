import KeyApproval.Json.Reader
import KeyApproval.Json.Writer
import KeyApproval.Text.Split
import KeyApproval.Url.Parser

/-!
# Endpoints

Where the approval server is, and its form in JSON: an object of three members, or an array of their
values in order. Reading fills the members one by one, so that the first fault in the text is the one
reported.
-/

namespace KeyApproval

structure Endpoint where
  host : String
  port : UInt16 := 443
  verifyTls : Bool := true
  deriving DecidableEq

namespace Endpoint

/-- The root URL of the server. The port of the endpoint replaces one in the text of the host. -/
def baseUrl (e : Endpoint) : Except Url.ParseError Url := do
  let url ← Url.parse ("https://" ++ e.host ++ "/")
  return (url.setPort? e.port).getD url

/-! ### JSON -/

open Json

def toJson (e : Endpoint) : String :=
  Text.braced ("\"host\":" ++ writeString e.host ++ ",\"port\":" ++ toString e.port.toNat ++
    ",\"verify_tls\":" ++ writeBool e.verifyTls)

/-- Refuses a value of another kind: a broken one for its form, any other for its kind. -/
def refuse {α : Type} (s : List UInt8) : Except Json.Error α :=
  match skipSpace s with
  | [] => .error .endOfText
  | 0x5B :: _ | 0x7B :: _ => .error .wrongShape
  | s =>
    match readScalar .checking s with
    | .error e => .error e
    | .ok _ => .error .wrongShape

def readHost (s : List UInt8) : Except Json.Error (Found String) :=
  match skipSpace s with
  | 0x22 :: rest => readString rest
  | _ => refuse s

def readPort (s : List UInt8) : Except Json.Error (Found UInt16) := do
  match readScalar .checking (skipSpace s) with
  | .ok (.number n, rest) =>
    match n.natural? with
    | some v => if v.toNat < 65536 then return (v.toNat.toUInt16, rest) else throw .wrongShape
    | none => throw .wrongShape
  | _ => refuse s

def readFlag (s : List UInt8) : Except Json.Error (Found Bool) := do
  match readScalar .checking (skipSpace s) with
  | .ok (.bool b, rest) => return (b, rest)
  | _ => refuse s

structure Members where
  host : Option String := none
  port : Option UInt16 := none
  verifyTls : Option Bool := none

def Members.complete (m : Members) : Except Json.Error Endpoint :=
  match m with
  | ⟨some host, some port, some verifyTls⟩ => .ok ⟨host, port, verifyTls⟩
  | _ => .error .wrongShape

/-- Reads the value of a member after its name. A name that was met before is refused at once; the value
of a name that means nothing is passed over. -/
def Members.readMember (m : Members) (name : String) (s : List UInt8) :
    Except Json.Error (Found Members) := do
  if name == "host" then
    if m.host.isSome then throw .wrongShape
    let (v, rest) ← readHost (← readColon s)
    return ({ m with host := some v }, rest)
  else if name == "port" then
    if m.port.isSome then throw .wrongShape
    let (v, rest) ← readPort (← readColon s)
    return ({ m with port := some v }, rest)
  else if name == "verify_tls" then
    if m.verifyTls.isSome then throw .wrongShape
    let (v, rest) ← readFlag (← readColon s)
    return ({ m with verifyTls := some v }, rest)
  else
    let rest ← skipValue (← readColon s)
    return (m, rest)

/-- Reads members up to the closing brace; `count` bounds their number. -/
def readMembers : (count : Nat) → Members → List UInt8 → Except Json.Error (Found Endpoint)
  | 0, _, _ => .error .endOfText
  | count + 1, m, s => do
    let (name, rest) ← readName .checking s
    let (m, rest) ← m.readMember name rest
    match skipSpace rest with
    | [] => throw .endOfText
    | 0x7D :: rest =>
      let e ← m.complete
      return (e, rest)
    | 0x2C :: rest => readMembers count m (skipSpace rest)
    | _ => throw .malformed

def readObject (s : List UInt8) : Except Json.Error (Found Endpoint) :=
  match skipSpace s with
  | [] => .error .endOfText
  | 0x7D :: _ => .error .wrongShape
  | s => readMembers (s.length + 1) {} s

/-- Goes on to the next item of an array, of which there must be one. -/
def nextItem (first : Bool) (s : List UInt8) : Except Json.Error (List UInt8) :=
  match skipSpace s with
  | [] => .error .endOfText
  | 0x5D :: _ => .error .wrongShape
  | b :: rest =>
    if first then .ok (b :: rest)
    else if b == 0x2C then
      match skipSpace rest with
      | [] => .error .endOfText
      | 0x5D :: _ => .error .malformed
      | s => .ok s
    else .error .malformed

def readArray (s : List UInt8) : Except Json.Error (Found Endpoint) := do
  let (host, s) ← readHost (← nextItem true s)
  let (port, s) ← readPort (← nextItem false s)
  let (verifyTls, s) ← readFlag (← nextItem false s)
  match skipSpace s with
  | [] => throw .endOfText
  | 0x5D :: rest => return (⟨host, port, verifyTls⟩, rest)
  | _ => throw .malformed

def ofJson (text : List UInt8) : Except Json.Error Endpoint := do
  let (e, rest) ← match skipSpace text with
    | 0x7B :: rest => readObject rest
    | 0x5B :: rest => readArray rest
    | s => refuse s
  readEnd rest
  return e

end Endpoint

end KeyApproval
