import KeyApproval.Url.Host

/-!
# URLs

A URL by its parts. What the parts hold is encoded already, so that writing a URL is putting them
together.
-/

namespace KeyApproval.Url

/-- Schemes that name a host, schemes of the file kind, and all others. -/
inductive SchemeKind where
  | special
  | file
  | other
  deriving DecidableEq

def SchemeKind.of (scheme : String) : SchemeKind :=
  if scheme == "file" then .file
  else if ["http", "https", "ws", "wss", "ftp"].contains scheme then .special
  else .other

/-- Whether a backslash counts as a slash. -/
def SchemeKind.isSpecial : SchemeKind → Bool
  | .special | .file => true
  | .other => false

def defaultPort? (scheme : String) : Option UInt16 :=
  if scheme == "http" || scheme == "ws" then some 80
  else if scheme == "https" || scheme == "wss" then some 443
  else if scheme == "ftp" then some 21
  else none

structure Authority where
  username : String
  password : Option String
  host : Host
  port : Option UInt16
  deriving DecidableEq

/-- A path of segments, each of which follows a slash, or a text without a slash at its front, which no
relative URL can be resolved against. -/
inductive Path where
  | segments (list : List String)
  | rootless (text : String)
  deriving DecidableEq

def Path.render : Path → String
  | segments list => String.join (list.map ("/" ++ ·))
  | rootless text => text

def Authority.render (a : Authority) : String :=
  let password := match a.password with
    | some p => ":" ++ p
    | none => ""
  let user := if a.username == "" && a.password.isNone then "" else a.username ++ password ++ "@"
  let port := match a.port with
    | some p => ":" ++ toString p.toNat
    | none => ""
  user ++ a.host.render ++ port

end KeyApproval.Url

namespace KeyApproval

structure Url where
  scheme : String
  authority : Option Url.Authority
  path : Url.Path
  query : Option String
  fragment : Option String
  deriving DecidableEq

namespace Url

def kind (u : Url) : SchemeKind := .of u.scheme

def pathText (u : Url) : String := u.path.render

/-- What stands between the scheme and the path. Without an authority, a path that begins with two
slashes is kept apart from it by a dot. -/
def authorityText (u : Url) : String :=
  match u.authority with
  | some a => "//" ++ a.render
  | none =>
    match u.path with
    | .segments ("" :: _ :: _) => "/."
    | _ => ""

def render (u : Url) : String :=
  let query := match u.query with
    | some q => "?" ++ q
    | none => ""
  let fragment := match u.fragment with
    | some f => "#" ++ f
    | none => ""
  u.scheme ++ ":" ++ u.authorityText ++ u.pathText ++ query ++ fragment

def cannotBeBase (u : Url) : Bool :=
  match u.authority, u.path with
  | none, .rootless _ => true
  | _, _ => false

/-- Replaces the port, which needs a host to belong to; the default port of the scheme is left out. -/
def setPort? (u : Url) (port : UInt16) : Option Url :=
  match u.authority with
  | none => none
  | some a =>
    if a.host.isEmpty || u.kind == .file then none
    else
      let shown := if defaultPort? u.scheme == some port then none else some port
      some { u with authority := some { a with port := shown } }

/-- Ends the path with a slash, so that relative paths lead below it. -/
def closePath (u : Url) : Url :=
  match u.path with
  | .segments list =>
    if list.getLast? == some "" then u else { u with path := .segments (list ++ [""]) }
  | .rootless text =>
    if text == "" then { u with path := .rootless "%2F" }
    else if text.endsWith "/" then u
    else { u with path := .rootless (text ++ "/") }

end Url

end KeyApproval
