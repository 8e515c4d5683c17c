import KeyApproval.Text.Blank
import KeyApproval.Url.Basic

/-!
# Reading URLs

A text is read from front to back: scheme, authority, path, query, fragment. A text without a scheme is
resolved against a base. Each part is read by a function on the text that is left.
-/

namespace KeyApproval.Url

open Text

/-! ### The text as it is given -/

def isTrimmed (c : Char) : Bool := c.toNat ≤ 0x20

def isIgnored (c : Char) : Bool := c == '\t' || c == '\n' || c == '\r'

/-- The text without blanks and controls at its ends and without tabs and line ends anywhere. -/
def clean (s : String) : List Char :=
  (dropEndWhile isTrimmed (s.toList.dropWhile isTrimmed)).filter (!isIgnored ·)

def isSchemeChar (c : Char) : Bool := c.isAlphanum || c == '+' || c == '-' || c == '.'

/-- The scheme in lower case and the text after its colon. -/
def splitScheme (s : List Char) : Option (String × List Char) :=
  match splitFirst ':' s with
  | some (first :: rest, after) =>
    if first.isAlpha && rest.all isSchemeChar then
      some (String.ofList (lower (first :: rest)), after)
    else none
  | _ => none

def isSlash (c : Char) : Bool := c == '/' || c == '\\'

def isSlashOf (kind : SchemeKind) (c : Char) : Bool := c == '/' || (kind.isSpecial && c == '\\')

/-! ### Query and fragment -/

def endsPath (c : Char) : Bool := c == '?' || c == '#'

def readFragment (s : List Char) : String := String.ofList (percentEncode .fragment s)

/-- Query and fragment of a text that is empty or begins with one of their marks. -/
def readTail (kind : SchemeKind) : List Char → Option String × Option String
  | '#' :: rest => (none, some (readFragment rest))
  | '?' :: rest =>
    let set := if kind.isSpecial then EncodingSet.specialQuery else EncodingSet.query
    let query := String.ofList (percentEncode set (rest.takeWhile (· != '#')))
    match rest.dropWhile (· != '#') with
    | _ :: fragment => (some query, some (readFragment fragment))
    | [] => (some query, none)
  | _ => (none, none)

/-! ### Paths -/

/-- A segment that stands for the directory itself. -/
def isSingleDot (segment : List Char) : Bool := [['.'], "%2e".toList].contains (lower segment)

def isDoubleDot (segment : List Char) : Bool :=
  ["..", ".%2e", "%2e.", "%2e%2e"].contains (String.ofList (lower segment))

def isDriveLetter (segment : List Char) : Bool :=
  match segment with
  | [letter, mark] => letter.isAlpha && (mark == ':' || mark == '|')
  | _ => false

/-- The segments without the last, which stays if it is a drive letter. Segments come last first. -/
def shorten : List (List Char) → List (List Char)
  | [] => []
  | last :: rest => if isDriveLetter last then last :: rest else rest

/-- Adds segments to a path, resolving dots. Dots at the end leave an empty segment. The segments of the
path come last first. -/
def addSegments : List (List Char) → List (List Char) → List (List Char)
  | path, [] => path
  | path, segment :: rest =>
    let next :=
      if isDoubleDot segment then shorten path
      else if isSingleDot segment then path
      else segment :: path
    if rest.isEmpty && (isDoubleDot segment || isSingleDot segment) then [] :: next
    else addSegments next rest

def encodedSegments (kind : SchemeKind) (s : List Char) : List (List Char) :=
  (splitWhere (isSlashOf kind) s).map (percentEncode .path)

def readBelow (kind : SchemeKind) (front : List String) (s : List Char) : Path :=
  let path := addSegments (front.map (·.toList)).reverse (encodedSegments kind s)
  .segments (path.reverse.map String.ofList)

/-- Drops empty segments at the front of a path, but not the last segment. -/
def dropEmptyFront : List (List Char) → List (List Char)
  | [] :: next :: rest => dropEmptyFront (next :: rest)
  | segments => segments

/-- Reads the path of a file, whose first segment may be a drive letter, then written with a colon.
The flag says whether there is one. -/
def readFilePath (front : List String) (s : List Char) : Path × Bool :=
  let raw := encodedSegments .file s
  let drive := front.isEmpty && raw.head?.any isDriveLetter
  let normal := match drive, raw with
    | true, (letter :: _) :: rest => [letter, ':'] :: rest
    | _, _ => raw
  let path := addSegments (front.map (·.toList)).reverse normal
  (.segments ((dropEmptyFront path.reverse).map String.ofList), drive)

/-- The path after an authority. Special schemes always have one. -/
def readPathAfterAuthority (kind : SchemeKind) (s : List Char) : Path :=
  match s with
  | [] => if kind.isSpecial then .segments [""] else .segments []
  | c :: rest => if isSlashOf kind c then readBelow kind [] rest else readBelow kind [] s

/-! ### Authorities -/

def endsAuthority (kind : SchemeKind) (c : Char) : Bool := endsPath c || isSlashOf kind c

/-- User name and password before the at sign; an empty password is left out. -/
def readUserinfo (s : List Char) : String × Option String :=
  let encode (t : List Char) := String.ofList (percentEncode .userinfo t)
  match splitFirst ':' s with
  | none => (encode s, none)
  | some (user, []) => (encode user, none)
  | some (user, password) => (encode user, some (encode password))

/-- The end of the host: a colon outside of square brackets. -/
def splitHost (inBrackets : Bool) : List Char → List Char × List Char
  | [] => ([], [])
  | c :: rest =>
    if c == ':' && !inBrackets then ([], c :: rest)
    else
      let inside := if c == '[' then true else if c == ']' then false else inBrackets
      let (host, after) := splitHost inside rest
      (c :: host, after)

/-- Reads digits as a port; the default port of the scheme is left out. -/
def readPort (scheme : String) (digits : List Char) : Except ParseError (Option UInt16) :=
  if digits.isEmpty then .ok none
  else
    match (readDigits? digits).filter (· < 65536) with
    | none => .error .invalidPort
    | some n => .ok (if defaultPort? scheme == some n.toUInt16 then none else some n.toUInt16)

def readHost (kind : SchemeKind) (s : List Char) : Except ParseError Host :=
  if kind.isSpecial then
    if s.isEmpty then .error .emptyHost else Host.readSpecial s
  else Host.readOpaque s

/-- The text before the last at sign, if there is one, and the rest. -/
def splitUser (text : List Char) : Option (List Char) × List Char :=
  match splitLast '@' text with
  | some (user, rest) => (some user, rest)
  | none => (none, text)

/-- Reads the port, if there is one. Only a backslash, where a path begins, may follow it. -/
def readAfterHost (scheme : String) (user : String × Option String) (host : Host)
    (afterHost beyond : List Char) : Except ParseError (Authority × List Char) :=
  let portText := afterHost.drop 1
  let rest := portText.dropWhile Char.isDigit
  if rest.isEmpty || rest.head? == some '\\' then
    (readPort scheme (portText.takeWhile Char.isDigit)).map fun port =>
      (⟨user.1, user.2, host, port⟩, rest ++ beyond)
  else .error .invalidPort

def readHostAndPort (scheme : String) (userinfo : Option (List Char)) (hostAndPort beyond : List Char) :
    Except ParseError (Authority × List Char) :=
  let user := readUserinfo (userinfo.getD [])
  let parts := splitHost false hostAndPort
  if userinfo == some [] && hostAndPort.isEmpty && !beyond.isEmpty then .error .emptyHost
  else do
    let host ← readHost (.of scheme) parts.1
    let hasUser := user.1 != "" || user.2.isSome
    if host.isEmpty && (hasUser || !parts.2.isEmpty) then .error .emptyHost
    else readAfterHost scheme user host parts.2 beyond

/-- Reads what follows two slashes up to the path. -/
def readAuthority (scheme : String) (s : List Char) : Except ParseError (Authority × List Char) :=
  let ends := endsAuthority (.of scheme)
  let parts := splitUser (s.takeWhile (!ends ·))
  readHostAndPort scheme parts.1 parts.2 (s.dropWhile (!ends ·))

def readWithAuthority (scheme : String) (s : List Char) : Except ParseError Url := do
  let kind := SchemeKind.of scheme
  let (authority, rest) ← readAuthority scheme s
  let path := readPathAfterAuthority kind (rest.takeWhile (!endsPath ·))
  let (query, fragment) := readTail kind (rest.dropWhile (!endsPath ·))
  return ⟨scheme, some authority, path, query, fragment⟩

/-! ### Files -/

def noHost : Authority := ⟨"", none, .name "", none⟩

def fileUrl (authority : Authority) (path : Path) (s : List Char) : Url :=
  let (query, fragment) := readTail .file (s.dropWhile (!endsPath ·))
  ⟨"file", some authority, path, query, fragment⟩

/-- Whether the text begins with a segment that is a drive letter. -/
def startsWithDrive (s : List Char) : Bool :=
  isDriveLetter (s.take 2) && ((s.drop 2).head?.all fun c => isSlash c || endsPath c)

/-- The host of a file; a drive letter in its place belongs to the path. -/
def readFileHost (s : List Char) : Except ParseError (Authority × List Char) :=
  let text := s.takeWhile fun c => !(isSlash c || endsPath c)
  let rest := s.dropWhile fun c => !(isSlash c || endsPath c)
  if isDriveLetter text then .ok (noHost, s)
  else if text.isEmpty then .ok (noHost, rest)
  else
    match Host.readSpecial text with
    | .error e => .error e
    | .ok host =>
      if host == .name "localhost" then .ok (noHost, rest)
      else .ok ({ noHost with host }, rest)

def readFileAfterSlashes (s : List Char) : Except ParseError Url := do
  let (authority, rest) ← readFileHost s
  let text := rest.takeWhile (!endsPath ·)
  let text := match text with
    | c :: after => if isSlash c then after else text
    | [] => text
  let (path, drive) := readFilePath [] text
  return fileUrl (if drive then noHost else authority) path rest

def pathSegments (u : Url) : List String :=
  match u.path with
  | .segments list => list
  | .rootless _ => []

/-- The directory of a path: all segments but the last, which stays if the path is a drive letter. -/
def directory (u : Url) : List String :=
  let list := pathSegments u
  if u.kind == .file && list.length == 1 && list.any (fun s => isDriveLetter s.toList) then list
  else list.dropLast

def readFragmentOnly (base : Url) (s : List Char) : Url :=
  { base with fragment := some (readFragment (s.drop 1)) }

/-- Reads the rest of a file URL after its scheme, or a text relative to a file. -/
def readFile (base : Option Url) (s : List Char) : Except ParseError Url :=
  match s with
  | [] => .ok (match base with
    | some b => { b with fragment := none }
    | none => fileUrl noHost (readFilePath [] []).1 [])
  | c :: rest =>
    if isSlash c then
      match rest with
      | d :: after =>
        if isSlash d then readFileAfterSlashes after else .ok (rooted (d :: after))
      | [] => .ok (rooted [])
    else
      match base with
      | none => .ok (fileUrl noHost (readFilePath [] (s.takeWhile (!endsPath ·))).1 s)
      | some b =>
        if c == '?' then
          let (query, fragment) := readTail .file s
          .ok { b with query, fragment }
        else if c == '#' then .ok (readFragmentOnly b s)
        else if startsWithDrive s then
          .ok (fileUrl noHost (readFilePath [] (s.takeWhile (!endsPath ·))).1 s)
        else
          let authority := b.authority.getD noHost
          .ok (fileUrl authority (readFilePath (directory b) (s.takeWhile (!endsPath ·))).1 s)
where
  /-- A path from the root, on the drive or the host of the base. -/
  rooted (text : List Char) : Url :=
    let path := text.takeWhile (!endsPath ·)
    match base with
    | none => fileUrl noHost (readFilePath [] path).1 text
    | some b =>
      let drive := (pathSegments b).take 1
      if startsWithDrive text then fileUrl noHost (readFilePath [] path).1 text
      else if drive.any fun s => isDriveLetter s.toList && s.endsWith ":" then
        fileUrl noHost (readFilePath drive path).1 text
      else fileUrl (b.authority.getD noHost) (readFilePath [] path).1 text

/-! ### Relative and whole texts -/

def readRelative (base : Url) (s : List Char) : Except ParseError Url :=
  let kind := base.kind
  let path := s.takeWhile (!endsPath ·)
  let (query, fragment) := readTail kind (s.dropWhile (!endsPath ·))
  match s with
  | [] => .ok { base with fragment := none }
  | '?' :: _ => .ok { base with query, fragment }
  | '#' :: _ => .ok (readFragmentOnly base s)
  | '/' :: '/' :: rest => readWithAuthority base.scheme rest
  | c :: rest =>
    if isSlash c then
      if rest.head?.any isSlash then readWithAuthority base.scheme (s.dropWhile isSlash)
      else .ok { base with path := readBelow kind [] (path.drop 1), query, fragment }
    else .ok { base with path := readBelow kind (pathSegments base).dropLast path, query, fragment }

def readOther (scheme : String) (s : List Char) : Except ParseError Url :=
  let path := s.takeWhile (!endsPath ·)
  let (query, fragment) := readTail .other (s.dropWhile (!endsPath ·))
  match s with
  | '/' :: '/' :: rest => readWithAuthority scheme rest
  | '/' :: _ => .ok ⟨scheme, none, readBelow .other [] (path.drop 1), query, fragment⟩
  | _ =>
    let text := String.ofList (percentEncode .controls path)
    .ok ⟨scheme, none, .rootless text, query, fragment⟩

def readWithScheme (base : Option Url) (scheme : String) (s : List Char) : Except ParseError Url :=
  match SchemeKind.of scheme with
  | .file => readFile (base.filter (·.scheme == "file")) s
  | .other => readOther scheme s
  | .special =>
    let slashes := s.takeWhile isSlash
    match base.filter fun b => b.scheme == scheme && slashes.length < 2 with
    | some b => readRelative b s
    | none => readWithAuthority scheme (s.dropWhile isSlash)

def readAgainst (base : Option Url) (s : List Char) : Except ParseError Url :=
  match splitScheme s with
  | some (scheme, rest) => readWithScheme base scheme rest
  | none =>
    match base with
    | none => .error .relativeWithoutBase
    | some b =>
      if s.head? == some '#' then .ok (readFragmentOnly b s)
      else if b.cannotBeBase then .error .baseCannotBeBase
      else if b.kind == .file then readFile (some b) s
      else readRelative b s

def parse (s : String) : Except ParseError Url := readAgainst none (clean s)

/-- Resolves a text that may be relative. -/
def join (base : Url) (s : String) : Except ParseError Url := readAgainst (some base) (clean s)

end KeyApproval.Url
