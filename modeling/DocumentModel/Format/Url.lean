import DocumentModel.Format.Url.Host

/-!
# Absolute URLs

A URL is read leniently: controls and blanks around it are dropped, tabs and line breaks in it too,
and a backslash counts as a slash in network schemes. What can be wrong is the scheme, the host and
the port.
-/

namespace DocumentModel

namespace Format

namespace Url

/-! ## Scheme -/

inductive SchemeKind where
  | file
  /-- A scheme that needs a host. -/
  | network
  | other
  deriving DecidableEq, Repr

def SchemeKind.ofName (name : String) : SchemeKind :=
  if name = "file" then .file
  else if ["http", "https", "ws", "wss", "ftp"].contains name then .network
  else .other

def isSchemeChar (c : Char) : Bool := c.isAlphanum || c = '+' || c = '-' || c = '.'

/-- The scheme in lower case and what follows its colon. -/
def readScheme? (cs : List Char) : Option (String × List Char) :=
  let scheme := cs.takeWhile isSchemeChar
  if scheme.head?.any Char.isAlpha then
    match cs.dropWhile isSchemeChar with
    | ':' :: rest => some (String.ofList (scheme.map Char.toLower), rest)
    | _ => none
  else none

/-! ## Authority -/

/-- Whether a character counts as a slash in network schemes and files. -/
def isSlash (c : Char) : Bool := c = '/' || c = '\\'

/-- Whether a character ends an authority. -/
def endsAuthority (kind : SchemeKind) (c : Char) : Bool :=
  c = '/' || c = '?' || c = '#' || (c = '\\' && kind != .other)

/-- The user and what follows the last `@`, if there is one. -/
def splitUser? (authority : List Char) : Option (List Char × List Char) :=
  let afterLast := (authority.reverse.takeWhile (· != '@')).reverse
  if afterLast.length = authority.length then none
  else some (authority.take (authority.length - afterLast.length - 1), afterLast)

/-- Cuts at the first colon outside brackets. -/
def splitPort (inBrackets : Bool) : List Char → List Char × List Char
  | [] => ([], [])
  | c :: rest =>
    if c = ':' && !inBrackets then ([], c :: rest)
    else
      let (host, port) := splitPort (c = '[' || (inBrackets && c != ']')) rest
      (c :: host, port)

/-- Whether a port with its colon is right. It is a number of 16 bits or empty, up to the end or to
a character that ends the authority; a backslash ends it in every scheme. -/
def isPort : List Char → Bool
  | ':' :: port =>
    (Text.readDigits? 10 (port.takeWhile fun c => !isSlash c)).any (· < powerOfTwo 16)
  | _ => true

/-- Whether an authority and what follows it are right. -/
def isAuthority (kind : SchemeKind) (cs : List Char) : Bool :=
  let authority := cs.takeWhile fun c => !endsAuthority kind c
  let (user, place) := ((splitUser? authority).map fun (u, p) => (some u, p)).getD (none, authority)
  let (host, port) := splitPort false place
  let isNamed := user.any fun u => u != [] && u != [':']
  let isHost := if kind = .network then !host.isEmpty && isDomainHost host else isPlainHost host
  let endsAtUser := user = some [] && place.isEmpty && authority.length < cs.length
  !endsAtUser && isHost && isPort port && !(host.isEmpty && (isNamed || !port.isEmpty))

/-! ## Files -/

/-- A letter with a colon or a bar. -/
def isDriveLetter : List Char → Bool
  | [letter, mark] => letter.isAlpha && (mark = ':' || mark = '|')
  | _ => false

/-- Whether what follows the scheme of a file is right. Two slashes are followed by a host, by none
or by a drive letter. -/
def isFileLocation : List Char → Bool
  | first :: second :: rest =>
    if isSlash first && isSlash second then
      let host := rest.takeWhile fun c => !endsAuthority .file c
      host.isEmpty || isDriveLetter host || isDomainHost host
    else true
  | _ => true

/-! ## URLs -/

/-- Drops controls and blanks around, tabs and line breaks everywhere. -/
def strip (cs : List Char) : List Char :=
  let trimmed := ((cs.dropWhile (· ≤ ' ')).reverse.dropWhile (· ≤ ' ')).reverse
  trimmed.filter fun c => c != '\t' && c != '\n' && c != '\r'

end Url

open Url in
def isUrl (s : String) : Bool :=
  match readScheme? (strip s.toList) with
  | none => false
  | some (scheme, rest) =>
    match SchemeKind.ofName scheme with
    | .file => isFileLocation rest
    | .network => isAuthority .network (rest.dropWhile isSlash)
    | .other =>
      match rest with
      | '/' :: '/' :: rest => isAuthority .other rest
      | _ => true

end Format

end DocumentModel
