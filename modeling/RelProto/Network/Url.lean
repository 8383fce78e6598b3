import RelProto.Network.Address
import RelProto.Network.Domain
import RelProto.Text.Bytes

/-! URLs cut into their parts, which keep their percent escapes. -/
namespace RelProto.Network

/-- Why a text is no URL. -/
inductive UrlFault where
  | noScheme
  | emptyHost
  | invalidPort
  | invalidCharacter
  | invalidDomain
  | invalidVersion4
  | invalidVersion6
  deriving DecidableEq

def UrlFault.message : UrlFault → String
  | noScheme => "relative URL without a base"
  | emptyHost => "empty host"
  | invalidPort => "invalid port number"
  | invalidCharacter => "invalid domain character"
  | invalidDomain => "invalid international domain name"
  | invalidVersion4 => "invalid IPv4 address"
  | invalidVersion6 => "invalid IPv6 address"

/-- A URL without authority has no host. -/
structure Url where
  scheme : String
  user : String
  password : Option String
  host : Option String
  port : Option UInt16
  path : String
  query : String
  deriving DecidableEq

namespace Url

/-- Schemes whose URLs always have a host, which is a domain or an address. -/
def isWeb (scheme : String) : Bool := ["http", "https", "ws", "wss", "ftp"].contains scheme

def isSlash (c : Char) : Bool := c == '/' || c == '\\'

/-- Takes control characters and blanks off both ends, and line breaks and tabs out of the text. -/
def cleaned (text : String) : List Char :=
  let trimmed := ((text.toList.dropWhile (· ≤ ' ')).reverse.dropWhile (· ≤ ' ')).reverse
  trimmed.filter fun c => c != '\t' && c != '\n' && c != '\r'

/-- Cuts a text in front of the first character of this kind. -/
def cutBefore (stops : Char → Bool) (chars : List Char) : List Char × List Char :=
  (chars.takeWhile (!stops ·), chars.dropWhile (!stops ·))

def scheme? (text : List Char) : Option (String × List Char) :=
  match cutBefore (· == ':') text with
  | (first :: more, _ :: rest) =>
    if first.isAlpha && more.all fun c => c.isAlphanum || c == '+' || c == '-' || c == '.' then
      some (.ofList ((first :: more).map Char.toLower), rest)
    else none
  | _ => none

/-- Cuts off what stands before the last at sign. -/
def credentials (authority : List Char) : Option (List Char) × List Char :=
  match cutBefore (· == '@') authority.reverse with
  | (host, _ :: user) => (some user.reverse, host.reverse)
  | (_, []) => (none, authority)

/-- Cuts a host off in front of a colon that is not within brackets. -/
def hostAndRest (bracketed : Bool) : List Char → List Char × List Char
  | [] => ([], [])
  | c :: rest =>
    if c == ':' && !bracketed then ([], c :: rest)
    else
      let (host, after) := hostAndRest (c == '[' || (bracketed && c != ']')) rest
      (c :: host, after)

def isForbiddenInHost (c : Char) : Bool := "\x00 #/:<>?@[\\]^|".toList.contains c

/-- Checks a host in brackets, of which the first one has been read. -/
def checkBracketed (rest : List Char) : Except UrlFault Unit :=
  if rest.getLast? == some ']' && isVersion6 rest.dropLast then .ok () else .error .invalidVersion6

/-- Checks a host that may have any name. -/
def checkHost : List Char → Except UrlFault Unit
  | '[' :: rest => checkBracketed rest
  | host => if host.any isForbiddenInHost then .error .invalidCharacter else .ok ()

/-- Checks the host of a web address: a domain, which is an address if it ends in a number. -/
def checkWebHost : List Char → Except UrlFault Unit
  | '[' :: rest => checkBracketed rest
  | host =>
    match (Text.percentText? (.ofList host)).bind (Domain.labels? ·.toList) with
    | none => .error .invalidDomain
    | some labels =>
      if labels = [[]] then .error .emptyHost
      else if endsInNumber labels && !isLooseVersion4 labels then .error .invalidVersion4
      else .ok ()

/-- Reads the port after its colon, up to a slash of either kind. -/
def readPort (text : List Char) : Except UrlFault (Option UInt16 × List Char) :=
  match text with
  | ':' :: rest =>
    let (digits, after) := cutBefore isSlash rest
    if digits.isEmpty then .ok (none, after)
    else
      match (Text.digits? digits).filter (· < UInt16.size) with
      | some n => .ok (some n.toUInt16, after)
      | none => .error .invalidPort
  | _ => .ok (none, text)

/-- A path begins with a slash unless it is empty. -/
def rooted (path : List Char) : List Char :=
  if path.isEmpty || path.head? == some '/' then path else '/' :: path

/-- Reads the authority, and with it the credentials, the host and the port. On the web it ends at a
slash of either kind. Credentials and ports need a host. -/
def withAuthority (scheme : String) (text : List Char) : Except UrlFault Url := do
  let web := isWeb scheme
  let ends (c : Char) : Bool := c == '/' || c == '?' || c == '#' || (web && c == '\\')
  let (authority, rest) := cutBefore ends text
  let (userinfo, hostAndPort) := credentials authority
  if userinfo == some [] && hostAndPort.isEmpty && !rest.isEmpty then throw .emptyHost
  let (user, password) := cutBefore (· == ':') (userinfo.getD [])
  let (host, port) := hostAndRest false hostAndPort
  let anonymous := user.isEmpty && password.length ≤ 1
  if host.isEmpty && (web || !port.isEmpty || !anonymous) then throw .emptyHost
  if web then checkWebHost host else checkHost host
  let (port, path) ← readPort port
  let (path, rest) := cutBefore (fun c => c == '?' || c == '#') (path ++ rest)
  let query := (cutBefore (· == '#') rest).1
  return { scheme, user := .ofList user,
           password := if 1 < password.length then some (.ofList (password.drop 1)) else none,
           host := some (.ofList host), port, path := .ofList (rooted path),
           query := .ofList (query.drop 1) }

/-- A URL of which only the scheme counts. -/
def ofScheme (scheme : String) : Url := ⟨scheme, "", none, none, none, "", ""⟩

/-- A letter of a drive. -/
def isDrive : List Char → Bool
  | [letter, mark] => letter.isAlpha && (mark == ':' || mark == '|')
  | _ => false

/-- Reads what follows the scheme of a URL of files. A host may stand after two slashes. -/
def ofFile (text : List Char) : Except UrlFault Url := do
  match text with
  | a :: b :: rest =>
    let host := (cutBefore (fun c => isSlash c || c == '?' || c == '#') rest).1
    if isSlash a && isSlash b && !host.isEmpty && !isDrive host then checkWebHost host
  | _ => pure ()
  return ofScheme "file"

/-- Reads a URL. Only the scheme counts of one without authority. -/
def ofText (text : String) : Except UrlFault Url :=
  match scheme? (cleaned text) with
  | none => .error .noScheme
  | some (scheme, rest) =>
    if scheme = "file" then ofFile rest
    else if isWeb scheme then withAuthority scheme (rest.dropWhile isSlash)
    else
      match rest with
      | '/' :: '/' :: rest => withAuthority scheme rest
      | _ => .ok (ofScheme scheme)

/-- Appends a part of a path. One dot stands for the directory itself, two for the one above, but
there is none above a drive. -/
def addSegment (segments : List String) (segment : String) : List String :=
  let plain := (segment.toLower.replace "%2e" ".")
  if plain = "." then segments
  else if plain = ".." then
    if segments.getLast?.any (isDrive ·.toList) then segments else segments.dropLast
  else segments ++ [segment]

/-- The first part of the path, if there is a path. -/
def firstSegment? (url : Url) : Option String :=
  match url.path.toList with
  | '/' :: rest =>
    some ((((Text.split (· == '/') rest).map String.ofList).foldl addSegment []).head?.getD "")
  | _ => none

end Url

end RelProto.Network
