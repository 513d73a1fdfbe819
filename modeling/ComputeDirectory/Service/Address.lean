import ComputeDirectory.Host.Written
import ComputeDirectory.Text.DecimalDigit
import ComputeDirectory.Text.Numeral
import ComputeDirectory.Text.Pieces
import ComputeDirectory.Text.Quoted

/-!
# Addresses of requests

An address has a scheme, an authority (who asks, a host and a port), a path and a query, each of
which may be missing. Clients check an address before they send a request: control characters, hosts
that look like numbers but are none, ports that are no number, and some paths that begin with a
slash or a colon are refused. `Host.write` tells how a host is written in a request.

An address with a scheme and a host is absolute, and its path is that of the request. Any other
address is relative: its path is taken from the root of the service, so slashes at its front are
dropped. Segments `.` and `..` of a path are resolved; `..` never leads above the root.

The service itself never sees an address. It is here since requests are told apart by it: a client
turns an address into a target (`Target.ofAddress`), or refuses it and no request is made, and only
both together say what an address brings about. No statement about the service depends on it, as all
of them are about targets. The same goes for hosts (`Host`), which no target carries: they decide
nothing but whether an address is refused, and under which name.
-/

namespace ComputeDirectory.Service

/-! ## Cutting text -/

/-- Splits a text at every separator. -/
def splitAt (separator : Char) (text : List Char) : List (List Char) :=
  Text.pieces (· = separator) text

/-- The text before the first separator, and the text after it. -/
def cutAt (separator : Char) (text : List Char) : List Char × List Char :=
  (text.takeWhile (· ≠ separator), (text.dropWhile (· ≠ separator)).drop 1)

/-! ## Ports -/

/-- Whether a text is a whole number, as ports are written: digits of any script, perhaps with
blanks around them, a sign and single underscores. -/
def isPort (text : List Char) : Bool :=
  let (_, body) := Text.sign (Text.trim text)
  let digits := (Text.withoutUnderscores? body).getD body
  !digits.isEmpty && digits.all Text.isDecimalDigit && digits.length ≤ Text.maxNumeral

/-! ## Addresses -/

/-- Who asks, and of whom. -/
structure Authority where
  user : List Char
  host : List Char
  port : List Char
  deriving DecidableEq, Repr

/-- The parts of an address. A part that is missing is empty. -/
structure Address where
  scheme : List Char
  authority : Authority
  path : List Char
  query : List Char
  deriving DecidableEq, Repr

namespace Address

/-- Why no request can be sent to an address. -/
inductive Fault
  | tooLong
  | controlCharacter (c : Char) (position : Nat)
  /-- The host cannot be written. -/
  | invalidHost (why : Host.Malformed) (host : Text)
  | invalidPort (port : Text)
  /-- A path without scheme and authority begins with two slashes. -/
  | leadingSlashes
  /-- A path without scheme and authority begins with a colon. -/
  | leadingColon
  /-- A part of a relative address is too long when it is written. -/
  | partTooLong (part : String)
  deriving DecidableEq, Repr

/-- The fault in words. -/
def Fault.message : Fault → Text
  | tooLong => "URL too long"
  | controlCharacter c position =>
    "Invalid non-printable ASCII character in URL, " ++ (Text.ofChars [c]).quoted ++
      s!" at position {position}."
  | invalidHost .quad host => "Invalid IPv4 address: " ++ host.quoted
  | invalidHost .groups host => "Invalid IPv6 address: " ++ host.quoted
  | invalidHost .name host => "Invalid IDNA hostname: " ++ host.quoted
  | invalidPort port => "Invalid port: " ++ port.quoted
  | leadingSlashes => "Relative URLs cannot have a path starting with '//'"
  | leadingColon => "Relative URLs cannot have a path starting with ':'"
  | partTooLong part => s!"URL component '{part}' too long"

/-- The most characters of an address, and of each part of it. -/
def maxLength : Nat := 65536

/-- Whether a character may stand in the name of a scheme; the first has to be a letter. -/
def isSchemeChar (c : Char) : Bool := c.isAlphanum || c = '+' || c = '.' || c = '-'

/-- Splits off the scheme, which ends with a colon. The colon may also stand alone. -/
def splitScheme (text : List Char) : List Char × List Char :=
  let name := text.takeWhile isSchemeChar
  match text.dropWhile isSchemeChar with
  | ':' :: rest => if (name.head?.map Char.isAlpha).getD true then (name, rest) else ([], text)
  | _ => ([], text)

/-- Splits the host from the port. A host in brackets ends with the last bracket, any other before
the first colon. -/
def splitHost (text : List Char) : List Char × List Char :=
  if text.head? = some '[' && text.contains ']' then
    let afterwards := (text.reverse.takeWhile (· ≠ ']')).reverse
    (text.take (text.length - afterwards.length),
      if afterwards.head? = some ':' then afterwards.drop 1 else afterwards)
  else cutAt ':' text

/-- The parts of an authority. Who asks stands before the last at sign. -/
def authorityOf (text : List Char) : Authority :=
  let located := (text.reverse.takeWhile (· ≠ '@')).reverse
  let (host, port) := splitHost located
  ⟨text.take (text.length - located.length - 1), host, port⟩

/-- Splits off the authority, which stands between two slashes and the path. -/
def splitAuthority : List Char → Authority × List Char
  | '/' :: '/' :: rest => (authorityOf (rest.takeWhile (· ≠ '/')), rest.dropWhile (· ≠ '/'))
  | text => (⟨[], [], []⟩, text)

/-- Cuts an address into its parts. What follows a number sign belongs to none of them. -/
def ofText (text : List Char) : Address :=
  let (located, query) := cutAt '?' (cutAt '\x23' text).1
  let (scheme, rest) := splitScheme located
  let (authority, path) := splitAuthority rest
  ⟨scheme, authority, path, query⟩

/-- Checks the host of an authority, then its port. -/
def checkAuthority (a : Authority) : Except Fault Unit := do
  let _ ← (Host.write a.host).mapError fun why => .invalidHost why (Text.ofChars a.host)
  if !a.port.isEmpty && !isPort a.port then .error (.invalidPort (Text.ofChars a.port))

/-- Whether an address has neither scheme nor authority. -/
def isBare (a : Address) : Bool := a.scheme.isEmpty && a.authority = ⟨[], [], []⟩

/-- Checks the path, which is free unless neither scheme nor authority precedes it. -/
def checkPath (a : Address) : Except Fault Unit :=
  if a.isBare && ['/', '/'].isPrefixOf a.path then .error .leadingSlashes
  else if a.isBare && a.path.head? = some ':' then .error .leadingColon
  else .ok ()

/-! ## Paths -/

/-- Resolves the segments `.` and `..`, given the segments before them, the last first. An empty
segment at the very front stands for the root, and `..` leaves it alone. -/
def resolveDots : List (List Char) → List (List Char) → List (List Char)
  | before, [] => before.reverse
  | before, segment :: rest =>
    if segment = ['.'] then resolveDots before rest
    else if segment = ['.', '.'] then
      resolveDots (if before = [[]] then before else before.drop 1) rest
    else resolveDots (segment :: before) rest

/-- A path without segments `.` and `..`. -/
def resolvedPath (path : List Char) : List Char :=
  List.intercalate ['/'] (resolveDots [] (splitAt '/' path))

/-- Whether an address says by itself where a request goes. -/
def isAbsolute (a : Address) : Bool := !a.scheme.isEmpty && !a.authority.host.isEmpty

/-- The path as it stands: dots are resolved unless there is nothing but a path and a query. -/
def ownPath (a : Address) : List Char := if a.isBare then a.path else resolvedPath a.path

/-- The path seen from the root of the service. -/
def rootedPath (a : Address) : List Char := '/' :: a.ownPath.dropWhile (· = '/')

/-- The path of a request to an address: that of an absolute address, or that of a relative one seen
from the root of the service. -/
def requestPath (a : Address) : List Char :=
  if a.isAbsolute then a.ownPath else resolvedPath a.rootedPath

/-! ## Reading -/

/-- Whether a character of a query is written as it is. -/
def isQueryChar (c : Char) : Bool :=
  0x20 < c.toNat && c.toNat < 0x7f && !(['"', '\x23', '<', '>'].contains c)

/-- Whether a character of a path is written as it is. -/
def isPathChar (c : Char) : Bool := isQueryChar c && !(['?', '\x60', '\x7b', '\x7d'].contains c)

/-- How many characters a text has when it is written: each octet of a character that is not written
as it is takes a percent sign and two digits. -/
def writtenLength (isPlain : Char → Bool) (text : List Char) : Nat :=
  text.foldl (fun length c => length + if isPlain c then 1 else 3 * c.utf8Size) 0

/-- Checks the length of path and query of a relative address. -/
def checkParts (a : Address) : Except Fault Unit :=
  if a.isAbsolute then .ok ()
  else if maxLength < writtenLength isPathChar a.rootedPath then .error (.partTooLong "path")
  else if maxLength < writtenLength isQueryChar a.query then .error (.partTooLong "query")
  else .ok ()

/-- Whether a character is a control character of ASCII. -/
def isControl (c : Char) : Bool := c.toNat < 0x20 || c.toNat = 0x7f

/-- Reads an address and checks it. -/
def read (text : String) : Except Fault Address := do
  let text := text.toList
  if maxLength < text.length then .error .tooLong
  else
    match text.findIdx? isControl with
    | some position => .error (.controlCharacter (text.getD position ' ') position)
    | none =>
      let a := ofText text
      checkAuthority a.authority
      checkPath a
      checkParts a
      return a

/-! ## Hosts in requests -/

/-- The host as a request names it: in brackets when there are colons in it. -/
def namedHost (a : Address) : List Char :=
  match Host.write a.authority.host with
  | .ok written => if written.contains ':' then '[' :: (written ++ [']']) else written
  | .error _ => []

/-- Whether the host of an absolute address can be named in ASCII. The name of a zone can prevent
that. -/
def isHostPlain (a : Address) : Bool :=
  !a.isAbsolute || a.namedHost.all fun c => c.toNat < 0x80

/-- Checks that the host of an absolute address can be told to the service, which expects it in
plain letters: a host that begins with a coded label has to be in order. -/
def checkHost (a : Address) : Except Host.Fault Unit :=
  match a.isAbsolute, Host.write a.authority.host with
  | true, .ok written =>
    if Host.Label.codeMark.isPrefixOf written then Host.checkWritten written else .ok ()
  | _, _ => .ok ()

end Address

end ComputeDirectory.Service
