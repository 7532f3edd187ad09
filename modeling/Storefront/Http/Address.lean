import Storefront.Http.Host
import Storefront.Text.Blank

/-!
# Web addresses

The address of a resource: a scheme, a host with a port, a path, a query, and a fragment. Reading
is lenient: blanks at the ends and line breaks anywhere are dropped, any number of slashes of either
kind may stand before the host, and characters that need it are written in percent encoding. What
is read is in normal form: no dot segments, no port that the scheme has anyway, and no
credentials. `WebAddress.text` is the one written form of an address.
-/

namespace Storefront

/-- An address in normal form. The path begins with a slash unless the scheme has no hosts. -/
structure WebAddress where
  scheme : String
  host : Option Host
  port : Option Nat
  path : String
  query : Option String
  fragment : Option String
  deriving DecidableEq

namespace WebAddress

/-- The port of a scheme whose addresses all have a host. -/
def defaultPort? (scheme : String) : Option Nat :=
  if scheme = "http" ∨ scheme = "ws" then some 80
  else if scheme = "https" ∨ scheme = "wss" then some 443
  else if scheme = "ftp" then some 21
  else none

/-- All addresses of the scheme have a host. -/
def hasHosts (scheme : String) : Bool :=
  (defaultPort? scheme).isSome

/-- The characters that are read: no blanks and controls at the ends, no tabs and line breaks. -/
def readable (s : String) : List Char :=
  (Text.dropEnds (fun c ↦ c.toNat ≤ 32) s.toList).filter fun c ↦ c ≠ '\t' ∧ c ≠ '\n' ∧ c ≠ '\r'

/-- A character of a scheme. -/
def isSchemeChar (c : Char) : Bool :=
  c.isAlphanum || c = '+' || c = '-' || c = '.'

/-- The scheme, and what follows its colon. -/
def cutScheme? (cs : List Char) : Option (String × List Char) :=
  match cs.takeWhile isSchemeChar, cs.dropWhile isSchemeChar with
  | c :: name, ':' :: rest =>
      if c.isAlpha then some (String.ofList ((c :: name).map Char.toLower), rest) else none
  | _, _ => none

/-- The character separates segments of a path. -/
def isSlash (lenient : Bool) (c : Char) : Bool :=
  c = '/' || (lenient && c = '\\')

/-- The character ends the host and port. -/
def endsAuthority (lenient : Bool) (c : Char) : Bool :=
  isSlash lenient c || c = '?' || c = '#'

/-- What follows the last at sign, or everything. -/
def afterCredentials (authority : List Char) : List Char :=
  (authority.reverse.takeWhile (· != '@')).reverse

/-- The host and what follows it from the first colon outside brackets. -/
def cutPort (inside : Bool) : List Char → List Char × List Char
  | [] => ([], [])
  | c :: cs =>
      if c = ':' && !inside then ([], c :: cs)
      else
        let (host, port) := cutPort (c = '[' || (inside && c != ']')) cs
        (c :: host, port)

/-- The port after its colon: none if there are no digits or the scheme has it anyway. -/
def readPort? (scheme : String) : List Char → Option (Option Nat)
  | [] | [_] => some none
  | _ :: digits => do
      let port ← Text.decimal? digits
      if port < Nat.pow 2 16 then some (if defaultPort? scheme = some port then none else some port)
      else none

/-- A character that is always written in percent encoding. -/
def isHardToWrite (c : Char) : Bool :=
  c.toNat < 32 || 127 ≤ c.toNat

/-- A host of a scheme that does not know hosts: anything without delimiters. -/
def foreignHost? (cs : List Char) : Option Host :=
  if cs.head? = some '[' then Host.parse? cs
  else if cs.any Host.isDelimiter then none
  else some (.name (String.ofList (Text.percentEscape isHardToWrite cs)))

/-- Host and port. A port needs a host, and so do credentials. -/
def readAuthority? (scheme : String) (authority : List Char) : Option (Host × Option Nat) := do
  let hostPort := afterCredentials authority
  let (host, port) := cutPort false hostPort
  if host.isEmpty && (!port.isEmpty || authority.contains '@') then none
  else
    let host ← if hasHosts scheme then Host.parse? host else foreignHost? host
    let port ← readPort? scheme port
    some (host, port)

/-- A character of a fragment that is written in percent encoding. -/
def escapedInFragment (c : Char) : Bool :=
  isHardToWrite c || c = ' ' || c = '"' || c = '<' || c = '>' || c.toNat = 96

/-- A character of a path that is written in percent encoding. -/
def escapedInPath (c : Char) : Bool :=
  escapedInFragment c || c = '#' || c = '?' || c = '\x7b' || c = '\x7d'

/-- A character of a query that is written in percent encoding. -/
def escapedInQuery (strict : Bool) (c : Char) : Bool :=
  isHardToWrite c || c = ' ' || c = '"' || c = '#' || c = '<' || c = '>' ||
    (strict && c.toNat = 39)

/-- A segment with its letters made small, to be compared with the dot segments. -/
def folded (segment : List Char) : String :=
  String.ofList (segment.map Char.toLower)

/-- The segment stays where it is. -/
def isSingleDot (segment : List Char) : Bool :=
  [".", "%2e"].contains (folded segment)

/-- The segment goes back by one. -/
def isDoubleDot (segment : List Char) : Bool :=
  ["..", ".%2e", "%2e.", "%2e%2e"].contains (folded segment)

/-- Follow segments from those before them, which are in reverse order. A dot segment at the end
leaves an empty one. -/
def follow : List (List Char) → List (List Char) → List (List Char)
  | before, [] => before.reverse
  | before, segment :: rest =>
      let before := if isDoubleDot segment then before.tail else before
      if isDoubleDot segment || isSingleDot segment then
        follow (if rest.isEmpty then [] :: before else before) rest
      else follow (Text.percentEscape escapedInPath segment :: before) rest

/-- The segments between slashes; one empty segment when there are no characters. -/
def segments (lenient : Bool) (cs : List Char) : List (List Char) :=
  Text.pieces '/' (cs.map fun c ↦ if isSlash lenient c then '/' else c)

/-- The path of characters that begin with a slash, or of none. -/
def readPath (lenient : Bool) (cs : List Char) : String :=
  String.ofList ((follow [] (segments lenient cs.tail)).flatMap ('/' :: ·))

/-- Path, query, and fragment. -/
def cutTail (cs : List Char) : List Char × Option (List Char) × Option (List Char) :=
  let (main, fragment) :=
    match Text.cutAt? '#' cs with
    | some (main, fragment) => (main, some fragment)
    | none => (cs, none)
  match Text.cutAt? '?' main with
  | some (path, query) => (path, some query, fragment)
  | none => (main, none, fragment)

/-- An address from its host and what follows the host. -/
def assemble (scheme : String) (host : Option Host) (port : Option Nat)
    (path : List Char → String) (cs : List Char) : WebAddress :=
  let (pathChars, query, fragment) := cutTail cs
  { scheme := scheme
    host := host
    port := port
    path := path pathChars
    query := query.map fun q ↦
      String.ofList (Text.percentEscape (escapedInQuery (hasHosts scheme)) q)
    fragment := fragment.map fun f ↦ String.ofList (Text.percentEscape escapedInFragment f) }

/-- An address with a host, from what follows the slashes before the host. -/
def withHost? (scheme : String) (cs : List Char) : Option WebAddress := do
  let lenient := hasHosts scheme
  let (host, port) ← readAuthority? scheme (cs.takeWhile fun c ↦ !endsAuthority lenient c)
  let path (p : List Char) : String := if p.isEmpty && !lenient then "" else readPath lenient p
  some (assemble scheme (some host) port path (cs.dropWhile fun c ↦ !endsAuthority lenient c))

/-- An address without a host: a path, or characters that are not looked into. -/
def withoutHost (scheme : String) (cs : List Char) : WebAddress :=
  let path (p : List Char) : String :=
    if p.head? = some '/' then readPath false p
    else String.ofList (Text.percentEscape isHardToWrite p)
  assemble scheme none none path cs

/-- Read an address. -/
def parse? (s : String) : Option WebAddress := do
  let (scheme, rest) ← cutScheme? (readable s)
  if hasHosts scheme then withHost? scheme (rest.dropWhile (isSlash true))
  else
    match rest with
    | '/' :: '/' :: more => withHost? scheme more
    | _ => some (withoutHost scheme rest)

/-- What a server is asked for: the path and the query. -/
def target (a : WebAddress) : String :=
  a.path ++ (a.query.map ("?" ++ ·)).getD ""

/-- The written form of an address. -/
def text (a : WebAddress) : String :=
  a.scheme ++ ":" ++ (a.host.map ("//" ++ Host.text ·)).getD "" ++
    (a.port.map (":" ++ Text.decimal ·)).getD "" ++ a.target ++
    (a.fragment.map ("#" ++ ·)).getD ""

/-- How long an address may be that is sent. -/
def maxLength : Nat := 65534

/-- A character that a host may have and that is not sent. -/
def isUnsendable (c : Char) : Bool :=
  c = '"' || c.toNat = 96 || c = '\x7b' || c = '\x7d'

/-- The address can be asked over HTTP. -/
def isSendable (a : WebAddress) : Bool :=
  (a.scheme = "http" || a.scheme = "https") &&
    (a.host.any fun host ↦ !(host.text.toList.any isUnsendable)) &&
    a.text.utf8ByteSize ≤ maxLength

end WebAddress

end Storefront
