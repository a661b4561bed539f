import Blocklist.Text.Cut
import Blocklist.Text.Utf8
/-!
# Addresses — where the host is

An address is cut around its host: before it stand a scheme and whoever
signs in, after it all that says where on the host to look.
-/

namespace Blocklist

namespace Url

/-- A character that a scheme may hold. -/
def isSchemeChar (c : Char) : Bool := c.isAlphanum || c == '+' || c == '-' || c == '.'

/-- The address up to the end of its scheme, and from there on. A scheme ends with `://`; those of
`data:` and `about:` need no slashes. -/
def cutScheme? (url : List Char) : Option (List Char × List Char) := do
  let (scheme, rest) ← Text.cut? ':' url
  if scheme.isEmpty || !scheme.all isSchemeChar then none
  match Text.dropOpening? ['/', '/'] rest with
  | some rest => some (scheme ++ [':', '/', '/'], rest)
  | none =>
    let name := Text.lower scheme
    if name == "data".toList || name == "about".toList then some (scheme ++ [':'], rest) else none

/-- An address around its host. -/
structure Parts where
  /-- Scheme and user information. -/
  lead : List Char
  /-- The host. -/
  host : List Char
  /-- Everything after the host. -/
  rest : List Char
  deriving DecidableEq, Repr

/-- A character that ends the part of an address that names its host. -/
def endsAuthority (c : Char) : Bool := c == '/' || c == '?' || c == '#'

/-- Cuts an address around its host: the authority ends at a slash, a query or a fragment, its user
information at the last `@`, its host at the first colon after that. -/
def parts? (url : List Char) : Option Parts := do
  let (scheme, rest) ← cutScheme? url
  let authority := rest.takeWhile (!endsAuthority ·)
  let tail := rest.dropWhile (!endsAuthority ·)
  let (user, place) := match Text.cutLast? '@' authority with
    | some (user, place) => (user ++ ['@'], place)
    | none => ([], authority)
  some ⟨scheme ++ user, place.takeWhile (· != ':'), place.dropWhile (· != ':') ++ tail⟩

/-- The byte offset at which the scheme has ended. -/
def schemeEnd? (url : List Char) : Option Nat :=
  (cutScheme? url).map fun cut => Text.byteLength cut.1

/-- The byte offsets at which the host begins and ends. -/
def hostRange? (url : List Char) : Option (Nat × Nat) :=
  (parts? url).map fun p =>
    (Text.byteLength p.lead, Text.byteLength p.lead + Text.byteLength p.host)

/-- The host. -/
def host? (url : List Char) : Option (List Char) := (parts? url).map Parts.host

/-- What stands after each dot. -/
def afterDots : List Char → List (List Char)
  | [] => []
  | c :: rest => if c == '.' then rest :: afterDots rest else afterDots rest

/-- The address from each place on at which a label of its host begins. -/
def Parts.labelStarts (p : Parts) : List (List Char) :=
  (p.host :: afterDots p.host).map (· ++ p.rest)

/-- A byte that separates words of an address: neither letter nor digit nor one of `_ - . %`. -/
def isSeparator (b : UInt8) : Bool :=
  !((0x30 ≤ b && b ≤ 0x39) || (0x41 ≤ b && b ≤ 0x5A) || (0x61 ≤ b && b ≤ 0x7A)
    || b == 0x5F || b == 0x2D || b == 0x2E || b == 0x25)

end Url

end Blocklist
