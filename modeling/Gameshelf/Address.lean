import Gameshelf.Address.Host

/-!
Addresses as text: the scheme in front of the first colon, the authority after two slashes, the fragment
after the last number sign, and what an address may be wrapped in. An address can be asked for if it has
a scheme and its authority is sound; what stands after the authority is left as it is.
-/

namespace Gameshelf.Address

open Text

/-- An address cut at the colon that ends its scheme. A scheme is not empty and has no slash in it. -/
def splitScheme? (address : List Char) : Option (List Char × List Char) :=
  let scheme := address.takeWhile fun c => c != '/' && c != ':'
  match scheme, address.drop scheme.length with
  | _ :: _, ':' :: rest => some (scheme, rest)
  | _, _ => none

/-- An address without the angle brackets around it, if it has both. -/
def withoutBrackets (address : List Char) : List Char :=
  match address, address.getLast? with
  | '<' :: rest, some '>' => rest.dropLast
  | _, _ => address

/-- The label that may stand in front of an address. -/
def label : List Char := "URL:".toList

/-- An address without its label, if it has one. -/
def withoutLabel (address : List Char) : List Char :=
  if label.isPrefixOf address then address.drop label.length else address

/-- An address out of its wrapping: angle brackets, a label, and white space around each. -/
def unwrap (address : List Char) : List Char :=
  trimChars (withoutLabel (trimChars (withoutBrackets (trimChars address))))

/-- An address without its fragment: the text from the last number sign on. -/
def withoutFragment (address : List Char) : List Char :=
  match address.reverse.dropWhile (· != '#') with
  | [] => address
  | _ :: before => before.reverse

/-- An address as its authority is looked for in it: control characters and spaces in front do not
count, nor do tabs and line ends anywhere. -/
def visible (address : List Char) : List Char :=
  (address.dropWhile (· ≤ ' ')).filter fun c => !(['\t', '\n', '\r'].contains c)

def isSchemeStart (c : Char) : Bool :=
  c.isAlpha

def isSchemeChar (c : Char) : Bool :=
  c.isAlphanum || ['+', '-', '.'].contains c

/-- An address after its scheme, if it begins with one that is well formed. -/
def afterScheme (address : List Char) : List Char :=
  match cutAt? ':' address with
  | some (first :: scheme, rest) =>
    if isSchemeStart first && scheme.all isSchemeChar then rest else address
  | _ => address

/-- The authority of an address: what follows two slashes after the scheme, up to the path, the query or
the fragment. -/
def authority (address : List Char) : List Char :=
  match afterScheme (visible address) with
  | '/' :: '/' :: rest => rest.takeWhile fun c => !(['/', '?', '#'].contains c)
  | _ => []

/-- The host and port of an authority: what follows its last at sign. -/
def hostAndPort (authority : List Char) : List Char :=
  (authority.reverse.takeWhile (· != '@')).reverse

/-- Is a host with square brackets around it sound? The brackets stand first, and after them comes
nothing but a port. Where brackets stand in front of the at sign alone, the host is held to what may
stand in brackets all the same. -/
def isSoundHost (host : List Char) : Bool :=
  match cutAt? '[' host with
  | none => isBracketed (host.takeWhile (· != ':'))
  | some (before, rest) =>
    match cutAt? ']' rest with
    | none => before.isEmpty && isBracketed rest
    | some (inside, after) =>
      before.isEmpty && (after.isEmpty || after.head? == some ':') && isBracketed inside

/-- Do the square brackets of an authority stand around a host? -/
def bracketsFit (authority : List Char) : Bool :=
  match authority.contains '[', authority.contains ']' with
  | false, false => true
  | true, true => isSoundHost (hostAndPort authority)
  | _, _ => false

/-- The characters beyond ASCII whose compatible spelling holds a character that divides addresses: a
slash, a question mark, a number sign, an at sign or a colon. -/
def disguises : List (Nat × Nat) :=
  [(0x2047, 0x2049), (0x2100, 0x2101), (0x2105, 0x2106), (0x2A74, 0x2A74), (0xFE13, 0xFE13),
    (0xFE16, 0xFE16), (0xFE55, 0xFE56), (0xFE5F, 0xFE5F), (0xFE6B, 0xFE6B), (0xFF03, 0xFF03),
    (0xFF0F, 0xFF0F), (0xFF1A, 0xFF1A), (0xFF1F, 0xFF20)]

/-- Is an authority sound? Its brackets fit, and nothing in it is a division in disguise. -/
def isSound (authority : List Char) : Bool :=
  bracketsFit authority && !authority.any fun c => inRanges disguises c.toNat

/-- Can an address be asked for? Out of its wrapping it has a scheme in front of the fragment, and a
sound authority. -/
def isKnown (address : String) : Bool :=
  let plain := unwrap address.toList
  (splitScheme? (withoutFragment plain)).isSome && isSound (authority plain)

end Gameshelf.Address
