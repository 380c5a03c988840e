import TableExport.Connection.Host
import TableExport.Text.Case
import TableExport.Text.Compatibility

/-!
Addresses of databases, taken apart. An address has a scheme, an authority with
user, host and port, and a path; what follows a question mark or a number sign
is dropped. Taking an address apart fails only on its authority.
-/

set_option autoImplicit false

namespace TableExport.Connection

open TableExport.Text

inductive AddressFault where
  | brackets
  | futureAddress
  | noAddress (host : String)
  | shortInBrackets
  | disguisedDelimiter (authority : String)
deriving DecidableEq, Repr

def AddressFault.message : AddressFault → String
  | .brackets => "Invalid IPv6 URL"
  | .futureAddress => "IPvFuture address is invalid"
  | .noAddress host => quoted host ++ " does not appear to be an IPv4 or IPv6 address"
  | .shortInBrackets => "An IPv4 address cannot be in brackets"
  | .disguisedDelimiter authority =>
      "netloc '" ++ authority ++ "' contains invalid characters under NFKC normalization"

inductive PortFault where
  | notInteger (text : String)
  | outOfRange
  | numeral (fault : Numeral.Fault)
deriving DecidableEq, Repr

def PortFault.message : PortFault → String
  | .notInteger text => "Port could not be cast to integer value as " ++ quoted text
  | .outOfRange => "Port out of range 0-65535"
  | .numeral fault => fault.message

/-- The text before the first separator, and the text behind it if there is one. -/
def cutAt (separator : Char) : List Char → List Char × Option (List Char)
  | [] => ([], none)
  | character :: rest =>
      if character = separator then ([], some rest)
      else
        let (before, after) := cutAt separator rest
        (character :: before, after)

/-- The text before the last separator, if there is one, and the text behind it. -/
def cutAtLast (separator : Char) (text : List Char) : Option (List Char) × List Char :=
  let (behind, before) := cutAt separator text.reverse
  (before.map List.reverse, behind.reverse)

structure Address where
  scheme : String
  authority : List Char
  path : List Char
deriving DecidableEq, Repr

namespace Address

def isSchemeCharacter (character : Char) : Bool :=
  character.isAlphanum || character == '+' || character == '-' || character == '.'

/-- The text without controls and spaces in front, and without tabs and line ends. -/
def cleaned (text : List Char) : List Char :=
  (text.dropWhile fun character => character.toNat ≤ 0x20).filter fun character =>
    character != '\t' && character != '\r' && character != '\n'

/-- Takes the scheme off the front; an address without a sound scheme has none. -/
def takeScheme (text : List Char) : String × List Char :=
  match cutAt ':' text with
  | (before, some after) =>
      if (before.head?.map Char.isAlpha).getD false && before.all isSchemeCharacter then
        (String.ofList (before.map Char.toLower), after)
      else ("", text)
  | (_, none) => ("", text)

def isAuthorityEnd (character : Char) : Bool :=
  character == '/' || character == '?' || character == '#'

def checkBracketed (host : List Char) : Except AddressFault Unit :=
  if host.head? == some 'v' then
    if isFutureAddress host then .ok () else .error .futureAddress
  else if isShortAddress host then .error .shortInBrackets
  else if isLongAddress host then .ok ()
  else .error (.noAddress (String.ofList host))

/-- Checks an authority that holds both brackets: nothing stands in front of the opening one,
and only a port behind the closing one. -/
def checkBrackets (authority : List Char) : Except AddressFault Unit := do
  let (_, place) := cutAtLast '@' authority
  match cutAt '[' place with
  | (before, some bracketed) => do
      if !before.isEmpty then throw .brackets
      let (host, behind) := cutAt ']' bracketed
      match behind with
      | some (character :: _) => if character != ':' then throw .brackets
      | _ => pure ()
      checkBracketed host
  | (_, none) => checkBracketed (cutAt ':' place).1

def checkAuthority (authority : List Char) : Except AddressFault Unit := do
  let opened := authority.contains '['
  let closed := authority.contains ']'
  if opened != closed then throw .brackets
  if opened && closed then checkBrackets authority
  if authority.any isDisguisedDelimiter then
    throw (.disguisedDelimiter (String.ofList authority))

def split (text : String) : Except AddressFault Address := do
  let (scheme, rest) := takeScheme (cleaned text.toList)
  let (authority, rest) :=
    match rest with
    | '/' :: '/' :: rest =>
        (rest.takeWhile (!isAuthorityEnd ·), rest.dropWhile (!isAuthorityEnd ·))
    | rest => ([], rest)
  checkAuthority authority
  let path := (cutAt '?' (cutAt '#' rest).1).1
  pure ⟨scheme, authority, path⟩

def credentials (address : Address) : List Char × Option (List Char) :=
  match cutAtLast '@' address.authority with
  | (some user, _) => cutAt ':' user
  | (none, _) => ([], none)

def hostAndPort (address : Address) : List Char × List Char :=
  let (_, place) := cutAtLast '@' address.authority
  match cutAt '[' place with
  | (_, some bracketed) =>
      let (host, behind) := cutAt ']' bracketed
      (host, ((cutAt ':' (behind.getD [])).2).getD [])
  | (_, none) =>
      let (host, port) := cutAt ':' place
      (host, port.getD [])

def host (address : Address) : String :=
  let (name, zone) := cutAt '%' address.hostAndPort.1
  lowered (String.ofList name) ++
    match zone with
    | none => ""
    | some zone => String.ofList ('%' :: zone)

def port (address : Address) : Except PortFault (Option Nat) :=
  let text := address.hostAndPort.2
  if text.isEmpty then .ok none
  else if text.all Char.isDigit then
    match Numeral.readDigits (text.map fun character => character.toNat - 48) with
    | .error fault => .error (.numeral fault)
    | .ok value => if value ≤ 65535 then .ok (some value) else .error .outOfRange
  else .error (.notInteger (String.ofList text))

/-- A part of the credentials with its escapes resolved; an empty one counts as none. -/
def decodedPart (part : List Char) : Option String :=
  if part.isEmpty then none else some (Percent.decode (String.ofList part))

end Address

end TableExport.Connection
