import TableExport.Text.Percent

/-!
Addresses with a scheme, as the general syntax of addresses has them: a scheme,
perhaps an authority, a path, perhaps a query and a fragment. Only ASCII
characters stand in an address, and a percent sign stands before two hexadecimal
digits. Escapes are checked and left as they are; the inside of an authority is
not looked at.
-/

set_option autoImplicit false

namespace TableExport.Files

open TableExport.Text

structure Uri where
  scheme : String
  authority : Option String
  path : String
deriving DecidableEq, Repr

namespace Uri

def isSchemeCharacter (character : Char) : Bool :=
  character.isAlphanum || character == '+' || character == '-' || character == '.'

def isScheme : List Char → Bool
  | [] => false
  | first :: rest => first.isAlpha && rest.all isSchemeCharacter

/-- The characters that stand for themselves in a path, slashes apart. -/
def isPathCharacter (character : Char) : Bool :=
  character.isAlphanum || "-._~!$&'()*+,;=:@".toList.contains character

def isSegmented (character : Char) : Bool :=
  isPathCharacter character || character == '/'

def isQueried (character : Char) : Bool :=
  isSegmented character || character == '?'

def isEscaped (allowed : Char → Bool) : List Char → Bool
  | [] => true
  | '%' :: high :: low :: rest =>
      (Percent.byte? high low).isSome && isEscaped allowed rest
  | character :: rest => allowed character && isEscaped allowed rest

/-- Splits a text in front of the first mark; the mark goes with what follows it. -/
def splitBefore (mark : Char) (text : List Char) : List Char × List Char :=
  text.span (· != mark)

def splitAuthority : List Char → Option (List Char) × List Char
  | '/' :: '/' :: rest =>
      let (authority, path) := splitBefore '/' rest
      (some authority, path)
  | path => (none, path)

def read? (text : String) : Option Uri :=
  let (scheme, rest) := splitBefore ':' text.toList
  let (body, fragment) := splitBefore '#' (rest.drop 1)
  let (place, query) := splitBefore '?' body
  let (authority, path) := splitAuthority place
  if isScheme scheme && !rest.isEmpty &&
      isEscaped isQueried (fragment.drop 1) && isEscaped isQueried (query.drop 1) &&
      isEscaped isPathCharacter (authority.getD []) && isEscaped isSegmented path then
    some ⟨String.ofList scheme, authority.map String.ofList, String.ofList path⟩
  else none

end Uri

end TableExport.Files
