import TableExport.Text.Blank

/-!
Removal of credentials from text. The first pass replaces the value behind a
secret's name and a colon or an equals sign; the second replaces the password in
the user part of an address. Both scan from the left and never look again at
what they wrote. A secret that stands in neither place is not found.
-/

set_option autoImplicit false

namespace TableExport.Log

open TableExport.Text

def mask : List Char := "***REDACTED***".toList

def secretNames : List (List Char) :=
  ["password", "pwd", "pass", "secret", "token", "api_key", "access_key"].map String.toList

/-- Whether a character is a given small letter or underscore, in either case. Three letters
of other alphabets count as variants of s, k and i. -/
def matchesLetter (letter character : Char) : Bool :=
  character.toLower == letter ||
    (letter == 's' && character == '\u017f') ||
    (letter == 'k' && character == '\u212a') ||
    (letter == 'i' && (character == '\u0131' || character == '\u0130'))

def afterName? : List Char → List Char → Option (List Char)
  | [], text => some text
  | _, [] => none
  | letter :: name, character :: rest =>
      if matchesLetter letter character then afterName? name rest else none

def isSecretCharacter (character : Char) : Bool :=
  !isBlank character && character != ','

/-- What follows the value behind a name: blanks, a sign, blanks, and a secret. -/
def afterValue? (text : List Char) : Option (List Char) :=
  match text.dropWhile isBlank with
  | [] => none
  | sign :: rest =>
      if sign == ':' || sign == '=' then
        let value := rest.dropWhile isBlank
        let after := value.dropWhile isSecretCharacter
        if after.length < value.length then some after else none
      else none

/-- A replacement at the start of a text: what is written, and how many characters it
stands for. -/
structure Replacement where
  written : List Char
  length : Nat
deriving DecidableEq, Repr

def namedSecret? (name text : List Char) : Option Replacement :=
  match afterName? name text with
  | none => none
  | some rest =>
      (afterValue? rest).map fun after =>
        { written := text.take name.length ++ '=' :: mask
          length := text.length - after.length }

def secret? (text : List Char) : Option Replacement :=
  secretNames.findSome? fun name => namedSecret? name text

def isUserCharacter (character : Char) : Bool :=
  character != ':' && character != '/' && character != '@'

def addressPassword? (text : List Char) : Option Replacement :=
  match text with
  | ':' :: '/' :: '/' :: rest =>
      let user := rest.takeWhile isUserCharacter
      match rest.dropWhile isUserCharacter with
      | ':' :: password =>
          let after := password.dropWhile (· != '@')
          if user.isEmpty || after.isEmpty || after.length = password.length then none
          else
            some
              { written := ':' :: '/' :: '/' :: user ++ ':' :: mask ++ ['@']
                length := text.length - after.length + 1 }
      | _ => none
  | _ => none

/-- Replaces from the left, passing over characters that a replacement stands for. -/
def replaceAll (find? : List Char → Option Replacement) : Nat → List Char → List Char
  | _, [] => []
  | skipped + 1, _ :: rest => replaceAll find? skipped rest
  | 0, character :: rest =>
      match find? (character :: rest) with
      | some replacement =>
          replacement.written ++ replaceAll find? (replacement.length - 1) rest
      | none => character :: replaceAll find? 0 rest

def redactCharacters (text : List Char) : List Char :=
  replaceAll addressPassword? 0 (replaceAll secret? 0 text)

def redact (text : String) : String :=
  String.ofList (redactCharacters text.toList)

end TableExport.Log
