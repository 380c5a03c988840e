/-!
Values as options give them. An option is given a value, or it is struck: given
without one, which is not the same as being left out. A struck option shows as a
pair of brackets, counts as nothing where a text is optional, and is refused
wherever a value is needed.
-/

set_option autoImplicit false

namespace TableExport

inductive Given (α : Type) where
  | value (value : α)
  | struck
deriving DecidableEq, Repr

namespace Given

def value? {α : Type} : Given α → Option α
  | .value held => some held
  | .struck => none

def struckText : String := "[]"

def struckWord : String := "list"

def shown : Given String → String
  | .value text => text
  | .struck => struckText

def filled? : Given String → Option String
  | .value text => if text.isEmpty then none else some text
  | .struck => none

inductive Misuse where
  | name
  | path
  | literal
deriving DecidableEq, Repr

def Misuse.message : Misuse → String
  | .name => "expected string or bytes-like object, got '" ++ struckWord ++ "'"
  | .path => "expected str, bytes or os.PathLike object, not " ++ struckWord
  | .literal => "'" ++ struckWord ++ "' object has no attribute 'strip'"

end Given

end TableExport
