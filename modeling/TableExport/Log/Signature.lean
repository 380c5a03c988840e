import TableExport.Cell

/-!
Calls by name. A call has arguments by place and arguments by name; a signature
tells which values it wants, which it can do without, and whether it takes other
names too. Arguments by name are looked at first, then the count of those by
place, then what is missing. The receiver of a call counts as its first argument.
-/

set_option autoImplicit false

namespace TableExport.Log

open TableExport.Text

structure Arguments where
  placed : List Cell
  named : List (String × Cell)
deriving DecidableEq, Repr

/-- What a call wants; the values it can do without have defaults. -/
structure Signature where
  name : String
  required : List String
  defaults : List (String × Cell)
  isOpen : Bool
deriving DecidableEq, Repr

inductive Misuse where
  | unknown (call : String)
  | unexpected (call argument : String)
  | repeated (call argument : String)
  | tooMany (call : String) (least most given : Nat)
  | absent (call : String) (arguments : List String)
deriving DecidableEq, Repr

def receiver : String := "self"

def pluralMark (count : Nat) : String :=
  if count = 1 then "" else "s"

def enumerated : List String → String
  | [] => ""
  | [only] => quoted only
  | [first, second] => quoted first ++ " and " ++ quoted second
  | names => String.intercalate ", " (names.dropLast.map quoted) ++ ", and " ++
      quoted (names.getLastD "")

def countRange (least most : Nat) : String :=
  if least = most then Numeral.ofNat most
  else "from " ++ Numeral.ofNat least ++ " to " ++ Numeral.ofNat most

def Misuse.message : Misuse → String
  | .unknown call => "'EnhancedLogger' object has no attribute '" ++ call ++ "'"
  | .unexpected call argument =>
      call ++ "() got an unexpected keyword argument '" ++ argument ++ "'"
  | .repeated call argument =>
      call ++ "() got multiple values for argument '" ++ argument ++ "'"
  | .tooMany call least most given =>
      call ++ "() takes " ++ countRange least most ++ " positional argument" ++
        (if least = most then pluralMark most else "s") ++ " but " ++ Numeral.ofNat given ++
        " " ++ (if given = 1 then "was" else "were") ++ " given"
  | .absent call arguments =>
      call ++ "() missing " ++ Numeral.ofNat arguments.length ++
        " required positional argument" ++ pluralMark arguments.length ++ ": " ++
        enumerated arguments

namespace Signature

def names (signature : Signature) : List String :=
  signature.required ++ signature.defaults.map Prod.fst

def fullName (signature : Signature) : String :=
  "EnhancedLogger." ++ signature.name

def namedFault? (signature : Signature) (filled : List String) (argument : String) :
    Option Misuse :=
  if (receiver :: filled).contains argument then
    some (.repeated signature.fullName argument)
  else if signature.isOpen || signature.names.contains argument then none
  else some (.unexpected signature.fullName argument)

def value? (signature : Signature) (arguments : Arguments) (name : String) : Option Cell :=
  let byPlace := (signature.names.zip arguments.placed).lookup name
  let byName := arguments.named.lookup name
  (byPlace.or byName).or (signature.defaults.lookup name)

def misuse? (signature : Signature) (arguments : Arguments) : Option Misuse :=
  let filled := signature.names.take arguments.placed.length
  let most := signature.names.length
  let absent := signature.required.filter fun name =>
    (signature.value? arguments name).isNone
  (arguments.named.findSome? fun (name, _) => signature.namedFault? filled name).or <|
    if most < arguments.placed.length then
      some (.tooMany signature.fullName (signature.required.length + 1) (most + 1)
        (arguments.placed.length + 1))
    else if absent.isEmpty then none
    else some (.absent signature.fullName absent)

def values (signature : Signature) (arguments : Arguments) : Except Misuse (List Cell) :=
  match signature.misuse? arguments with
  | some misuse => .error misuse
  | none => .ok (signature.names.filterMap (signature.value? arguments))

def others (signature : Signature) (arguments : Arguments) : List (String × Cell) :=
  arguments.named.filter fun (name, _) => !signature.names.contains name

end Signature

end TableExport.Log
