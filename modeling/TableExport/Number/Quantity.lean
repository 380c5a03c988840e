import TableExport.Number.Decimal.Arithmetic

/-!
Numbers of three kinds: integers, binary numbers and decimal numbers. Any two
compare by their exact values. An integer joins a number of either other kind in
a sum or a quotient; a binary and a decimal number do not mix.
-/

set_option autoImplicit false

namespace TableExport.Number

inductive Quantity where
  | integer (value : Int)
  | real (value : Binary64)
  | decimal (value : Decimal)
deriving DecidableEq, Repr

namespace Quantity

inductive Fault where
  | binary (fault : Binary64.Fault)
  | decimal (fault : Decimal.Fault)
deriving DecidableEq, Repr

def Fault.message : Fault → String
  | .binary fault => fault.message
  | .decimal fault => fault.message

def asDecimal : Quantity → Decimal
  | .integer value => .ofInt value
  | .real value => .ofBinary64 value
  | .decimal value => value

def mixes : Quantity → Quantity → Bool
  | .real _, .decimal _ => false
  | .decimal _, .real _ => false
  | _, _ => true

def less : Quantity → Quantity → Except Fault Bool
  | .integer first, .integer second => .ok (first < second)
  | .integer first, .real second => .ok (second.isAbove first)
  | .real first, .integer second => .ok (first.isBelow second)
  | .real first, .real second => .ok (first.less second)
  | first, second => (first.asDecimal.less second.asDecimal).mapError .decimal

def realOf (value : Int) : Except Fault Binary64 :=
  (Binary64.ofInt value).mapError .binary

def add : Quantity → Quantity → Except Fault Quantity
  | .integer first, .integer second => .ok (.integer (first + second))
  | .integer first, .real second => (realOf first).map fun first => .real (first.add second)
  | .real first, .integer second => (realOf second).map fun second => .real (first.add second)
  | .real first, .real second => .ok (.real (first.add second))
  | first, second =>
      match first.asDecimal.add second.asDecimal with
      | .ok sum => .ok (.decimal sum)
      | .error fault => .error (.decimal fault)

/-- The quotient of two numbers that mix and of which the second is not zero. -/
def divide : Quantity → Quantity → Except Fault Quantity
  | .integer first, .integer second =>
      match Binary64.ofQuotient (first * second.sign) second.natAbs with
      | .ok quotient => .ok (.real quotient)
      | .error fault => .error (.binary fault)
  | .integer first, .real second =>
      (realOf first).map fun first => .real (first.divide second)
  | .real first, .integer second =>
      (realOf second).map fun second => .real (first.divide second)
  | .real first, .real second => .ok (.real (first.divide second))
  | first, second =>
      match first.asDecimal.divide second.asDecimal with
      | .ok quotient => .ok (.decimal quotient)
      | .error fault => .error (.decimal fault)

def fixed (places : Nat) : Quantity → Except Fault String
  | .integer value => (realOf value).map (Binary64.fixed places)
  | .real value => .ok (value.fixed places)
  | .decimal value => (value.fixed places).mapError .decimal

def truncate : Quantity → Except Fault Int
  | .integer value => .ok value
  | .real value => value.truncate.mapError .binary
  | .decimal value => (value.toIntegerBy Int.tdiv).mapError .decimal

end Quantity

end TableExport.Number
