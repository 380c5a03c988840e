import TableExport.Calendar.Fault

/-!
Why a literal could not be read. The fault keeps the literal as it was given,
blank margins included, and `message` is the line that the user sees.
-/

set_option autoImplicit false

namespace TableExport.Literal

open TableExport.Calendar

inductive Kind where
  | instant
  | period
deriving DecidableEq, Repr

def Kind.label : Kind → String
  | .instant => "date/time"
  | .period => "period"

inductive Cause where
  | missing (kind : Kind)
  | unreadable (kind : Kind)
  | impossible (fault : FieldFault)
  | noted (note : Option String)
deriving DecidableEq, Repr

structure Fault where
  literal : Option String
  cause : Cause
deriving DecidableEq, Repr

def Fault.shownLiteral (fault : Fault) : String :=
  fault.literal.getD "None"

/-- The wording of a fault; an empty note counts as none. -/
def Fault.message (fault : Fault) : String :=
  match fault.cause with
  | .missing kind => "Could not parse empty " ++ kind.label ++ " literal"
  | .unreadable kind =>
      "Could not parse " ++ kind.label ++ " literal '" ++ fault.shownLiteral ++ "'"
  | .impossible reason =>
      "Could not parse date/time literal '" ++ fault.shownLiteral ++ "': " ++ reason.message
  | .noted note =>
      match note with
      | none => "Could not parse '" ++ fault.shownLiteral ++ "'"
      | some text =>
          if text.isEmpty then "Could not parse '" ++ fault.shownLiteral ++ "'" else text

end TableExport.Literal
