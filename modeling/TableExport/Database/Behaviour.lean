import TableExport.Cell
import TableExport.Given
import TableExport.Text.Numeral

/-!
A database as an export meets it: which calls it refuses and with what reason,
what it answers to a statement, and the row it gives for bounds. Nothing is said
about what the statements mean.
-/

set_option autoImplicit false

namespace TableExport.Database

open TableExport.Text

structure Table where
  columns : List String
  rows : List (List Cell)
deriving DecidableEq, Repr

inductive Reply where
  | table (table : Table)
  | refusal (reason : String)
deriving DecidableEq, Repr

structure Behaviour where
  connectError : Option String
  connectErrorFrom : Int
  connectsNull : Bool
  cursorError : Option String
  executeError : Option String
  fetchError : Option String
  closeError : Option String
  row : Option (List Cell)
  replies : List (String × Reply)
  defaultReply : Option Reply
deriving DecidableEq, Repr

namespace Behaviour

def silent : Behaviour :=
  { connectError := none
    connectErrorFrom := 0
    connectsNull := false
    cursorError := none
    executeError := none
    fetchError := none
    closeError := none
    row := none
    replies := []
    defaultReply := none }

/-- The reason for refusing the opening with the given number, if it is refused. -/
def openingRefusal (behaviour : Behaviour) (number : Nat) : Option String :=
  if behaviour.connectErrorFrom ≤ number then behaviour.connectError else none

/-- What comes of a statement: its own reply, else the one for all statements. -/
def reply (behaviour : Behaviour) (sql : String) : Except String Table :=
  match ((behaviour.replies.find? fun entry => entry.1 = sql).map Prod.snd).or
      behaviour.defaultReply with
  | some (.table table) => .ok table
  | some (.refusal reason) => .error reason
  | none => .error ("no result for: " ++ sql)

end Behaviour

inductive Call where
  | execute (sql : String)
  | fetchOne
  | fetchMany (count : Given Int)
  | closeCursor
  | closeConnection
deriving DecidableEq, Repr

def Call.line : Call → String
  | .execute sql => "execute " ++ sql
  | .fetchOne => "fetchone"
  | .fetchMany (.value count) => "fetchmany " ++ Numeral.ofInt count
  | .fetchMany .struck => "fetchmany " ++ Given.struckText
  | .closeCursor => "cursor.close"
  | .closeConnection => "connection.close"

end TableExport.Database
