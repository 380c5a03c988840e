import TableExport.Calendar.Period
import TableExport.Given
import TableExport.Query.Source

/-!
A request for an export: a source, and what narrows or divides it. The request
alone does not promise that its parts agree; that is the work of the checks on
the options it is made from.
-/

set_option autoImplicit false

namespace TableExport.Query

open TableExport.Calendar

structure Request where
  source : Source
  tableName : Option String
  limit : Option Int
  partition : Option Instant
  partitionColumn : Option (Given String)
  partitionPeriod : Period
  splitColumn : Option (Given String)
  parallelism : Option Int
deriving DecidableEq, Repr

namespace Request

def exportName (request : Request) : String :=
  match request.tableName, request.source with
  | some name, source =>
      if name.isEmpty then
        match source with
        | .table table => table.text
        | .sql _ => "sql"
      else name
  | none, .table table => table.text
  | none, .sql _ => "sql"

def isSplit (request : Request) : Bool :=
  request.splitColumn.isSome && request.parallelism.isSome

end Request

end TableExport.Query
