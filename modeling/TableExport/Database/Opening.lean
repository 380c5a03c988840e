import TableExport.Connection.Config
import TableExport.Database.Behaviour
import TableExport.Failure

/-!
Openings of connections: what a database was asked for, and the calls that
followed. An opening can be refused, and it can come to nothing without being
refused; every opening is kept, whatever comes of it.
-/

set_option autoImplicit false

namespace TableExport.Database

open TableExport.Connection

inductive ServerKind where
  | postgresql
  | vertica
deriving DecidableEq, Repr

inductive Target where
  | server (kind : ServerKind) (host : Option String) (port : Option Int) (database : String)
      (username password : Option (Given String)) (timeout : Option Int)
  | file (database : Option String)
deriving DecidableEq, Repr

structure Opening where
  target : Target
  calls : List Call
deriving DecidableEq, Repr

namespace Target

def textOr (text : Option String) (other : String) : String :=
  if (text.getD "").isEmpty then other else text.getD ""

def defaultDatabase : ServerKind → String
  | .postgresql => "postgres"
  | .vertica => "defaultdb"

def onServer (kind : ServerKind) (config : Config) : Target :=
  .server kind config.host config.port (textOr config.database (defaultDatabase kind))
    config.username config.password config.timeout

def ofConfig (kind : DatabaseKind) (config : Config) : Target :=
  match kind with
  | .postgresql => onServer .postgresql config
  | .greenplum => onServer .postgresql config
  | .vertica => onServer .vertica config
  | .sqlite => .file config.database

end Target

inductive Attempt where
  | unsupported (failure : Failure)
  | refused (target : Target) (failure : Failure)
  | absent (kind : DatabaseKind) (target : Target)
  | ready (kind : DatabaseKind) (target : Target)
deriving DecidableEq, Repr

def attempt (behaviour : Behaviour) (config : Config) (number : Nat) : Attempt :=
  match DatabaseKind.ofName? config.databaseType with
  | none => .unsupported (.configuration (.unsupportedDatabase config.databaseType))
  | some kind =>
      let target := Target.ofConfig kind config
      match behaviour.openingRefusal number with
      | some reason =>
          .refused target (.database (.unreachable kind config.database reason))
      | none => if behaviour.connectsNull then .absent kind target else .ready kind target

end TableExport.Database
