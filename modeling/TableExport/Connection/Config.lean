import TableExport.Connection.Address
import TableExport.Given

/-!
What is needed to reach a database, and how it is read from an address. User and
password given apart from the address win over those in it. A database in a file
has a path and nothing else.
-/

set_option autoImplicit false

namespace TableExport.Connection

open TableExport.Text

inductive DatabaseKind where
  | postgresql
  | greenplum
  | vertica
  | sqlite
deriving DecidableEq, Repr

namespace DatabaseKind

def name : DatabaseKind → String
  | .postgresql => "postgresql"
  | .greenplum => "greenplum"
  | .vertica => "vertica"
  | .sqlite => "sqlite"

def ofName? (text : String) : Option DatabaseKind :=
  match loweredAscii text with
  | "postgresql" => some .postgresql
  | "greenplum" => some .greenplum
  | "vertica" => some .vertica
  | "sqlite" => some .sqlite
  | _ => none

def ofScheme? (scheme : String) : Option DatabaseKind :=
  if scheme = "postgres" then some .postgresql else ofName? scheme

def defaultPort : DatabaseKind → Nat
  | .vertica => 5433
  | _ => 5432

end DatabaseKind

structure Config where
  databaseType : String
  host : Option String
  port : Option Int
  username : Option (Given String)
  password : Option (Given String)
  database : Option String
  timeout : Option Int
deriving DecidableEq, Repr

inductive ConnectionFault where
  | missing
  | unsupported (scheme : String)
  | pathMissing (url : String)
  | hostMissing (url : String)
  | port (url : String) (fault : PortFault)
  | address (fault : AddressFault)
deriving DecidableEq, Repr

def ConnectionFault.message : ConnectionFault → String
  | .missing => "--connectionUrl must be configured"
  | .unsupported scheme => "Unsupported database type in --connectionUrl: " ++ scheme
  | .pathMissing url => "SQLite connection URL needs a path: " ++ url
  | .hostMissing url => "Connection URL needs a host: " ++ url
  | .port url fault => "Invalid port in connection URL " ++ url ++ ": " ++ fault.message
  | .address fault => fault.message

namespace Config

def defaultTimeout : Int := 30

def leadingMark : List Char := "jdbc:".toList

def withoutMark (url : String) : String :=
  let text := url.toList
  if (text.take leadingMark.length).map Char.toLower = leadingMark then
    String.ofList (text.drop leadingMark.length)
  else url

/-- The path of a database in a file; one in memory loses the slash in front. -/
def filePath (address : Address) : String :=
  if "/:memory:".toList.isPrefixOf address.path then String.ofList (address.path.drop 1)
  else String.ofList address.path

/-- A text that counts as none when it is empty. -/
def nonempty? (text : String) : Option String :=
  if text.isEmpty then none else some text

def ofFileAddress (url : String) (address : Address) : Except ConnectionFault Config :=
  let path := filePath address
  if path.isEmpty then .error (.pathMissing url)
  else
    .ok
      { databaseType := DatabaseKind.sqlite.name
        host := none
        port := none
        username := none
        password := none
        database := some path
        timeout := some defaultTimeout }

def ofServerAddress (kind : DatabaseKind) (url : String) (address : Address)
    (username password : Option (Given String)) : Except ConnectionFault Config :=
  if address.host.isEmpty then .error (.hostMissing url)
  else
    match address.port with
    | .error fault => .error (.port url fault)
    | .ok port =>
        let chosen := if port.getD 0 = 0 then kind.defaultPort else port.getD 0
        let (user, secret) := address.credentials
        .ok
          { databaseType := kind.name
            host := some address.host
            port := some chosen
            username := username.or ((Address.decodedPart user).map .value)
            password := password.or ((secret.bind Address.decodedPart).map .value)
            database := nonempty? (String.ofList (address.path.dropWhile (· == '/')))
            timeout := some defaultTimeout }

def ofUrl (url : Option (Given String)) (username password : Option (Given String)) :
    Except ConnectionFault Config :=
  match url.bind Given.filled? with
  | none => .error .missing
  | some given => do
      let url := withoutMark given
      let address ← (Address.split url).mapError .address
      match DatabaseKind.ofScheme? address.scheme with
      | none => throw (.unsupported address.scheme)
      | some .sqlite => ofFileAddress url address
      | some kind => ofServerAddress kind url address username password

end Config

end TableExport.Connection
