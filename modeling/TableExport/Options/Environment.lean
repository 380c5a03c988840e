import TableExport.Failure
import TableExport.Options.Flag
import TableExport.Text.Case

/-!
Options from the environment. Every flag but the password has a variable whose
value stands in for the flag; an empty variable counts as absent. Counts are
read at once and in a fixed order, so the first bad one is reported even when
the command line would set the option anyway.
-/

set_option autoImplicit false

namespace TableExport.Options

open TableExport.Text

abbrev Environment := List (String × String)

def variableName (suffix : String) : String :=
  "DBEXPORT_" ++ suffix

def Environment.get? (environment : Environment) (name : String) : Option String :=
  (environment.find? fun entry => entry.1 == name).map Prod.snd

/-- The value of a variable of this program, unless it is empty. -/
def Environment.value? (environment : Environment) (suffix : String) : Option String :=
  (environment.get? (variableName suffix)).filter fun value => !value.isEmpty

def TextFlag.suffix? : TextFlag → Option String
  | .connectionUrl => some "CONNECTION_URL"
  | .username => some "USERNAME"
  | .password => none
  | .passwordFile => some "PASSWORD_FILE"
  | .table => some "TABLE"
  | .sqlFile => some "SQL_FILE"
  | .partition => some "PARTITION"
  | .partitionColumn => some "PARTITION_COLUMN"
  | .partitionPeriod => some "PARTITION_PERIOD"
  | .minPartitionPeriod => some "MIN_PARTITION_PERIOD"
  | .splitColumn => some "SPLIT_COLUMN"
  | .output => some "OUTPUT"

def CountFlag.suffix : CountFlag → String
  | .fetchSize => "FETCH_SIZE"
  | .limit => "LIMIT"
  | .queryParallelism => "QUERY_PARALLELISM"
  | .maxWorkers => "MAX_WORKERS"

def SwitchFlag.suffix : SwitchFlag → String
  | .skipPartitionCheck => "SKIP_PARTITION_CHECK"
  | .dryRun => "DRY_RUN"

/-- The suffix of the variable that stands in for a flag, if there is one. -/
def Flag.suffix? : Flag → Option String
  | .help => none
  | .text flag => flag.suffix?
  | .count flag => some flag.suffix
  | .switch flag => some flag.suffix

def variableNames : List String :=
  ((spellings.filterMap fun entry => entry.2.suffix?) ++
    ["PASSWORD", "LOG_LEVEL", "LOG_FILE"]).map variableName

def Environment.text (environment : Environment) (flag : TextFlag) : Option (Given String) :=
  (flag.suffix?.bind environment.value?).map .value

def Environment.count (environment : Environment) (flag : CountFlag) :
    Except Failure (Option (Given Int)) :=
  match environment.value? flag.suffix with
  | none => .ok none
  | some value =>
      match Numeral.readInt? value with
      | some count => .ok (some (.value count))
      | none =>
          .error (.configuration (.environmentInteger (variableName flag.suffix) value))

def Environment.switch (environment : Environment) (flag : SwitchFlag) : Bool :=
  ["1", "true", "yes"].contains
    (loweredAscii ((environment.value? flag.suffix).getD "false"))

def ofEnvironment (environment : Environment) : Except Failure Options := do
  let fetchSize ← environment.count .fetchSize
  let limit ← environment.count .limit
  let parallelism ← environment.count .queryParallelism
  let maxWorkers ← environment.count .maxWorkers
  pure
    { connectionUrl := environment.text .connectionUrl
      username := environment.text .username
      password := environment.text .password
      passwordFile := environment.text .passwordFile
      table := environment.text .table
      sqlFile := environment.text .sqlFile
      limit := limit
      partition := environment.text .partition
      partitionColumn := environment.text .partitionColumn
      partitionPeriod := environment.text .partitionPeriod
      splitColumn := environment.text .splitColumn
      parallelism := parallelism
      skipPartitionCheck := environment.switch .skipPartitionCheck
      minPartition := environment.text .minPartitionPeriod
      fetchSize := fetchSize.getD (.value defaultFetchSize)
      output := environment.text .output
      maxWorkers := maxWorkers.getD (.value defaultMaxWorkers)
      dryRun := environment.switch .dryRun }

/-- The password: the option, else the content of the password file, else the variable. -/
def resolvedPassword (options : Options) (environment : Environment) (files : Files.Tree) :
    Except Failure (Option (Given String)) :=
  match options.password with
  | some password => .ok (some password)
  | none =>
      match options.passwordFile.bind Given.filled? with
      | none => .ok ((environment.value? "PASSWORD").map .value)
      | some path =>
          ((files.readText path).mapError (Failure.ofText path)).map fun text =>
            some (.value text)

end TableExport.Options
