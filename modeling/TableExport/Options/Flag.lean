import TableExport.Options.Basic

/-!
The flags of the command line, by the kind of value they take, and the option
that each of them sets. The order of `spellings` is the order in which flags are
listed to the user.
-/

set_option autoImplicit false

namespace TableExport.Options

inductive TextFlag where
  | connectionUrl
  | username
  | password
  | passwordFile
  | table
  | sqlFile
  | partition
  | partitionColumn
  | partitionPeriod
  | minPartitionPeriod
  | splitColumn
  | output
deriving DecidableEq, Repr

inductive CountFlag where
  | fetchSize
  | limit
  | queryParallelism
  | maxWorkers
deriving DecidableEq, Repr

inductive SwitchFlag where
  | skipPartitionCheck
  | dryRun
deriving DecidableEq, Repr

inductive Flag where
  | help
  | text (flag : TextFlag)
  | count (flag : CountFlag)
  | switch (flag : SwitchFlag)
deriving DecidableEq, Repr

def TextFlag.name : TextFlag → String
  | .connectionUrl => "--connectionUrl"
  | .username => "--username"
  | .password => "--password"
  | .passwordFile => "--passwordFile"
  | .table => "--table"
  | .sqlFile => "--sqlFile"
  | .partition => "--partition"
  | .partitionColumn => "--partitionColumn"
  | .partitionPeriod => "--partitionPeriod"
  | .minPartitionPeriod => "--minPartitionPeriod"
  | .splitColumn => "--splitColumn"
  | .output => "--output"

def CountFlag.name : CountFlag → String
  | .fetchSize => "--fetchSize"
  | .limit => "--limit"
  | .queryParallelism => "--queryParallelism"
  | .maxWorkers => "--maxWorkers"

def SwitchFlag.name : SwitchFlag → String
  | .skipPartitionCheck => "--skipPartitionCheck"
  | .dryRun => "--dryRun"

def Flag.name : Flag → String
  | .help => "-h/--help"
  | .text flag => flag.name
  | .count flag => flag.name
  | .switch flag => flag.name

def spellings : List (String × Flag) :=
  [("-h", .help), ("--help", .help)] ++
    ([.text .connectionUrl, .text .username, .text .password, .text .passwordFile,
      .count .fetchSize, .text .table, .text .sqlFile, .count .limit, .text .partition,
      .text .partitionColumn, .text .partitionPeriod, .switch .skipPartitionCheck,
      .text .minPartitionPeriod, .text .splitColumn, .count .queryParallelism,
      .text .output, .count .maxWorkers, .switch .dryRun] : List Flag).map
      fun flag => (flag.name, flag)

def setText (options : Options) (flag : TextFlag) (value : Given String) : Options :=
  match flag with
  | .connectionUrl => { options with connectionUrl := some value }
  | .username => { options with username := some value }
  | .password => { options with password := some value }
  | .passwordFile => { options with passwordFile := some value }
  | .table => { options with table := some value }
  | .sqlFile => { options with sqlFile := some value }
  | .partition => { options with partition := some value }
  | .partitionColumn => { options with partitionColumn := some value }
  | .partitionPeriod => { options with partitionPeriod := some value }
  | .minPartitionPeriod => { options with minPartition := some value }
  | .splitColumn => { options with splitColumn := some value }
  | .output => { options with output := some value }

def getText (options : Options) : TextFlag → Option (Given String)
  | .connectionUrl => options.connectionUrl
  | .username => options.username
  | .password => options.password
  | .passwordFile => options.passwordFile
  | .table => options.table
  | .sqlFile => options.sqlFile
  | .partition => options.partition
  | .partitionColumn => options.partitionColumn
  | .partitionPeriod => options.partitionPeriod
  | .minPartitionPeriod => options.minPartition
  | .splitColumn => options.splitColumn
  | .output => options.output

def setCount (options : Options) (flag : CountFlag) (value : Given Int) : Options :=
  match flag with
  | .fetchSize => { options with fetchSize := value }
  | .limit => { options with limit := some value }
  | .queryParallelism => { options with parallelism := some value }
  | .maxWorkers => { options with maxWorkers := value }

def getCount (options : Options) : CountFlag → Option (Given Int)
  | .fetchSize => some options.fetchSize
  | .limit => options.limit
  | .queryParallelism => options.parallelism
  | .maxWorkers => some options.maxWorkers

def turnOn (options : Options) : SwitchFlag → Options
  | .skipPartitionCheck => { options with skipPartitionCheck := true }
  | .dryRun => { options with dryRun := true }

def isOn (options : Options) : SwitchFlag → Bool
  | .skipPartitionCheck => options.skipPartitionCheck
  | .dryRun => options.dryRun

end TableExport.Options
