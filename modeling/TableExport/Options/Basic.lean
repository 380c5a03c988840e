import TableExport.Given

/-!
The options of an export as they are given, before any of them is understood.
Text options and counts can be absent, and each of them can be struck; only the
size of a fetch and the count of workers are never absent.
-/

set_option autoImplicit false

namespace TableExport

structure Options where
  connectionUrl : Option (Given String)
  username : Option (Given String)
  password : Option (Given String)
  passwordFile : Option (Given String)
  table : Option (Given String)
  sqlFile : Option (Given String)
  limit : Option (Given Int)
  partition : Option (Given String)
  partitionColumn : Option (Given String)
  partitionPeriod : Option (Given String)
  splitColumn : Option (Given String)
  parallelism : Option (Given Int)
  skipPartitionCheck : Bool
  minPartition : Option (Given String)
  fetchSize : Given Int
  output : Option (Given String)
  maxWorkers : Given Int
  dryRun : Bool
deriving DecidableEq, Repr

namespace Options

def defaultFetchSize : Int := 10000

def defaultMaxWorkers : Int := 4

def defaults : Options :=
  { connectionUrl := none
    username := none
    password := none
    passwordFile := none
    table := none
    sqlFile := none
    limit := none
    partition := none
    partitionColumn := none
    partitionPeriod := none
    splitColumn := none
    parallelism := none
    skipPartitionCheck := false
    minPartition := none
    fetchSize := .value defaultFetchSize
    output := none
    maxWorkers := .value defaultMaxWorkers
    dryRun := false }

end Options

end TableExport
