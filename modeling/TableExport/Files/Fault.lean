import TableExport.Text.Numeral
import TableExport.Text.Quoted

/-!
Why a file or a folder could not be used. The fault shows the path as the caller
spelled it, and the number that stands for the reason. A folder where a file is
to be written has a wording of its own, and so have the addresses that stand for
no path.
-/

set_option autoImplicit false

namespace TableExport.Files

open TableExport.Text

inductive Reason where
  | missing
  | alreadyThere
  | notFolder
  | isFolder
  | nameTooLong
deriving DecidableEq, Repr

inductive Fault where
  | nullByte
  | refused (reason : Reason) (path : String)
  | fileExpected (path : String)
  | unopened (reason : Reason) (path : String)
  | unexamined (reason : Reason) (path : String)
  | pathMissing (path : String)
  | addressGiven (text : String)
  | schemeUnknown (text : String)
  | hostGiven (text : String)
  | bucketMissing (store : String)
  | accountMissing
deriving DecidableEq, Repr

def Reason.number : Reason → Nat
  | .missing => 2
  | .alreadyThere => 17
  | .notFolder => 20
  | .isFolder => 21
  | .nameTooLong => 36

def Reason.message : Reason → String
  | .missing => "No such file or directory"
  | .alreadyThere => "File exists"
  | .notFolder => "Not a directory"
  | .isFolder => "Is a directory"
  | .nameTooLong => "File name too long"

def Reason.detailed (reason : Reason) (text : String) : String :=
  "[Errno " ++ Numeral.ofNat reason.number ++ "] " ++ text ++ ". Detail: [errno " ++
    Numeral.ofNat reason.number ++ "] " ++ reason.message

def Fault.message : Fault → String
  | .nullByte => "embedded null byte"
  | .refused reason path =>
      "[Errno " ++ Numeral.ofNat reason.number ++ "] " ++ reason.message ++ ": " ++
        quoted path
  | .fileExpected path => "expected a file path; " ++ quoted path ++ " is a directory"
  | .unopened reason path =>
      reason.detailed ("Failed to open local file '" ++ path ++ "'")
  | .unexamined reason path => reason.detailed ("Failed stat()ing path '" ++ path ++ "'")
  | .pathMissing path => Reason.missing.detailed ("Path does not exist '" ++ path ++ "'")
  | .addressGiven text => "Expected a local filesystem path, got a URI: '" ++ text ++ "'"
  | .schemeUnknown text => "Unrecognized filesystem type in URI: " ++ text
  | .hostGiven text =>
      "Unsupported hostname in non-Windows local URI: '" ++ text ++ "'"
  | .bucketMissing store => "Missing bucket name in " ++ store ++ " URI"
  | .accountMissing => "AzureOptions doesn't contain a valid account name"

end TableExport.Files
