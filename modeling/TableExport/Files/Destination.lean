import TableExport.Files.Home
import TableExport.Files.Tree
import TableExport.Files.Uri

/-!
Where a file is to be written. A path may be spelled as an address; then its
scheme decides, and most schemes are refused. A text whose front has the form of
a scheme is never taken for a path, even where it is no address. What is written
by an address of the store that forgets stands nowhere.
-/

set_option autoImplicit false

namespace TableExport.Files

inductive Destination where
  | path (text : String)
  | nowhere
deriving DecidableEq, Repr

def isSchemeLength (length : Nat) : Bool :=
  2 ≤ length && length ≤ 36

def looksAddressed (text : String) : Bool :=
  let (scheme, rest) := Uri.splitBefore ':' text.toList
  !rest.isEmpty && isSchemeLength scheme.length && Uri.isScheme scheme

/-- A path in the store that forgets; only its root is a folder. -/
def forgottenDestination (path : String) : Except Fault Destination :=
  let inside := path.toList.dropWhile (· == '/')
  if inside.contains '/' then .error (.pathMissing (String.ofList inside)) else .ok .nowhere

def Uri.destination (uri : Uri) (text : String) : Except Fault Destination :=
  if uri.scheme = "file" || uri.scheme = "local" then
    match uri.authority.filter fun host => !host.isEmpty with
    | none => .ok (.path uri.path)
    | some _ => .error (.hostGiven text)
  else if uri.scheme = "mock" then forgottenDestination uri.path
  else if uri.scheme = "s3" then .error (.bucketMissing "S3")
  else if uri.scheme = "gs" || uri.scheme = "gcs" then .error (.bucketMissing "GCS")
  else if uri.scheme = "abfs" || uri.scheme = "abfss" then .error .accountMissing
  else .error (.schemeUnknown text)

namespace Tree

/-- Whether a path leads to something. A path that cannot be walked for its length leads to
an answer neither way. -/
def examined (tree : Tree) (path : String) : Except Fault Bool :=
  match tree.walk path with
  | .error .nameTooLong => .error (.unexamined .nameTooLong path)
  | _ => .ok (tree.holds path)

def addressed (text : String) : Except Fault Destination :=
  match Uri.read? text with
  | none => .ok (.path text)
  | some uri => uri.destination text

/-- The place that a text stands for. What is there under that name is meant by it. -/
def destination (tree : Tree) (text : String) : Except Fault Destination :=
  if looksAddressed text then addressed text
  else do
    let isThere ← tree.examined text
    if isThere || isAbsolute text then pure (.path text) else addressed text

def openable (tree : Tree) (path : String) : Except Fault (List String) :=
  if looksAddressed path then .error (.addressGiven path)
  else
    match tree.walk path with
    | .ok (.file steps _) => .ok steps
    | .ok (.vacant steps) => .ok steps
    | .ok (.folder _) => .error (.unopened .isFolder path)
    | .error reason => .error (.unopened reason path)

/-- Where a file with a given path is written, if it is written to a folder at all. A
folder must not stand in its place. -/
def placeFor (tree : Tree) (home : Option String) (path : String) :
    Except Fault (Option (List String)) := do
  let path := expandHome home path
  if tree.isFolder path then throw (.fileExpected path)
  match ← tree.destination path with
  | .path path => (tree.openable path).map some
  | .nowhere => pure none

end Tree

end TableExport.Files
