import TableExport.Files.Fault
import TableExport.Files.Home
import TableExport.Files.Path
import TableExport.Text.Lines
import TableExport.Text.Utf8

/-!
A tree of folders and files below a working folder, and the few things that are
done to it: reading a whole text, making folders, and opening a file to append.
The working folder, the folders above it, the root and the home of the account
are always there. Nothing is claimed about rights or links.
-/

set_option autoImplicit false

namespace TableExport.Files

open TableExport.Text

inductive Node where
  | folder
  | file (bytes : List UInt8)
deriving DecidableEq, Repr

structure Tree where
  entries : List (List String × Node)
deriving DecidableEq, Repr

namespace Tree

def empty : Tree := ⟨[]⟩

def alwaysThere (steps : List String) : Bool :=
  steps.all (· == "..") || steps = [rootStep] || steps = normalSteps accountHome

def node? (tree : Tree) (steps : List String) : Option Node :=
  if alwaysThere steps then some .folder
  else (tree.entries.find? fun entry => entry.1 = steps).map Prod.snd

def put (tree : Tree) (steps : List String) (node : Node) : Tree :=
  ⟨(steps, node) :: tree.entries⟩

def plant (tree : Tree) (steps : List String) (node : Node) : Tree :=
  let folders := (List.range steps.length).map fun count => steps.take count
  let grown := folders.foldl
    (fun tree folder => if (tree.node? folder).isSome then tree else tree.put folder .folder)
    tree
  grown.put steps node

inductive Place where
  | folder (steps : List String)
  | file (steps : List String) (bytes : List UInt8)
  | vacant (steps : List String)
deriving DecidableEq, Repr

def nameLimit : Nat := 255

def pathLimit : Nat := 4095

/-- Walks from a folder along the steps that are left. A vacant place is one whose last
step alone is missing. -/
def walkFrom (tree : Tree) (here : List String) : List String → Except Reason Place
  | [] => .ok (.folder here)
  | name :: rest =>
      if name = "" || name = "." then walkFrom tree here rest
      else if name = rootStep then walkFrom tree [rootStep] rest
      else if name = ".." then walkFrom tree (above here) rest
      else if nameLimit < name.utf8ByteSize then .error .nameTooLong
      else
        let next := here ++ [name]
        match tree.node? next with
        | some .folder => walkFrom tree next rest
        | some (.file bytes) =>
            if rest.isEmpty then .ok (.file next bytes) else .error .notFolder
        | none => if rest.isEmpty then .ok (.vacant next) else .error .missing

def walk (tree : Tree) (path : String) : Except Reason Place :=
  if path.isEmpty then .error .missing
  else if pathLimit < path.utf8ByteSize then .error .nameTooLong
  else walkFrom tree [] (rawSteps path)

def readBytes (tree : Tree) (path : String) : Except Fault (List UInt8) :=
  if path.toList.contains '\u0000' then .error .nullByte
  else
    match tree.walk path with
    | .ok (.file _ bytes) => .ok bytes
    | .ok (.folder _) => .error (.refused .isFolder path)
    | .ok (.vacant _) => .error (.refused .missing path)
    | .error reason => .error (.refused reason path)

def isFolder (tree : Tree) (path : String) : Bool :=
  match tree.walk path with
  | .ok (.folder _) => true
  | _ => false

def isFile (tree : Tree) (path : String) : Bool :=
  match tree.walk path with
  | .ok (.file _ _) => true
  | _ => false

def makeFolder (tree : Tree) (path : String) : Except Reason Tree :=
  match tree.walk path with
  | .ok (.vacant steps) => .ok (tree.put steps .folder)
  | .ok _ => .error .alreadyThere
  | .error reason => .error reason

/-- Makes a folder unless it is there, given the reason why it could not be made. -/
def acceptFolder (tree : Tree) (path : String) (reason : Reason) : Except Fault Tree :=
  if tree.isFolder path then .ok tree else .error (.refused reason path)

def ensureReversed (tree : Tree) : List String → Except Fault Tree
  | [] => .ok tree
  | name :: above =>
      let path := pathText (name :: above).reverse
      match tree.makeFolder path with
      | .ok grown => .ok grown
      | .error .missing => do
          let tree ← ensureReversed tree above
          match tree.makeFolder path with
          | .ok grown => .ok grown
          | .error .missing => .error (.refused .missing path)
          | .error reason => tree.acceptFolder path reason
      | .error reason => tree.acceptFolder path reason

/-- Makes a folder and the folders above it as far as they are missing. -/
def ensureFolder (tree : Tree) (path : String) : Except Fault Tree :=
  if path.toList.contains '\u0000' then .error .nullByte
  else ensureReversed tree (normalSteps path).reverse

/-- Opens a file to append to it; the path shown in a fault is the resolved one. -/
def openForAppend (tree : Tree) (path : String) : Except Fault Tree :=
  let resolved := pathText (resolvedSteps path)
  match tree.walk resolved with
  | .ok (.file _ _) => .ok tree
  | .ok (.vacant steps) => .ok (tree.put steps (.file []))
  | .ok (.folder _) => .error (.refused .isFolder resolved)
  | .error reason => .error (.refused reason resolved)

def holds (tree : Tree) (path : String) : Bool :=
  tree.isFolder path || tree.isFile path

def spelled (names : List String) : String :=
  String.intercalate "/" names.reverse

/-- Makes a folder, after the folders above it as far as they are missing, given the names
of its path, the last one first. A fault shows the path as it is spelled. -/
def ensureSpelled (tree : Tree) : List String → Except Fault Tree
  | [] => .ok tree
  | name :: above => do
      let head := above.dropWhile (· == "")
      let missing := !head.isEmpty && !tree.holds (spelled head)
      let tree ←
        if missing then
          match ensureSpelled tree head with
          | .error (.refused .alreadyThere _) => .ok tree
          | other => other
        else .ok tree
      if missing && name = "." then pure tree
      else
        let path := spelled (name :: above)
        match tree.makeFolder path with
        | .ok grown => .ok grown
        | .error reason => tree.acceptFolder path reason
termination_by names => names.length
decreasing_by
  have shorter := (List.dropWhile_sublist (fun name => name == "") (l := above)).length_le
  simp only [List.length_cons]
  omega

def openLog (tree : Tree) (path : String) : Except Fault Tree := do
  let folder := folderText path
  let tree ← if folder.isEmpty then .ok tree
    else tree.ensureSpelled (rawNames folder).reverse
  tree.openForAppend path

def append (tree : Tree) (path : String) (bytes : List UInt8) : Tree :=
  match tree.walk (pathText (resolvedSteps path)) with
  | .ok (.file steps old) => tree.put steps (.file (old ++ bytes))
  | _ => tree

def unifiedLineEnds : List Char → List Char
  | [] => []
  | '\r' :: '\n' :: rest => '\n' :: unifiedLineEnds rest
  | '\r' :: rest => '\n' :: unifiedLineEnds rest
  | character :: rest => character :: unifiedLineEnds rest

end Tree

inductive TextFault where
  | file (fault : Fault)
  | encoding (fault : Utf8.Fault)
deriving DecidableEq, Repr

/-- The text of a file with unified line ends and without blank margins. -/
def Tree.readText (tree : Tree) (path : String) : Except TextFault String := do
  let bytes ← (tree.readBytes path).mapError .file
  let text ← (Utf8.decode bytes).mapError .encoding
  pure (String.ofList (strip (unifiedLineEnds text.toList)))

def Tree.lines? (tree : Tree) (path : String) : Option (List String) :=
  match tree.readBytes path with
  | .ok bytes => some (lines (Utf8.decodeLossy bytes))
  | .error _ => none

end TableExport.Files
