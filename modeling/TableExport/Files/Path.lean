/-!
Paths as text and as steps. A relative path starts in the working folder, an
absolute one at the root, which is written as a step of its own. Normal steps
hold neither empty names nor single dots; double dots stay where they are. The
folders above the working folder have no names, only double dots.
-/

set_option autoImplicit false

namespace TableExport.Files

def rootStep : String := "/"

def splitSlashes : List Char → List (List Char)
  | [] => [[]]
  | '/' :: rest => [] :: splitSlashes rest
  | character :: rest =>
      match splitSlashes rest with
      | [] => [[character]]
      | name :: later => (character :: name) :: later

def rawNames (path : String) : List String :=
  (splitSlashes path.toList).map String.ofList

def isAbsolute (path : String) : Bool :=
  path.toList.head? == some '/'

def rawSteps (path : String) : List String :=
  if isAbsolute path then rootStep :: rawNames path else rawNames path

def normalSteps (path : String) : List String :=
  let names := (rawNames path).filter fun name => name != "" && name != "."
  if isAbsolute path then rootStep :: names else names

def pathText (steps : List String) : String :=
  match steps with
  | [] => "."
  | first :: rest =>
      if first = rootStep then rootStep ++ String.intercalate "/" rest
      else String.intercalate "/" (first :: rest)

/-- The folder above a folder. The root is above itself, and above the working folder
every step up is written. -/
def above (folder : List String) : List String :=
  if folder = [rootStep] then folder
  else if folder.all (· == "..") then folder ++ [".."]
  else folder.dropLast

def resolvedSteps (path : String) : List String :=
  (normalSteps path).foldl
    (fun done step => if step = ".." then above done else done ++ [step])
    []

/-- The text in front of the last slash, without slashes at its end. -/
def folderText (path : String) : String :=
  let head := (path.toList.reverse.dropWhile (· != '/'))
  if head.all (· == '/') then String.ofList head
  else String.ofList (head.dropWhile (· == '/')).reverse

def childText (folder : List String) (name : String) : String :=
  pathText (folder ++ [name])

end TableExport.Files
