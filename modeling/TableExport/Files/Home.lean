/-!
The tilde in front of a path. Alone or before a slash it stands for the home of
the caller, which a variable may name; before the name of the account it stands
for the home of the account. Any other tilde is part of a name.
-/

set_option autoImplicit false

namespace TableExport.Files

def accountName : String := "root"

def accountHome : String := "/root"

def homeOf? (home : Option String) (name : String) : Option String :=
  if name.isEmpty then some (home.getD accountHome)
  else if name = accountName then some accountHome
  else none

def withoutEndSlashes (text : String) : List Char :=
  (text.toList.reverse.dropWhile (· == '/')).reverse

def expandHome (home : Option String) (path : String) : String :=
  match path.toList with
  | '~' :: rest =>
      let (name, below) := rest.span (· != '/')
      match homeOf? home (String.ofList name) with
      | none => path
      | some home =>
          let expanded := withoutEndSlashes home ++ below
          if expanded.isEmpty then "/" else String.ofList expanded
  | _ => path

end TableExport.Files
