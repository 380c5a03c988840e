import TableExport.Text.Blank

/-!
Where exported rows come from: a table named by a plain identifier, or a query
that is not blank. Both are wrapped so that conditions can follow.
-/

set_option autoImplicit false

namespace TableExport.Query

open TableExport.Text

def isNameStart (character : Char) : Bool :=
  character.isAlpha || character == '_'

def isNameCharacter (character : Char) : Bool :=
  character.isAlphanum || character == '_'

/-- Name characters up to the end of the text, or up to a line end that ends it. -/
def isNameTail : List Char → Bool
  | [] => true
  | ['\n'] => true
  | character :: rest => isNameCharacter character && isNameTail rest

/-- Whether a text can name a table: letters, digits and underscores of ASCII, no digit
in front, and perhaps one line end behind. -/
def isTableName (text : String) : Bool :=
  match text.toList with
  | [] => false
  | first :: rest => isNameStart first && isNameTail rest

structure TableName where
  text : String
  valid : isTableName text = true
deriving DecidableEq, Repr

def TableName.ofText? (text : String) : Option TableName :=
  if valid : isTableName text = true then some ⟨text, valid⟩ else none

structure SqlText where
  text : String
  valid : isAllBlank text = false
deriving DecidableEq, Repr

def SqlText.ofText? (text : String) : Option SqlText :=
  if valid : isAllBlank text = false then some ⟨text, valid⟩ else none

inductive Source where
  | table (name : TableName)
  | sql (query : SqlText)
deriving DecidableEq, Repr

def Source.statement : Source → String
  | .table name => "SELECT * FROM " ++ name.text ++ " WHERE 1=1"
  | .sql query => "SELECT * FROM (" ++ query.text ++ ") WHERE 1=1"

end TableExport.Query
