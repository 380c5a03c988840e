import TableExport.Frame.Kind

/-!
What keeps rows from becoming a frame. A batch is looked at by itself: its first
row must be as long as there are columns, its integers must be of two words at
most, its rows equally long, and no integer of two words may stand in a column
of texts; then the names of the columns must differ. Of several faults the one
that stands first in this list is reported. Batches must be equally wide.
-/

set_option autoImplicit false

namespace TableExport.Frame

open TableExport.Text

inductive Fault where
  | misfit
  | tooLarge (shown : String)
  | ragged (index length expected : Nat)
  | unshowable (shown : String)
  | repeatedName (name : String)
  | unequalWidths
  | unwritable
deriving DecidableEq, Repr

def Fault.message : Fault → String
  | .misfit => "data does not match the number of columns"
  | .tooLarge shown => "int value too large for Polars integer types: " ++ shown
  | .ragged index length expected =>
      "row at index " ++ Numeral.ofNat index ++ " has length " ++ Numeral.ofNat length ++
        " (expected " ++ Numeral.ofNat expected ++ ")"
  | .unshowable shown =>
      "could not append value: " ++ shown ++ " of type: i128 to the builder; make sure that " ++
        "all rows have the same schema or consider increasing \x60infer_schema_length\x60\n\n" ++
        "it might also be that a value overflows the data-type's capacity"
  | .repeatedName name => "column with name '" ++ name ++ "' has more than one occurrence"
  | .unequalWidths => "schema lengths differ"
  | .unwritable => "Invalid or unsupported format string: '_pli128'"

def shownLarge (value : Int) : String :=
  (Numeral.write value).toOption.getD "<unprintable int object>"

def tooLarge? : Cell → Option Fault
  | .integer value =>
      if isWithin twoWordBound value then none else some (.tooLarge (shownLarge value))
  | _ => none

def ragged? (expected : Nat) : Nat → List (List Cell) → Option Fault
  | _, [] => none
  | index, row :: rest =>
      if row.length = expected then ragged? expected (index + 1) rest
      else some (.ragged index row.length expected)

def unshowable? (kind : Kind) (cell : Cell) : Option Fault :=
  match kind, cell with
  | .text, .integer value =>
      if isWithin wordBound value then none else some (.unshowable (Numeral.ofInt value))
  | _, _ => none

def unshowableIn? (kinds : List Kind) (row : List Cell) : Option Fault :=
  (kinds.zip row).findSome? fun (kind, cell) => unshowable? kind cell

def placeName (place : Nat) : String :=
  "column_" ++ Numeral.ofNat place

/-- The names of the columns over rows of a given length; a column without a name is named
by its place. -/
def namesOver (columns : List String) (length : Nat) : List String :=
  if columns.isEmpty then (List.range length).map placeName
  else columns.zipIdx.map fun (name, place) => if name.isEmpty then placeName place else name

def firstTwin? : List String → Option String
  | [] => none
  | name :: rest => if rest.contains name then some name else firstTwin? rest

def firstReturn? : List String → List String → Option String
  | _, [] => none
  | seen, name :: rest =>
      if seen.contains name then some name else firstReturn? (name :: seen) rest

/-- The name that is reported when names repeat: of few names the first with a twin, of many
the first that returns. -/
def repeatedName? (names : List String) : Option String :=
  if names.length ≤ 4 then firstTwin? names else firstReturn? [] names

def fault? (columns : List String) : List (List Cell) → Option Fault
  | [] => none
  | first :: rest =>
      let rows := first :: rest
      if !columns.isEmpty && first.length != columns.length then some .misfit
      else
        (rows.flatten.findSome? tooLarge?).or <|
          (ragged? first.length 1 rest).or <|
          (rows.findSome? (unshowableIn? (kindsOf first.length rows))).or <|
          (repeatedName? (namesOver columns first.length)).map .repeatedName

def batchWidth (batch : List (List Cell)) : Nat :=
  (batch.head?.getD []).length

def equalWidths : List (List (List Cell)) → Bool
  | [] => true
  | first :: rest => rest.all fun batch => batchWidth batch == batchWidth first

end TableExport.Frame
