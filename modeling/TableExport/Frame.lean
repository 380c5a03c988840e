import TableExport.Frame.Fault

/-!
Rows brought into columns of one kind each. A column takes the widest kind among
its cells, batch by batch and then over all batches, and its cells are converted
at each of the two steps; so a truth value that first became a number stays a
number when the column ends as text.
-/

set_option autoImplicit false

namespace TableExport

/-- A table with one kind for each column. -/
structure Frame where
  columns : List String
  kinds : List Frame.Kind
  rows : List (List Cell)
deriving DecidableEq, Repr

namespace Frame

/-- The frame of rows that came in batches. Without rows the columns keep their names, each
name once. -/
def ofBatches (columns : List String) (batches : List (List (List Cell))) : Frame :=
  let columns :=
    match batches with
    | (first :: _) :: _ => namesOver columns first.length
    | _ => columns.eraseDups
  let width := columns.length
  let unified := batches.map (unify width)
  let kinds := joinKinds width (unified.map Prod.fst)
  { columns := columns
    kinds := kinds
    rows := (unified.flatMap Prod.snd).map (convertRow kinds) }

/-- What a file keeps of a frame: no rows where there are no columns. -/
def stored (frame : Frame) : Frame :=
  if frame.columns.isEmpty then { frame with rows := [] } else frame

def isWritable (frame : Frame) : Bool :=
  !frame.kinds.contains .wideInteger

end Frame

end TableExport
