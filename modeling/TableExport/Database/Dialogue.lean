import TableExport.Cell.Arithmetic
import TableExport.Database.Behaviour
import TableExport.Frame

/-!
A dialogue with a database over one connection. Each call is written down before
it can be refused; a refusal ends the dialogue with its reason. A cursor is
closed whatever happens between its opening and its closing, and a refusal to
close takes the place of any outcome before it. Rows that have no shape end the
fetching as a refusal does.
-/

set_option autoImplicit false

namespace TableExport.Database

inductive Refusal where
  | reason (text : String)
  | shape (fault : Frame.Fault)
  | size (fault : Cell.Fault)
deriving DecidableEq, Repr

def Refusal.message : Refusal → String
  | .reason text => text
  | .shape fault => fault.message
  | .size fault => fault.message

abbrev Dialogue (α : Type) := ExceptT Refusal (StateM (List Call)) α

namespace Dialogue

def call (made : Call) : Dialogue Unit :=
  modify fun calls => calls ++ [made]

def refuseFor (reason : Option String) : Dialogue Unit :=
  match reason with
  | none => pure ()
  | some reason => throw (.reason reason)

/-- Whether a statement asks for bounds; such a statement has no table. -/
def asksBounds (sql : String) : Bool :=
  "SELECT MIN(".toList.isPrefixOf sql.toList

def execute (behaviour : Behaviour) (sql : String) : Dialogue (Option Table) := do
  call (.execute sql)
  refuseFor behaviour.executeError
  if asksBounds sql then pure none
  else
    match behaviour.reply sql with
    | .ok table => pure (some table)
    | .error reason => throw (.reason reason)

def fetchOne (behaviour : Behaviour) : Dialogue (Option (List Cell)) := do
  call .fetchOne
  refuseFor behaviour.fetchError
  pure behaviour.row

/-- Cuts a list into batches of a size, the last one perhaps shorter; a size of zero makes
no batch. -/
def batches {α : Type} (size : Nat) (items : List α) : List (List α) :=
  if size = 0 then []
  else
    match items with
    | [] => []
    | first :: rest =>
        (first :: rest).take size :: batches size ((first :: rest).drop size)
termination_by items.length
decreasing_by
  simp only [List.length_drop, List.length_cons]
  omega

def struckSize : Refusal :=
  .size (.unordered .lessOrEqual Given.struckWord (Cell.integer 0).typeWord)

/-- Fetches batches until one is empty or has no shape, and joins them. -/
def fetchBatches (columns : List String) (size : Int) (rows : List (List Cell)) :
    Dialogue Frame := do
  let found := batches size.toNat rows
  let sound := found.takeWhile fun batch => (Frame.fault? columns batch).isNone
  modify fun calls => calls ++ List.replicate (sound.length + 1) (.fetchMany (.value size))
  match (found.drop sound.length).head?.bind (Frame.fault? columns) with
  | some fault => throw (.shape fault)
  | none =>
      if Frame.equalWidths found then pure (Frame.ofBatches columns found)
      else throw (.shape .unequalWidths)

def fetchAll (size : Given Int) (table : Table) : Dialogue Frame :=
  match size with
  | .value size => fetchBatches table.columns size table.rows
  | .struck => do
      call (.fetchMany .struck)
      throw struckSize

def withCursor {α : Type} (behaviour : Behaviour) (work : Dialogue α) : Dialogue α := do
  refuseFor behaviour.cursorError
  let outcome ← (ExceptT.lift work.run : Dialogue (Except Refusal α))
  call .closeCursor
  refuseFor behaviour.closeError
  match outcome with
  | .ok value => pure value
  | .error refusal => throw refusal

def askBounds (behaviour : Behaviour) (sql : String) : Dialogue (Option (List Cell)) :=
  withCursor behaviour do
    let _ ← execute behaviour sql
    fetchOne behaviour

def noTableReason : String := "'NoneType' object is not iterable"

def askRows (behaviour : Behaviour) (sql : String) (size : Given Int) : Dialogue Frame :=
  withCursor behaviour do
    match ← execute behaviour sql with
    | none => throw (.reason noTableReason)
    | some table => fetchAll size table

def outcome {α : Type} (dialogue : Dialogue α) : Except Refusal α × List Call :=
  dialogue.run []

end Dialogue

end TableExport.Database
