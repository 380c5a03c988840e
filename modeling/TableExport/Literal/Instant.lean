import TableExport.Calendar.Instant
import TableExport.Literal.Fault

/-!
Reading of partial date and time literals: a year, then month, day, hour, minute
and second as far as they are given, then perhaps an offset. A reading takes as
many fields as leave an offset or nothing behind; the fields that are missing
are those of the start of the period that the literal names.
-/

set_option autoImplicit false

namespace TableExport.Literal

open TableExport.Text
open TableExport.Calendar

def twoDigits? : List Char → Option (Nat × List Char)
  | first :: second :: rest => do
      let first ← digitValue? first
      let second ← digitValue? second
      pure (10 * first + second, rest)
  | _ => none

def fourDigits? (text : List Char) : Option (Nat × List Char) := do
  let (high, rest) ← twoDigits? text
  let (low, rest) ← twoDigits? rest
  pure (100 * high + low, rest)

/-- Reads a field of two digits behind its separator, which may be in either case. -/
def field? (separator : Char) : List Char → Option (Nat × List Char)
  | [] => none
  | character :: rest =>
      if character.toUpper = separator then twoDigits? rest else none

def separators : List Char := ['-', '-', 'T', ':', ':']

/-- Every way to read fields from the start of a text, the longest one first. -/
def readings : List Char → List Char → List (List Nat × List Char)
  | [], text => [([], text)]
  | separator :: later, text =>
      (match field? separator text with
        | some (value, rest) =>
            (readings later rest).map fun reading => (value :: reading.1, reading.2)
        | none => []) ++ [([], text)]

structure Offset where
  negative : Bool
  hours : Nat
  minutes : Nat
  seconds : Nat
deriving DecidableEq, Repr

def offsetField? : List Char → Option (Nat × List Char)
  | ':' :: rest => twoDigits? rest
  | text => twoDigits? text

/-- Reads hours and perhaps minutes and seconds up to the end of the text. -/
def signedOffset? (negative : Bool) (text : List Char) : Option Offset := do
  let (hours, rest) ← twoDigits? text
  if rest.isEmpty then pure ⟨negative, hours, 0, 0⟩
  else
    let (minutes, rest) ← offsetField? rest
    if rest.isEmpty then pure ⟨negative, hours, minutes, 0⟩
    else
      let (seconds, rest) ← offsetField? rest
      if rest.isEmpty then pure ⟨negative, hours, minutes, seconds⟩ else none

/-- Reads an offset that fills the text; no text is the offset of universal time. -/
def offset? : List Char → Option Offset
  | [] => some ⟨false, 0, 0, 0⟩
  | '+' :: rest => signedOffset? false rest
  | '-' :: rest => signedOffset? true rest
  | [character] => if character.toUpper = 'Z' then some ⟨false, 0, 0, 0⟩ else none
  | _ => none

/-- The fields of a literal: the year, the later fields in order, the offset and its text. -/
structure PartialInstant where
  year : Nat
  later : List Nat
  offset : Offset
  offsetText : List Char
deriving DecidableEq, Repr

namespace PartialInstant

def read? (text : List Char) : Option PartialInstant := do
  let (year, rest) ← fourDigits? text
  (readings separators rest).findSome? fun reading =>
    (offset? reading.2).map fun offset => ⟨year, reading.1, offset, reading.2⟩

def offsetSeconds (fields : PartialInstant) : Except FieldFault Int :=
  let offset := fields.offset
  let size := (offset.hours * 60 + offset.minutes) * 60 + offset.seconds
  if 59 < offset.minutes || 59 < offset.seconds then
    .error (.offsetShape (String.ofList fields.offsetText))
  else if 18 * 3600 < size then .error (.offsetSize (String.ofList fields.offsetText))
  else .ok (if offset.negative then -(size : Int) else size)

def firstInstant (fields : PartialInstant) : Except FieldFault Instant := do
  let offset ← fields.offsetSeconds
  Instant.ofFields
    (Date.ofFields fields.year (fields.later.getD 0 1) (fields.later.getD 1 1))
    (fields.later.getD 2 0) (fields.later.getD 3 0) (fields.later.getD 4 0) offset

end PartialInstant

/-- What a literal that was read comes to: a fault of the literal, or a moment
that universal time may not reach. -/
inductive InstantFault where
  | literal (fault : Fault)
  | calendar (fault : Calendar.Fault)
deriving DecidableEq, Repr

def readInstant (text : Option String) : Except InstantFault Instant :=
  match text with
  | none => .error (.literal ⟨none, .missing .instant⟩)
  | some literal =>
      match PartialInstant.read? (strip literal.toList) with
      | none => .error (.literal ⟨some literal, .unreadable .instant⟩)
      | some fields =>
          match fields.firstInstant with
          | .error fault => .error (.literal ⟨some literal, .impossible fault⟩)
          | .ok instant => instant.toUniversal.mapError .calendar

end TableExport.Literal
