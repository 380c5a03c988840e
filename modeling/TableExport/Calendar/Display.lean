import TableExport.Calendar.Instant
import TableExport.Text.Digit

/-!
Reading of dates and instants in the form in which they are displayed: all
fields down to the second, perhaps a fraction, and an offset.
-/

set_option autoImplicit false

namespace TableExport.Calendar

open TableExport.Text

namespace Display

def number? : Nat → Nat → List Char → Option (Nat × List Char)
  | 0, value, text => some (value, text)
  | count + 1, value, character :: rest => do
      let digit ← digitValue? character
      number? count (10 * value + digit) rest
  | _ + 1, _, [] => none

def mark? (mark : Char) : List Char → Option (List Char)
  | [] => none
  | character :: rest => if character = mark then some rest else none

def date? (text : List Char) : Option (Date × List Char) := do
  let (year, rest) ← number? 4 0 text
  let rest ← mark? '-' rest
  let (month, rest) ← number? 2 0 rest
  let rest ← mark? '-' rest
  let (day, rest) ← number? 2 0 rest
  let date ← (Date.ofFields year month day).toOption
  pure (date, rest)

def fraction? : List Char → Option (Nat × List Char)
  | '.' :: rest => do
      let digits := rest.takeWhile isDigit
      let (value, _) ← number? digits.length 0 digits
      if digits.length ≤ 6 then
        pure (value * Nat.pow 10 (6 - digits.length), rest.drop digits.length)
      else none
  | text => some (0, text)

def offsetSize? (text : List Char) : Option Nat := do
  let (hours, rest) ← number? 2 0 text
  let rest ← mark? ':' rest
  let (minutes, rest) ← number? 2 0 rest
  if rest.isEmpty then pure (hours * 3600 + minutes * 60)
  else
    let rest ← mark? ':' rest
    let (seconds, rest) ← number? 2 0 rest
    if rest.isEmpty then pure (hours * 3600 + minutes * 60 + seconds) else none

def offset? : List Char → Option Int
  | ['Z'] => some 0
  | '+' :: rest => (offsetSize? rest).map fun size => (size : Int)
  | '-' :: rest => (offsetSize? rest).map fun size => -(size : Int)
  | _ => none

end Display

def Date.read? (text : String) : Option Date :=
  match Display.date? text.toList with
  | some (date, []) => some date
  | _ => none

def Instant.read? (text : String) : Option Instant := do
  let (date, rest) ← Display.date? text.toList
  let rest ← Display.mark? 'T' rest
  let (hour, rest) ← Display.number? 2 0 rest
  let rest ← Display.mark? ':' rest
  let (minute, rest) ← Display.number? 2 0 rest
  let rest ← Display.mark? ':' rest
  let (second, rest) ← Display.number? 2 0 rest
  let (micros, rest) ← Display.fraction? rest
  let offset ← Display.offset? rest
  let instant ← (Instant.ofFields (.ok date) hour minute second offset).toOption
  Instant.ofLocalMicros? offset (instant.localMicros + micros)

end TableExport.Calendar
