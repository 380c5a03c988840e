import TableExport.Text.Percent

/-!
Numeric host addresses. Only their form is checked; what a well-formed address
stands for plays no part here.
-/

set_option autoImplicit false

namespace TableExport.Connection

def splitAt (separator : Char) : List Char → List (List Char)
  | [] => [[]]
  | character :: rest =>
      if character = separator then [] :: splitAt separator rest
      else
        match splitAt separator rest with
        | [] => [[character]]
        | first :: later => (character :: first) :: later

def isOctet (text : List Char) : Bool :=
  !text.isEmpty && text.all Char.isDigit && text.length ≤ 3 &&
    (text == ['0'] || text.head? != some '0') &&
    Text.digitsValue (text.map fun character => character.toNat - 48) ≤ 255

def isShortAddress (text : List Char) : Bool :=
  let octets := splitAt '.' text
  octets.length = 4 && octets.all isOctet

def isGroup (text : List Char) : Bool :=
  !text.isEmpty && text.length ≤ 4 &&
    text.all fun character => (Text.Percent.hexValue? character).isSome

/-- The groups of an address, with a short address at the end standing for two of them. -/
def addressGroups? (parts : List (List Char)) : Option (List (List Char)) :=
  let last := parts.getLastD []
  if last.contains '.' then
    if isShortAddress last then some (parts.dropLast ++ [['0'], ['0']]) else none
  else some parts

/-- Whether the groups in front of a gap, or behind it in reverse, are sound: an empty
group may only stand at the outer end, next to the gap. -/
def isSide (side : List (List Char)) : Bool :=
  side == [[]] || side.all isGroup

def sideSize (side : List (List Char)) : Nat :=
  if side == [[]] then 0 else side.length

/-- The places strictly inside a list of groups where a group is empty. -/
def gaps (parts : List (List Char)) : List Nat :=
  (List.range parts.length).filter fun place =>
    0 < place && place + 1 < parts.length && (parts.getD place ['0']).isEmpty

/-- Whether groups make an address of eight, with at most one gap for those left out. -/
def areGroups (parts : List (List Char)) : Bool :=
  match gaps parts with
  | [] => parts.length = 8 && parts.all isGroup
  | [place] =>
      let high := parts.take place
      let low := parts.drop (place + 1)
      parts.length ≤ 9 && isSide high && isSide low && sideSize high + sideSize low < 8
  | _ => false

/-- Splits a zone off an address; a zone is not empty and holds no percent sign. -/
def withoutZone? (text : List Char) : Option (List Char) :=
  match splitAt '%' text with
  | [address] => some address
  | [address, zone] => if zone.isEmpty then none else some address
  | _ => none

/-- Eight groups of hexadecimal digits with colons between them, perhaps with a gap, a
short address at the end, and a zone. -/
def isLongAddress (text : List Char) : Bool :=
  if text.contains '/' then false
  else
    match withoutZone? text with
    | none => false
    | some address =>
        let parts := splitAt ':' address
        if parts.length < 3 then false
        else
          match addressGroups? parts with
          | none => false
          | some groups => areGroups groups

/-- An address of a later kind: a version in hexadecimal digits, a point, and more. -/
def isFutureAddress (text : List Char) : Bool :=
  match text with
  | 'v' :: rest =>
      let isVersion := fun character => (Text.Percent.hexValue? character).isSome
      let version := rest.takeWhile isVersion
      match rest.dropWhile isVersion with
      | '.' :: more => !version.isEmpty && !more.isEmpty && !more.contains '\n'
      | _ => false
  | _ => false

end TableExport.Connection
