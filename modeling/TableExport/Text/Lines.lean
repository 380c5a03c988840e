/-!
Lines of a text. A line ends at a line feed, at a carriage return, at both
together, or at one of the other marks that part lines, pages or records. The
end of the last line begins no further line.
-/

set_option autoImplicit false

namespace TableExport.Text

def endsLine (character : Char) : Bool :=
  let code := character.toNat
  (0x0A ≤ code && code ≤ 0x0D) || (0x1C ≤ code && code ≤ 0x1E) || code == 0x85 ||
    code == 0x2028 || code == 0x2029

def linesAfter (current : List Char) : List Char → List (List Char)
  | [] => if current.isEmpty then [] else [current.reverse]
  | '\r' :: '\n' :: rest => current.reverse :: linesAfter [] rest
  | character :: rest =>
      if endsLine character then current.reverse :: linesAfter [] rest
      else linesAfter (character :: current) rest

def lines (text : List Char) : List String :=
  (linesAfter [] text).map String.ofList

end TableExport.Text
