/-!
Blank characters and the trimming of blank margins. The class is the Unicode
one with the four separators U+001C to U+001F; it is wider than the class of
the core library, and it claims nothing about what is visible on a screen.
-/

set_option autoImplicit false

namespace TableExport.Text

def blankCodes : List Nat :=
  [0x09, 0x0A, 0x0B, 0x0C, 0x0D, 0x1C, 0x1D, 0x1E, 0x1F, 0x20, 0x85, 0xA0, 0x1680,
   0x2000, 0x2001, 0x2002, 0x2003, 0x2004, 0x2005, 0x2006, 0x2007, 0x2008, 0x2009,
   0x200A, 0x2028, 0x2029, 0x202F, 0x205F, 0x3000]

def isBlank (character : Char) : Bool :=
  blankCodes.contains character.toNat

def dropTrailing (drops : Char → Bool) : List Char → List Char
  | [] => []
  | character :: rest =>
      match dropTrailing drops rest with
      | [] => if drops character then [] else [character]
      | kept => character :: kept

def strip (text : List Char) : List Char :=
  dropTrailing isBlank (text.dropWhile isBlank)

def isAllBlank (text : String) : Bool :=
  text.toList.all isBlank

end TableExport.Text
