/-!
Characters whose compatibility form contains a delimiter of an address. Such a
character looks harmless where it stands and becomes a delimiter once a text is
brought into its compatibility form.
-/

set_option autoImplicit false

namespace TableExport.Text

/-- The code points whose compatibility form holds one of `/`, `?`, the number sign, `@` or `:`. -/
def disguisedDelimiterCodes : List Nat :=
  [0x2047, 0x2048, 0x2049, 0x2100, 0x2101, 0x2105, 0x2106, 0x2A74, 0xFE13, 0xFE16,
   0xFE55, 0xFE56, 0xFE5F, 0xFE6B, 0xFF03, 0xFF0F, 0xFF1A, 0xFF1F, 0xFF20]

def isDisguisedDelimiter (character : Char) : Bool :=
  disguisedDelimiterCodes.contains character.toNat

end TableExport.Text
