/-!
# Blank characters

The characters of the Unicode property `White_Space`, and trimming by them.
-/

namespace QueryCompiler.Text

def blankCodePoints : List Nat :=
  [0x09, 0x0A, 0x0B, 0x0C, 0x0D, 0x20, 0x85, 0xA0, 0x1680, 0x2000, 0x2001, 0x2002, 0x2003,
    0x2004, 0x2005, 0x2006, 0x2007, 0x2008, 0x2009, 0x200A, 0x2028, 0x2029, 0x202F, 0x205F,
    0x3000]

def isBlank (character : Char) : Bool :=
  blankCodePoints.contains character.toNat

/-- Remove from both ends of a text the longest runs of characters that
satisfy a test. -/
def trimBoth (test : Char → Bool) (text : List Char) : List Char :=
  ((text.dropWhile test).reverse.dropWhile test).reverse

def trimBlank (text : List Char) : List Char :=
  trimBoth isBlank text

end QueryCompiler.Text
