/-!
# Blank characters and trimming

The blank characters are the code points of Unicode's `White_Space` property: the ASCII
controls from tab to carriage return, the space, next line, no-break space, the ogham space
mark, the typographic spaces from en quad to hair space, the line and paragraph separators,
the narrow no-break space, the medium mathematical space and the ideographic space.

Names and type words are compared after trimming them of blanks at both ends, so a type
written `" people "` or with a no-break space reads as `people`, while a zero-width space
(which is not blank) stays part of the text.
-/

namespace PosixRegistry.Text

/-- The code points of the Unicode `White_Space` property, in increasing order. -/
def blankCodes : List Nat :=
  [0x09, 0x0A, 0x0B, 0x0C, 0x0D, 0x20, 0x85, 0xA0, 0x1680,
   0x2000, 0x2001, 0x2002, 0x2003, 0x2004, 0x2005, 0x2006, 0x2007, 0x2008, 0x2009, 0x200A,
   0x2028, 0x2029, 0x202F, 0x205F, 0x3000]

/-- A character is blank when its code point has the `White_Space` property. -/
def isBlank (c : Char) : Bool :=
  blankCodes.contains c.toNat

/-- Drops blank characters from both ends of a list of characters. -/
def trimBlankList (cs : List Char) : List Char :=
  ((cs.dropWhile isBlank).reverse.dropWhile isBlank).reverse

/-- Drops blank characters from both ends of a text. -/
def trimBlank (s : String) : String :=
  String.ofList (trimBlankList s.toList)

/-- Drops blank characters from the start of a text. -/
def trimBlankStart (s : String) : String :=
  String.ofList (s.toList.dropWhile isBlank)

theorem isBlank_of_isWhitespace {c : Char} (h : c.isWhitespace = true) : isBlank c = true := by
  simp only [Char.isWhitespace, Bool.or_eq_true, decide_eq_true_eq] at h
  rcases h with ((h | h) | h) | h <;> simp [isBlank, blankCodes, h]

example : blankCodes.length = 25 := rfl

example : trimBlank "  people　" = "people" := by decide +kernel

example : trimBlank "​x" = "​x" := by decide +kernel

end PosixRegistry.Text
