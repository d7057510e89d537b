/-!
# Blank characters

White space in the sense of the Unicode property `White_Space`. It decides
whether an image name is blank and what is cut from both ends of a subnet
or of a command's output. The property has twenty-five characters, and it
is neither the ASCII set nor the separator categories: it holds the line
separator and the no-break space, and it does not hold the zero-width space.
-/

namespace LedgerNet.Text

/-- **A character is blank** when it has the `White_Space` property. -/
def isBlank (c : Char) : Bool :=
  let n := c.toNat
  (0x09 ≤ n && n ≤ 0x0d) || n == 0x20 || n == 0x85 || n == 0xa0 || n == 0x1680
    || (0x2000 ≤ n && n ≤ 0x200a) || n == 0x2028 || n == 0x2029 || n == 0x202f
    || n == 0x205f || n == 0x3000

/-- The characters left when blanks are cut from both ends. -/
def trimChars (cs : List Char) : List Char :=
  ((cs.dropWhile isBlank).reverse.dropWhile isBlank).reverse

/-- **Trimming** cuts the blank characters from both ends and keeps those
in between. -/
def trim (s : String) : String :=
  String.ofList (trimChars s.toList)

/-- A text is blank when it holds blank characters only; the empty text is
blank. -/
def isBlankText (s : String) : Bool :=
  s.toList.all isBlank

end LedgerNet.Text
