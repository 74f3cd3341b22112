/-!
# White space

The characters that trimming removes: the ASCII blanks, next line, the no-break space and the
space, line and paragraph separators.
-/

namespace TaskBuilders.Text

/-- White space of Unicode. -/
def isBlank (c : Char) : Bool :=
  let n := c.toNat
  (0x09 ≤ n && n ≤ 0x0D) || n == 0x20 || n == 0x85 || n == 0xA0 || n == 0x1680 ||
    (0x2000 ≤ n && n ≤ 0x200A) || n == 0x2028 || n == 0x2029 || n == 0x202F || n == 0x205F ||
    n == 0x3000

/-- Drops what satisfies `p` from the end of a list. -/
def dropTrailingWhile (p : Char → Bool) (cs : List Char) : List Char :=
  (cs.reverse.dropWhile p).reverse

/-- Drops what satisfies `p` from both ends of a text. -/
def trimWhile (p : Char → Bool) (s : String) : String :=
  String.ofList (dropTrailingWhile p (s.toList.dropWhile p))

/-- Drops white space from both ends. -/
def trim (s : String) : String := trimWhile isBlank s

/-- Drops white space from the end. -/
def trimRight (s : String) : String := String.ofList (dropTrailingWhile isBlank s.toList)

/-- Whether a text holds nothing but white space. -/
def isBlankText (s : String) : Bool := s.toList.all isBlank

end TaskBuilders.Text
