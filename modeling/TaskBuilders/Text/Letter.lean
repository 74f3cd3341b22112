import TaskBuilders.Text.CaseTable
import TaskBuilders.Text.LetterTable

/-!
# Letters, digits and case

Character classes and case mappings of Unicode. Case mappings take one character to one character,
whatever the language of the text. The ASCII half is decided without the tables.
-/

namespace TaskBuilders.Text

/-- Whether a character is below U+0080. -/
def isAscii (c : Char) : Bool := c.toNat < 0x80

/-- Letters of every script. -/
def isLetter (c : Char) : Bool :=
  if isAscii c then c.isAlpha else onRuns letterTable c

/-- Decimal digits of every script. -/
def isDigit (c : Char) : Bool :=
  if isAscii c then c.isDigit else onRuns digitTable c

/-- Upper-case letters. Title-case letters are none. -/
def isUpper (c : Char) : Bool :=
  if isAscii c then c.isUpper else onRuns upperTable c

/-- Lower-case letters. -/
def isLower (c : Char) : Bool :=
  if isAscii c then c.isLower else onRuns lowerTable c

/-- Letters and digits: what an identifier may go on with. -/
def isWordChar (c : Char) : Bool := isLetter c || isDigit c

/-- Moves a character by the first run that holds it. -/
def shiftCase (shifts : List CaseShift) (c : Char) : Char :=
  match shifts.find? (·.run.contains c.toNat) with
  | some s => Char.ofNat (c.toNat + s.distance).toNat
  | none => c

/-- The simple upper-case mapping. -/
def toUpper (c : Char) : Char :=
  if isAscii c then c.toUpper else shiftCase upperShifts c

/-- The simple lower-case mapping. -/
def toLower (c : Char) : Char :=
  if isAscii c then c.toLower else shiftCase lowerShifts c

/-- Lower-cases every character. -/
def lowercase (s : String) : String := String.ofList (s.toList.map toLower)

end TaskBuilders.Text
