/-!
# Archives as bytes

The ZIP layout with entries that are stored as they are: each entry behind a header of its own, then a
directory of all entries, then the place of that directory. Numbers have their lowest byte first.
-/

namespace TaskBuilders.Files.Packed

/-- The `width` lowest bytes of a number, the lowest first. -/
def number : (width n : Nat) → List UInt8
  | 0, _ => []
  | width + 1, n => UInt8.ofNat (n % 256) :: number width (n / 256)

/-- The number that bytes stand for. -/
def readNumber : List UInt8 → Nat
  | [] => 0
  | b :: rest => b.toNat + 256 * readNumber rest

/-- One step of the checksum: a bit is shifted out, and the polynomial added if it is set. -/
def checksumBit (c : UInt32) : UInt32 := if c &&& 1 = 1 then (c >>> 1) ^^^ 0xEDB88320 else c >>> 1

/-- Takes a byte into the checksum. -/
def checksumByte (c : UInt32) (b : UInt8) : UInt32 :=
  (List.range 8).foldl (fun c _ => checksumBit c) (c ^^^ b.toUInt32)

/-- The cyclic redundancy check of bytes. -/
def checksum (bytes : List UInt8) : UInt32 := bytes.foldl checksumByte 0xFFFFFFFF ^^^ 0xFFFFFFFF

/-- The bytes of a text. -/
def textBytes (s : String) : List UInt8 := s.toUTF8.toList

/-- What the header of an entry and its line in the directory have in common: versions, sizes and the
checksum. Names are UTF-8, and the date is the first that can be written. -/
def commonHeader (name : String) (data : List UInt8) : List UInt8 :=
  number 2 20 ++ number 2 0x0800 ++ number 2 0 ++ number 2 0 ++ number 2 0x21 ++
    number 4 (checksum data).toNat ++ number 4 data.length ++ number 4 data.length ++
    number 2 (textBytes name).length ++ number 2 0

/-- An entry with its header. -/
def packEntry (name : String) (data : List UInt8) : List UInt8 :=
  number 4 0x04034b50 ++ commonHeader name data ++ textBytes name ++ data

/-- The line of an entry in the directory; `place` is where the entry begins. -/
def packLine (place : Nat) (name : String) (data : List UInt8) : List UInt8 :=
  number 4 0x02014b50 ++ number 2 20 ++ commonHeader name data ++ number 2 0 ++ number 2 0 ++
    number 2 0 ++ number 4 0 ++ number 4 place ++ textBytes name

/-- The entries and their lines, the first entry at `place`. -/
def packEntries : (place : Nat) → List (String × String) → List UInt8 × List UInt8
  | _, [] => ([], [])
  | place, (name, text) :: rest =>
    let data := textBytes text
    let entry := packEntry name data
    let (entries, lines) := packEntries (place + entry.length) rest
    (entry ++ entries, packLine place name data ++ lines)

/-- An archive as bytes. -/
def pack (entries : List (String × String)) : List UInt8 :=
  let (body, lines) := packEntries 0 entries
  body ++ lines ++ number 4 0x06054b50 ++ number 2 0 ++ number 2 0 ++ number 2 entries.length ++
    number 2 entries.length ++ number 4 lines.length ++ number 4 body.length ++ number 2 0

/-! ## Unpacking -/

/-- The number of `width` bytes at a place. -/
def numberAt (bytes : List UInt8) (place width : Nat) : Nat := readNumber ((bytes.drop place).take width)

/-- The text of `n` bytes at a place. -/
def textAt? (bytes : List UInt8) (place n : Nat) : Option String :=
  String.fromUTF8? ⟨((bytes.drop place).take n).toArray⟩

/-- The place of the end mark, looked for from the end. -/
def endMark? (bytes : List UInt8) : Option Nat :=
  ((List.range (bytes.length - 21)).reverse).find? fun i => numberAt bytes i 4 = 0x06054b50

/-- The text of an entry that is stored as it is. -/
def entryText? (bytes : List UInt8) (place size : Nat) : Option String :=
  if numberAt bytes place 4 = 0x04034b50 && numberAt bytes (place + 8) 2 = 0 then
    textAt? bytes (place + 30 + numberAt bytes (place + 26) 2 + numberAt bytes (place + 28) 2) size
  else none

/-- Reads `count` lines of the directory from a place on. -/
def readLines? (bytes : List UInt8) : (count place : Nat) → Option (List (String × String))
  | 0, _ => some []
  | count + 1, place => do
    if numberAt bytes place 4 ≠ 0x02014b50 then none
    let nameLength := numberAt bytes (place + 28) 2
    let name ← textAt? bytes (place + 46) nameLength
    let text ← entryText? bytes (numberAt bytes (place + 42) 4) (numberAt bytes (place + 24) 4)
    let next := place + 46 + nameLength + numberAt bytes (place + 30) 2 + numberAt bytes (place + 32) 2
    some ((name, text) :: (← readLines? bytes count next))

/-- The entries of an archive; nothing for other bytes and for compressed entries. -/
def unpack? (bytes : List UInt8) : Option (List (String × String)) := do
  let mark ← endMark? bytes
  readLines? bytes (numberAt bytes (mark + 10) 2) (numberAt bytes (mark + 16) 4)

end TaskBuilders.Files.Packed
