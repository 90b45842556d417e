import CommitLanes.Pieces

/-! Byte strings as lists, with the blanks of ASCII.

Text that comes with no encoding yet is handled at this level: ids, separators and
padding are ASCII in every record, whatever the encoding of the names around them.
-/

set_option autoImplicit false

namespace CommitLanes

abbrev Bytes := List UInt8

namespace Bytes

def newline : UInt8 := 0x0A

/-- Space, tab, line feed, form feed and carriage return. The vertical tab is none. -/
def isBlank (b : UInt8) : Bool :=
  b == 0x20 || b == 0x09 || b == 0x0A || b == 0x0C || b == 0x0D

def isSpace (b : UInt8) : Bool :=
  isBlank b || b == 0x0B

def isNewline (b : UInt8) : Bool :=
  b == newline

def isDigit (b : UInt8) : Bool :=
  0x30 ≤ b && b ≤ 0x39

def isAscii (b : UInt8) : Bool :=
  b < 0x80

def toLower (b : UInt8) : UInt8 :=
  if 0x41 ≤ b && b ≤ 0x5A then b + 0x20 else b

def trimStart (bs : Bytes) : Bytes :=
  bs.dropWhile isBlank

def trimEnd (bs : Bytes) : Bytes :=
  (bs.reverse.dropWhile isBlank).reverse

def trim (bs : Bytes) : Bytes :=
  trimEnd (trimStart bs)

def allBlank (bs : Bytes) : Bool :=
  bs.all isBlank

def words (bs : Bytes) : List Bytes :=
  Pieces.runs isBlank bs

def ofString (text : String) : Bytes :=
  text.toUTF8.data.toList

def untilZero (bs : Bytes) : Bytes :=
  bs.takeWhile (· != 0)

def startsWith (bs start : Bytes) : Bool :=
  start.isPrefixOf bs

def endsWith (bs last : Bytes) : Bool :=
  last.isSuffixOf bs

def hasWithin (pattern : Bytes) : Bytes → Bool
  | [] => pattern.isEmpty
  | b :: rest => startsWith (b :: rest) pattern || hasWithin pattern rest

def after? (start bs : Bytes) : Option Bytes :=
  if startsWith bs start then some (bs.drop start.length) else none

end Bytes

end CommitLanes
