import DataMapper.Text.Quoted.Ranges

/-! # Quoted text

A quoted text stands between double quotes. Quotes, backslashes and the usual
controls have short escapes; every other character that shows no glyph of its
own is written by its code point.
-/
namespace DataMapper.Text

/-- Control, format, unassigned, private and separator characters other than the space, and
fillers. -/
def isHidden (c : Char) : Bool :=
  if c.toNat < 0x80 then c.toNat < 0x20 || c.toNat == 0x7F
  else hiddenRanges.any (·.contains c) || fillerRanges.any (·.contains c)

def isExtending (c : Char) : Bool :=
  if c.toNat < 0x80 then false else extendingRanges.any (·.contains c)

/-- A character as it stands in a quoted text. -/
def quoteChar (c : Char) : List Char :=
  if c = '"' then ['\\', '"']
  else if c = '\\' then ['\\', '\\']
  else if c = '\n' then ['\\', 'n']
  else if c = '\r' then ['\\', 'r']
  else if c = '\t' then ['\\', 't']
  else if c = '\x00' then ['\\', '0']
  else if isExtending c || isHidden c then
    ['\\', 'u', '\x7b'] ++ Nat.toDigits 16 c.toNat ++ ['\x7d']
  else [c]

def quote (s : String) : String :=
  String.ofList (['"'] ++ s.toList.flatMap quoteChar ++ ['"'])

end DataMapper.Text
