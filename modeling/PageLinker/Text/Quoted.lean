import PageLinker.Text.Quoted.Table

/-!
# Quoted text

A text is shown between quotation marks with every character visible.  Single marks are the
default; double marks are used when the text holds single marks and no double ones.
-/

namespace PageLinker

namespace Quoted

/-- The character can be shown as itself. -/
def isPrintable (c : Char) : Bool :=
  if c.toNat < 128 then 0x20 ≤ c.toNat && c.toNat < 0x7F else !unprintableRanges.holds c

/-- Lower-case hexadecimal digits, filled up with zeros to the given width. -/
def hexDigits (width : Nat) (number : Nat) : List Char :=
  (Nat.toDigits 16 number).leftpad width '0'

/-- A character by its number, in the shortest of the three widths that fits. -/
def numbered (c : Char) : List Char :=
  if c.toNat < 0x100 then '\\' :: 'x' :: hexDigits 2 c.toNat
  else if c.toNat < 0x10000 then '\\' :: 'u' :: hexDigits 4 c.toNat
  else '\\' :: 'U' :: hexDigits 8 c.toNat

/-- The shown form of one character between the given marks. -/
def shown (mark : Char) (c : Char) : List Char :=
  if c == mark || c == '\\' then ['\\', c]
  else if c == '\n' then ['\\', 'n']
  else if c == '\r' then ['\\', 'r']
  else if c == '\t' then ['\\', 't']
  else if isPrintable c then [c]
  else numbered c

/-- The quotation mark that a text is put between. -/
def markFor (text : List Char) : Char :=
  if text.contains '\'' && !text.contains '"' then '"' else '\''

/-- The quoted form of a sequence of characters. -/
def quotedChars (text : List Char) : List Char :=
  let mark := markFor text
  mark :: (text.flatMap (shown mark) ++ [mark])

def quoted (text : String) : String :=
  String.ofList (quotedChars text.toList)

end Quoted

end PageLinker
