import DisplayInventory.Text.Combining
import DisplayInventory.Text.Layout
import DisplayInventory.Text.Hex
import DisplayInventory.Text.Printable

/-!
# Quoted text

Text between double quotes, on one line and readable whatever it holds.  The quote and the
backslash are escaped by a backslash; tab, newline, carriage return and the zero character have
short names; every other character that is not printable, or that would combine with its
neighbour, is written by its code point.
-/

namespace DisplayInventory.Text

def quotedChar (c : Char) : String :=
  if c = '"' then "\\\""
  else if c = '\\' then "\\\\"
  else if c = '\t' then "\\t"
  else if c = '\n' then "\\n"
  else if c = '\r' then "\\r"
  else if c.toNat = 0 then "\\0"
  else if isCombining c || !isPrintable c then
    "\\u\x7b" ++ Hex.lower c.toNat ++ "\x7d"
  else String.singleton c

def quoted (text : String) : String :=
  "\"" ++ String.join (text.toList.map quotedChar) ++ "\""

def quotedList (texts : List String) : String :=
  "[" ++ String.intercalate ", " (texts.map quoted) ++ "]"

end DisplayInventory.Text
