import RequestGuard.Text.PrintTable
import RequestGuard.Text.Steps

/-!
# Quoted texts

A text between double quotes, as messages show it.  A quote, a backslash, a tab and the
two line ends follow a backslash, a null is `\0`, and any other character that does not
print alone is written with its number.
-/

namespace RequestGuard
namespace Text
namespace Quoted

/-- The characters that do not print alone. -/
def unprinted : CodeSet := CodeSet.ofWords PrintTable.unprinted

/-- The digits of a number to base sixteen, with small letters. -/
def hexDigits (n : Nat) : List Char :=
  (Nat.toDigits 16 n)

/-- A character within quotes. -/
def encodeChar (c : Char) : List Char :=
  if c = '"' then ['\\', '"']
  else if c = '\\' then ['\\', '\\']
  else if c = '\t' then ['\\', 't']
  else if c = '\n' then ['\\', 'n']
  else if c = '\r' then ['\\', 'r']
  else if c.toNat = 0 then ['\\', '0']
  else if unprinted.contains c.toNat then
    ['\\', 'u', '\x7b'] ++ hexDigits c.toNat ++ ['\x7d']
  else [c]

/-- A text between double quotes. -/
def encode (s : String) : String :=
  String.ofList ('"' :: s.toList.flatMap encodeChar ++ ['"'])

end Quoted
end Text
end RequestGuard
