import CacheFirst.Text.Concealed

/-!
# Quoted text

A quotation is text between double quotes in which every character can be seen. A double quote, a
backslash and the four common controls are written with a backslash; any other character that would
not show is written by its code point; the rest stand for themselves.

## Main definitions

* `Text.quotedChar`: one character inside a quotation.
* `Text.quoted`: a whole quotation.
-/

namespace CacheFirst.Text

/-- A code point in lower-case hexadecimal digits, as an escape. -/
def codePointEscape (c : Char) : List Char :=
  ['\\', 'u', '\x7b'] ++ Nat.toDigits 16 c.toNat ++ ['\x7d']

/-- One character inside a quotation. -/
def quotedChar (c : Char) : List Char :=
  if c = '\x00' then ['\\', '0']
  else if c = '\t' then ['\\', 't']
  else if c = '\n' then ['\\', 'n']
  else if c = '\r' then ['\\', 'r']
  else if c = '"' then ['\\', '"']
  else if c = '\\' then ['\\', '\\']
  else if isConcealed c then codePointEscape c
  else [c]

/-- Text between double quotes, every character of it visible. -/
def quoted (text : String) : String :=
  String.ofList ('"' :: text.toList.flatMap quotedChar ++ ['"'])

end CacheFirst.Text
