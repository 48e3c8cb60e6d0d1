import CacheFirst.Json.Basic

/-!
# Writing JSON

Values are written without blanks. In a string only what must be escaped is: the quote, the
backslash and the control characters.

## Main definitions

* `Json.Value.render`: the text of a value.
-/

namespace CacheFirst.Json

/-- Two hexadecimal digits, in lower case. -/
def hexDigits2 (n : Nat) : List Char :=
  [Nat.digitChar (n / 16), Nat.digitChar (n % 16)]

/-- One character inside a string. -/
def stringChar (c : Char) : List Char :=
  if c = '"' then ['\\', '"']
  else if c = '\\' then ['\\', '\\']
  else if c = '\x08' then ['\\', 'b']
  else if c = '\x0c' then ['\\', 'f']
  else if c = '\n' then ['\\', 'n']
  else if c = '\r' then ['\\', 'r']
  else if c = '\t' then ['\\', 't']
  else if c.toNat < 0x20 then ['\\', 'u', '0', '0'] ++ hexDigits2 c.toNat
  else [c]

/-- A string with its quotes. -/
def renderString (text : String) : List Char :=
  '"' :: text.toList.flatMap stringChar ++ ['"']

/-- A string with its quotes; one that has no text is written without characters. -/
def renderText (text : Option String) : List Char :=
  renderString (text.getD "")

/-- An integer in decimal digits, with a minus before them if it is negative. -/
def renderInt : Int → List Char
  | .ofNat n => Nat.toDigits 10 n
  | .negSucc n => '-' :: Nat.toDigits 10 (n + 1)

mutual

/-- The text of a value. -/
def Value.render : Value → List Char
  | .null => ['n', 'u', 'l', 'l']
  | .bool true => ['t', 'r', 'u', 'e']
  | .bool false => ['f', 'a', 'l', 's', 'e']
  | .int value => renderInt value
  | .decimal literal => literal
  | .str text => renderText text
  | .arr [] => ['[', ']']
  | .arr (first :: others) => '[' :: first.render ++ renderElements others
  | .obj [] => ['\x7b', '\x7d']
  | .obj ((name, first) :: others) =>
    '\x7b' :: renderText name ++ ':' :: first.render ++ renderMembers others

/-- Elements after the first, and the closing bracket. -/
def renderElements : List Value → List Char
  | [] => [']']
  | element :: others => ',' :: element.render ++ renderElements others

/-- Members after the first, and the closing brace. -/
def renderMembers : List (Option String × Value) → List Char
  | [] => ['\x7d']
  | (name, value) :: others => ',' :: renderText name ++ ':' :: value.render ++ renderMembers others

end

end CacheFirst.Json
