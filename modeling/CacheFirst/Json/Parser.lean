import CacheFirst.Json.Basic

/-!
# Reading JSON

The text must be one value with blanks around it and nothing else: no comments, no trailing commas,
no leading zeros, no raw control characters in strings. Nesting may be of any depth; the number of
characters bounds the recursion.

## Main definitions

* `Json.scanString`: a string after its opening quote.
* `Json.scanNumber`: a number.
* `Json.parse`: a whole text.
-/

namespace CacheFirst.Json

/-- The characters allowed between tokens. -/
def isBlank (c : Char) : Bool :=
  c == ' ' || c == '\t' || c == '\n' || c == '\r'

/-- Text without the blanks at its start. -/
def skipBlanks (text : List Char) : List Char :=
  text.dropWhile isBlank

/-! ### Strings -/

/-- What a string is made of: characters, and halves of surrogate pairs named by escapes. -/
inductive StringPart
  | char (c : Char)
  /-- The first half of a pair, by its ten bits. -/
  | high (bits : Nat)
  /-- The second half of a pair, by its ten bits. -/
  | low (bits : Nat)

/-- The value of a hexadecimal digit in either case. -/
def hexValue? (c : Char) : Option Nat :=
  if '0' ≤ c ∧ c ≤ '9' then some (c.toNat - '0'.toNat)
  else if 'a' ≤ c ∧ c ≤ 'f' then some (c.toNat - 'a'.toNat + 10)
  else if 'A' ≤ c ∧ c ≤ 'F' then some (c.toNat - 'A'.toNat + 10)
  else none

/-- The number named by four hexadecimal digits. -/
def hexValue4? (a b c d : Char) : Option Nat := do
  return 4096 * (← hexValue? a) + 256 * (← hexValue? b) + 16 * (← hexValue? c) + (← hexValue? d)

/-- What the escape of a 16-bit unit stands for. -/
def StringPart.ofUnit (unit : Nat) : StringPart :=
  if 0xD800 ≤ unit ∧ unit < 0xDC00 then .high (unit - 0xD800)
  else if 0xDC00 ≤ unit ∧ unit < 0xE000 then .low (unit - 0xDC00)
  else .char (Char.ofNat unit)

/-- The character named by a backslash and a letter. -/
def shortEscape? (letter : Char) : Option Char :=
  if letter = '"' ∨ letter = '\\' ∨ letter = '/' then some letter
  else if letter = 'b' then some '\x08'
  else if letter = 'f' then some '\x0c'
  else if letter = 'n' then some '\n'
  else if letter = 'r' then some '\r'
  else if letter = 't' then some '\t'
  else none

/-- The parts of a string up to its closing quote, and the text after that. -/
def scanParts : List Char → Option (List StringPart × List Char)
  | '"' :: rest => some ([], rest)
  | '\\' :: 'u' :: a :: b :: c :: d :: rest => do
    let unit ← hexValue4? a b c d
    let (parts, after) ← scanParts rest
    return (.ofUnit unit :: parts, after)
  -- a `u` that comes here is not followed by four more characters, and is no short escape
  | '\\' :: letter :: rest => do
    let c ← shortEscape? letter
    let (parts, after) ← scanParts rest
    return (.char c :: parts, after)
  | c :: rest =>
    if c = '\\' ∨ c.toNat < 0x20 then none
    else (scanParts rest).map fun (parts, after) => (.char c :: parts, after)
  | [] => none

/-- The characters of a string. There are none if half a pair stands alone. -/
def joinParts : List StringPart → Option (List Char)
  | [] => some []
  | .char c :: rest => (joinParts rest).map (c :: ·)
  | .high first :: .low second :: rest =>
    (joinParts rest).map (Char.ofNat (0x10000 + 1024 * first + second) :: ·)
  | .high _ :: _ => none
  | .low _ :: _ => none

/-- A string after its opening quote, and the text after its closing one. -/
def scanString (text : List Char) : Option (Option String × List Char) := do
  let (parts, rest) ← scanParts text
  return ((joinParts parts).map String.ofList, rest)

/-! ### Numbers -/

/-- A decimal digit. -/
def isDigit (c : Char) : Bool :=
  '0' ≤ c && c ≤ '9'

/-- The number written by decimal digits. -/
def readDigits (digits : List Char) : Nat :=
  digits.foldl (fun value digit => 10 * value + (digit.toNat - '0'.toNat)) 0

/-- One or more digits and the text after them. -/
def scanDigits (text : List Char) : Option (List Char × List Char) :=
  let digits := text.takeWhile isDigit
  if digits.isEmpty then none else some (digits, text.dropWhile isDigit)

/-- The fraction of a number with its point, or nothing. -/
def scanFraction : List Char → Option (List Char × List Char)
  | '.' :: rest => (scanDigits rest).map fun (digits, after) => ('.' :: digits, after)
  | text => some ([], text)

/-- The sign of an exponent, or nothing. -/
def scanSign : List Char → List Char × List Char
  | '+' :: rest => (['+'], rest)
  | '-' :: rest => (['-'], rest)
  | text => ([], text)

/-- The exponent of a number with its mark, or nothing. -/
def scanExponent : List Char → Option (List Char × List Char)
  | c :: rest =>
    if c = 'e' ∨ c = 'E' then
      let (sign, rest) := scanSign rest
      (scanDigits rest).map fun (digits, after) => (c :: sign ++ digits, after)
    else some ([], c :: rest)
  | [] => some ([], [])

/-- A number without its sign. -/
def scanUnsigned (negative : Bool) (text : List Char) : Option (Value × List Char) := do
  let (digits, rest) ← scanDigits text
  -- no leading zeros
  if digits.head? = some '0' ∧ digits ≠ ['0'] then none
  else
    let (fraction, rest) ← scanFraction rest
    let (exponent, rest) ← scanExponent rest
    let literal := digits ++ fraction ++ exponent
    let value := (readDigits digits : Int)
    if negative then
      -- zero has no sign among the integers, so `-0` is not one
      if literal = digits ∧ digits ≠ ['0'] then return (.int (-value), rest)
      else return (.decimal ('-' :: literal), rest)
    else if literal = digits then return (.int value, rest)
    else return (.decimal literal, rest)

/-- A number and the text after it. -/
def scanNumber : List Char → Option (Value × List Char)
  | '-' :: rest => scanUnsigned true rest
  | text => scanUnsigned false text

/-! ### Values -/

mutual

/-- A value and the text after it, with at most `fuel` nested steps. -/
def scanValue : (fuel : Nat) → List Char → Option (Value × List Char)
  | 0, _ => none
  | fuel + 1, text =>
    match skipBlanks text with
    | 'n' :: 'u' :: 'l' :: 'l' :: rest => some (.null, rest)
    | 't' :: 'r' :: 'u' :: 'e' :: rest => some (.bool true, rest)
    | 'f' :: 'a' :: 'l' :: 's' :: 'e' :: rest => some (.bool false, rest)
    | '"' :: rest => (scanString rest).map fun (text, after) => (.str text, after)
    | '[' :: rest =>
      match skipBlanks rest with
      | ']' :: after => some (.arr [], after)
      | rest => (scanElements fuel rest).map fun (elements, after) => (.arr elements, after)
    | '\x7b' :: rest =>
      match skipBlanks rest with
      | '\x7d' :: after => some (.obj [], after)
      | rest => (scanMembers fuel rest).map fun (members, after) => (.obj members, after)
    | rest => scanNumber rest

/-- One or more elements and the closing bracket. -/
def scanElements : (fuel : Nat) → List Char → Option (List Value × List Char)
  | 0, _ => none
  | fuel + 1, text => do
    let (element, rest) ← scanValue fuel text
    match skipBlanks rest with
    | ',' :: rest => do
      let (elements, after) ← scanElements fuel rest
      return (element :: elements, after)
    | ']' :: after => return ([element], after)
    | _ => none

/-- One or more members and the closing brace. -/
def scanMembers : (fuel : Nat) → List Char → Option (List (Option String × Value) × List Char)
  | 0, _ => none
  | fuel + 1, text =>
    match skipBlanks text with
    | '"' :: rest => do
      let (name, rest) ← scanString rest
      match skipBlanks rest with
      | ':' :: rest => do
        let (value, rest) ← scanValue fuel rest
        match skipBlanks rest with
        | ',' :: rest => do
          let (members, after) ← scanMembers fuel rest
          return ((name, value) :: members, after)
        | '\x7d' :: after => return ([(name, value)], after)
        | _ => none
      | _ => none
    | _ => none

end

/-- The value that a text is, if it is one with nothing but blanks around it. -/
def parse (text : List Char) : Option Value :=
  match scanValue (text.length + 1) text with
  | some (value, rest) => if (skipBlanks rest).isEmpty then some value else none
  | none => none

end CacheFirst.Json
