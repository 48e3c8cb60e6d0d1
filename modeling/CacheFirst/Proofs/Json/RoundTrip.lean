import CacheFirst.Json.Parser
import CacheFirst.Json.Printer

/-!
# JSON that is written is read back

A value is read back from its text, if it has no numbers but integers and all its strings have text.
Any other number may have been written in many ways, and is no number if its literal is none.

The scanner takes a value off the start of a text. What follows the value, in a text that was written,
is a comma, a closing bracket or nothing, so a number ends where its digits do. The scanner nests at
most as deep as there are characters in the value, so the length of a text is fuel enough.

## Main definitions

* `Json.Value.Legible`: values that their text tells in full.
* `Json.Ends`: what may follow a value.
* `Json.Value.Scans`: a value is scanned off any text that starts with its own.

## Main results

* `Json.scanParts_stringChar`: a character in a string is read back.
* `Json.scanUnsigned_toDigits`: a number is read back.
* `Json.Value.Legible.scans`: a legible value is scanned off, whatever follows.
* `Json.parse_render`: a legible value is read back from its text.
-/

namespace CacheFirst.Json

/-! ### Strings -/

section Strings

variable {c : Char}

/-- A short escape is scanned as the character that it names. -/
theorem scanParts_short {letter : Char} (named : shortEscape? letter = some c) (tail : List Char) :
    scanParts ('\\' :: letter :: tail) =
      (scanParts tail).map fun (parts, after) => (.char c :: parts, after) := by
  rw [scanParts]
  · rw [named]
    cases scanParts tail <;> rfl
  · -- `u` is no short escape
    rintro _ _ _ _ _ rfl
    cases named

theorem scanParts_unit {a b c d : Char} {unit : Nat} (hex : hexValue4? a b c d = some unit)
    (tail : List Char) : scanParts ('\\' :: 'u' :: a :: b :: c :: d :: tail) =
      (scanParts tail).map fun (parts, after) => (.ofUnit unit :: parts, after) := by
  rw [scanParts, hex]
  cases scanParts tail <;> rfl

/-- A character that is not escaped is scanned as itself. -/
theorem scanParts_plain (quote : c ≠ '"') (backslash : c ≠ '\\') (printed : ¬c.toNat < 0x20)
    (tail : List Char) : scanParts (c :: tail) =
      (scanParts tail).map fun (parts, after) => (.char c :: parts, after) := by
  rw [scanParts]
  · rw [if_neg (not_or.mpr ⟨backslash, printed⟩)]
  · exact quote
  · intro _ _ _ _ _ same
    exact absurd same backslash
  · intro _ _ same
    exact absurd same backslash

/-- A character in a string is escaped by a letter or by its number, or is written as it is. -/
theorem stringChar_cases (c : Char) :
    (∃ letter, stringChar c = ['\\', letter] ∧ shortEscape? letter = some c) ∨
      c.toNat < 0x20 ∧ stringChar c = ['\\', 'u', '0', '0'] ++ hexDigits2 c.toNat ∨
      c ≠ '"' ∧ c ≠ '\\' ∧ ¬c.toNat < 0x20 ∧ stringChar c = [c] := by
  by_cases short : c ∈ ['"', '\\', '\x08', '\x0c', '\n', '\r', '\t']
  · simp only [List.mem_cons, List.not_mem_nil, or_false] at short
    rcases short with rfl | rfl | rfl | rfl | rfl | rfl | rfl
    all_goals exact Or.inl ⟨_, rfl, rfl⟩
  · simp only [List.mem_cons, List.not_mem_nil, or_false, not_or] at short
    right
    by_cases control : c.toNat < 0x20
    · exact Or.inl ⟨control, by simp [stringChar, short, control]⟩
    · exact Or.inr ⟨short.1, short.2.1, control, by simp [stringChar, short, control]⟩

theorem hexValue4?_hexDigits2 {n : Nat} (control : n < 0x20) :
    hexValue4? '0' '0' (Nat.digitChar (n / 16)) (Nat.digitChar (n % 16)) = some n := by
  have all : ∀ n : Fin 0x20,
      hexValue4? '0' '0' (Nat.digitChar (n / 16)) (Nat.digitChar (n % 16)) = some n.val := by
    decide
  exact all ⟨n, control⟩

/-- A control character is no half of a pair. -/
theorem ofUnit_toNat (control : c.toNat < 0x20) : StringPart.ofUnit c.toNat = .char c := by
  rw [StringPart.ofUnit, if_neg (by omega), if_neg (by omega), Char.ofNat_toNat]

/-- A character in a string is scanned as itself, however it is written. -/
theorem scanParts_stringChar (c : Char) (tail : List Char) :
    scanParts (stringChar c ++ tail) =
      (scanParts tail).map fun (parts, after) => (.char c :: parts, after) := by
  rcases stringChar_cases c with ⟨letter, written, named⟩ | ⟨control, written⟩ | plain
  · rw [written]
    exact scanParts_short named tail
  · rw [written, ← ofUnit_toNat control]
    exact scanParts_unit (hexValue4?_hexDigits2 control) tail
  · obtain ⟨quote, backslash, printed, written⟩ := plain
    rw [written]
    exact scanParts_plain quote backslash printed tail

theorem scanParts_flatMap (text tail : List Char) :
    scanParts (text.flatMap stringChar ++ '"' :: tail) = some (text.map .char, tail) := by
  induction text with
  | nil => rfl
  | cons c others step =>
    rw [List.flatMap_cons, List.append_assoc, scanParts_stringChar, step]
    rfl

theorem joinParts_map (text : List Char) : joinParts (text.map .char) = some text := by
  induction text with
  | nil => rfl
  | cons c others step =>
    rw [List.map_cons, joinParts, step]
    rfl

theorem scanString_flatMap (text : String) (tail : List Char) :
    scanString (text.toList.flatMap stringChar ++ '"' :: tail) = some (some text, tail) := by
  rw [scanString, scanParts_flatMap]
  show some ((joinParts (text.toList.map .char)).map String.ofList, tail) = _
  rw [joinParts_map, Option.map_some, String.ofList_toList]

theorem renderText_append (text : String) (tail : List Char) :
    renderText (some text) ++ tail = '"' :: (text.toList.flatMap stringChar ++ '"' :: tail) := by
  simp [renderText, renderString]

end Strings

/-! ### Numbers -/

/-- What may follow a value in a text that was written: a comma, a closing bracket or nothing. -/
def Ends (rest : List Char) : Prop :=
  ∀ c ∈ rest.head?, c = ',' ∨ c = ']' ∨ c = '\x7d'

section Numbers

variable {rest : List Char}

theorem readDigits_toDigits (n : Nat) : readDigits (Nat.toDigits 10 n) = n :=
  Nat.ofDigitChars_toDigits (by decide) (by decide)

theorem isDigit_of_mem_toDigits {n : Nat} {c : Char} (member : c ∈ Nat.toDigits 10 n) :
    isDigit c = true :=
  Nat.isDigit_of_mem_toDigits (by decide) (by decide) member

theorem exists_toDigits_eq (n : Nat) :
    ∃ c others, Nat.toDigits 10 n = c :: others ∧ isDigit c = true := by
  obtain ⟨c, others, written⟩ :=
    List.exists_cons_of_ne_nil (Nat.toDigits_ne_nil (n := n) (b := 10))
  exact ⟨c, others, written, isDigit_of_mem_toDigits (n := n) (by simp [written])⟩

/-- Only zero is written with a zero in front. -/
theorem toDigits_of_head? {n : Nat} (zero : (Nat.toDigits 10 n).head? = some '0') :
    Nat.toDigits 10 n = ['0'] := by
  -- by induction on the number without its last digit
  induction n using Nat.strongRecOn with
  | ind n step =>
    rw [Nat.toDigits_eq_if (by decide)] at zero ⊢
    by_cases single : n < 10
    · rw [if_pos single] at zero ⊢
      rw [Option.some.inj zero]
    · rw [if_neg single] at zero
      -- the digits before the last would be those of zero
      have front : (Nat.toDigits 10 (n / 10)).head? = some '0' := by
        obtain ⟨c, others, written, -⟩ := exists_toDigits_eq (n / 10)
        rw [written] at zero ⊢
        exact zero
      have none := readDigits_toDigits (n / 10)
      rw [step (n / 10) (by omega) front] at none
      have : n / 10 = 0 := none.symm
      omega

theorem Ends.not_digit (ends : Ends rest) : ∀ c ∈ rest.head?, isDigit c = false := by
  intro c first
  rcases ends c first with rfl | rfl | rfl <;> decide

/-- Digits are scanned up to what follows the number. -/
theorem scanDigits_append {digits : List Char} (digit : ∀ c ∈ digits, isDigit c = true)
    (written : digits ≠ []) (ends : Ends rest) : scanDigits (digits ++ rest) = some (digits, rest) := by
  have taken : (digits ++ rest).takeWhile isDigit = digits := by
    rw [List.takeWhile_append_of_pos digit]
    cases rest with
    | nil => simp
    | cons c others => simp [ends.not_digit c rfl]
  have left : (digits ++ rest).dropWhile isDigit = rest := by
    rw [List.dropWhile_append_of_pos digit]
    cases rest with
    | nil => rfl
    | cons c others => simp [ends.not_digit c rfl]
  rw [scanDigits, taken, left]
  simp [written]

theorem scanFraction_of_ends (ends : Ends rest) : scanFraction rest = some ([], rest) := by
  cases rest with
  | nil => rfl
  | cons c others => rcases ends c rfl with rfl | rfl | rfl <;> rfl

theorem scanExponent_of_ends (ends : Ends rest) : scanExponent rest = some ([], rest) := by
  cases rest with
  | nil => rfl
  | cons c others => rcases ends c rfl with rfl | rfl | rfl <;> rfl

/-- A number is scanned up to its last digit. There is no integer with a minus before a zero. -/
theorem scanUnsigned_toDigits (n : Nat) (negative : Bool) (signed : negative = true → n ≠ 0)
    (ends : Ends rest) : scanUnsigned negative (Nat.toDigits 10 n ++ rest) =
      some (.int (if negative then -n else n), rest) := by
  have digits := scanDigits_append (fun _ => isDigit_of_mem_toDigits (n := n)) Nat.toDigits_ne_nil ends
  have proper : ¬((Nat.toDigits 10 n).head? = some '0' ∧ Nat.toDigits 10 n ≠ ['0']) :=
    fun ⟨zero, more⟩ => more (toDigits_of_head? zero)
  have value := readDigits_toDigits n
  -- there is neither a fraction nor an exponent, so the literal is nothing but digits
  rw [scanUnsigned, digits]
  simp only [Option.bind_eq_bind, Option.bind_some, if_neg proper, scanFraction_of_ends ends,
    scanExponent_of_ends ends, List.append_nil, value]
  cases negative with
  | false => rfl
  | true =>
    have nonzero : Nat.toDigits 10 n ≠ ['0'] := by
      intro zero
      rw [zero] at value
      exact signed rfl value.symm
    simp [nonzero]

end Numbers

/-! ### Values -/

namespace Value

/-- A value that its text tells in full: numbers are integers, and all strings have text. -/
inductive Legible : Value → Prop
  | null : Legible .null
  | bool (value : Bool) : Legible (.bool value)
  | int (value : Int) : Legible (.int value)
  | str (text : String) : Legible (.ofString text)
  | arr {elements : List Value} (each : ∀ element ∈ elements, Legible element) :
    Legible (.arr elements)
  | obj {members : List (Option String × Value)} (named : ∀ member ∈ members, member.1.isSome = true)
    (each : ∀ member ∈ members, Legible member.2) : Legible (.obj members)

/-- A value is scanned off any text that starts with its own, with as much fuel as it has characters. -/
def Scans (value : Value) : Prop :=
  ∀ fuel rest, Ends rest → value.render.length ≤ fuel →
    scanValue fuel (value.render ++ rest) = some (value, rest)

end Value

section Values

variable {value : Value} {fuel : Nat} {rest : List Char}

theorem skipBlanks_cons {c : Char} (tail : List Char) (visible : isBlank c = false) :
    skipBlanks (c :: tail) = c :: tail := by
  simp [skipBlanks, visible]

theorem numeric_ne {c other : Char} (number : isDigit c = true ∨ c = '-')
    (letter : isDigit other = false ∧ other ≠ '-') : c ≠ other := by
  rintro rfl
  rcases number with digit | minus
  · rw [letter.1] at digit
    cases digit
  · exact letter.2 minus

theorem visible_of_numeric {c : Char} (number : isDigit c = true ∨ c = '-') : isBlank c = false := by
  simp only [isBlank, Bool.or_eq_false_iff, beq_eq_false_iff_ne]
  exact ⟨⟨⟨numeric_ne number (by decide), numeric_ne number (by decide)⟩,
    numeric_ne number (by decide)⟩, numeric_ne number (by decide)⟩

theorem scanValue_number {c : Char} {tail : List Char} (number : isDigit c = true ∨ c = '-') :
    scanValue (fuel + 1) (c :: tail) = scanNumber (c :: tail) := by
  rw [scanValue, skipBlanks_cons tail (visible_of_numeric number)]
  split
  case h_7 => rfl
  -- everything else starts with another character
  all_goals
    next same => exact absurd (List.cons.inj same).1 (numeric_ne number (by decide))

theorem exists_renderInt_eq (n : Int) :
    ∃ c tail, renderInt n = c :: tail ∧ (isDigit c = true ∨ c = '-') := by
  cases n with
  | ofNat n =>
    obtain ⟨c, others, written, digit⟩ := exists_toDigits_eq n
    exact ⟨c, others, written, Or.inl digit⟩
  | negSucc n => exact ⟨'-', _, rfl, Or.inr rfl⟩

/-- An integer is scanned with its sign. -/
theorem scanNumber_renderInt (n : Int) (ends : Ends rest) :
    scanNumber (renderInt n ++ rest) = some (.int n, rest) := by
  cases n with
  | ofNat n =>
    have scanned := scanUnsigned_toDigits n false nofun ends
    obtain ⟨c, others, written, digit⟩ := exists_toDigits_eq n
    rw [renderInt, written, List.cons_append, scanNumber, ← List.cons_append, ← written]
    · exact scanned
    · intro _ same
      -- the minus is no digit
      rw [(List.cons.inj same).1] at digit
      cases digit
  | negSucc n =>
    exact scanUnsigned_toDigits (n + 1) true (fun _ => Nat.succ_ne_zero n) ends

/-- The text of a legible value starts neither with a blank nor with a closing bracket. -/
theorem Value.Legible.exists_render_eq (legible : value.Legible) :
    ∃ c tail, value.render = c :: tail ∧ isBlank c = false ∧ c ≠ ']' := by
  cases legible with
  | null => exact ⟨'n', _, by rw [Value.render], by decide, by decide⟩
  | bool value =>
    cases value
    · exact ⟨'f', _, by rw [Value.render], by decide, by decide⟩
    · exact ⟨'t', _, by rw [Value.render], by decide, by decide⟩
  | int n =>
    obtain ⟨c, tail, written, number⟩ := exists_renderInt_eq n
    exact ⟨c, tail, by rw [Value.render, written], visible_of_numeric number,
      numeric_ne number (by decide)⟩
  | str text => exact ⟨'"', _, by rw [Value.ofString, Value.render]; rfl, by decide, by decide⟩
  | @arr elements each =>
    cases elements
    · exact ⟨'[', _, by rw [Value.render], by decide, by decide⟩
    · exact ⟨'[', _, by rw [Value.render]; rfl, by decide, by decide⟩
  | @obj members named each =>
    rcases members with _ | ⟨⟨name, first⟩, others⟩
    · exact ⟨'\x7b', _, by rw [Value.render], by decide, by decide⟩
    · exact ⟨'\x7b', _, by rw [Value.render]; rfl, by decide, by decide⟩

theorem ends_renderElements (others : List Value) (rest : List Char) :
    Ends (renderElements others ++ rest) := by
  cases others with
  | nil => simp [Ends, renderElements]
  | cons element others => simp [Ends, renderElements]

theorem ends_renderMembers (others : List (Option String × Value)) (rest : List Char) :
    Ends (renderMembers others ++ rest) := by
  rcases others with _ | ⟨⟨name, value⟩, others⟩
  · simp [Ends, renderMembers]
  · simp [Ends, renderMembers]

/-- Elements are scanned one by one up to the closing bracket. -/
theorem scanElements_render (first : Value) (others : List Value) (fuel : Nat) (rest : List Char)
    (each : ∀ element ∈ first :: others, element.Scans)
    (enough : (first.render ++ renderElements others).length ≤ fuel) :
    scanElements fuel (first.render ++ renderElements others ++ rest) =
      some (first :: others, rest) := by
  rw [List.length_append] at enough
  induction others generalizing first fuel with
  | nil =>
    rw [renderElements, List.length_singleton] at enough
    obtain ⟨fuel, rfl⟩ : ∃ less, fuel = less + 1 := ⟨fuel - 1, by omega⟩
    have scanned := each first List.mem_cons_self fuel _ (ends_renderElements [] rest) (by omega)
    rw [List.append_assoc, scanElements, scanned]
    rfl
  | cons second others step =>
    rw [renderElements, List.cons_append, List.length_cons, List.length_append] at enough
    obtain ⟨fuel, rfl⟩ : ∃ less, fuel = less + 1 := ⟨fuel - 1, by omega⟩
    have scanned := each first List.mem_cons_self fuel _
      (ends_renderElements (second :: others) rest) (by omega)
    have further := step second fuel
      (fun element member => each element (List.mem_cons_of_mem _ member)) (by omega)
    rw [List.append_assoc, scanElements, scanned]
    show (scanElements fuel (second.render ++ renderElements others ++ rest)).bind _ = _
    rw [further]
    rfl

theorem exists_name {name : Option String} {first : Value} {others : List (Option String × Value)}
    (named : ∀ member ∈ (name, first) :: others, member.1.isSome = true) :
    (∃ text, name = some text) ∧ ∀ member ∈ others, member.1.isSome = true := by
  rwa [List.forall_mem_cons, Option.isSome_iff_exists] at named

/-- The name of a member is scanned up to its value. -/
theorem scanMembers_name (name : String) (tail : List Char) :
    scanMembers (fuel + 1) (renderText (some name) ++ ':' :: tail) = (do
      let (value, rest) ← scanValue fuel tail
      match skipBlanks rest with
      | ',' :: rest => do
        let (members, after) ← scanMembers fuel rest
        return ((some name, value) :: members, after)
      | '\x7d' :: after => return ([(some name, value)], after)
      | _ => none) := by
  rw [renderText_append, scanMembers, skipBlanks_cons _ (by decide)]
  simp only [scanString_flatMap, Option.bind_eq_bind, Option.bind_some]
  rfl

/-- Members are scanned one by one up to the closing brace. -/
theorem scanMembers_render (name : String) (first : Value) (others : List (Option String × Value))
    (fuel : Nat) (rest : List Char) (named : ∀ member ∈ others, member.1.isSome = true)
    (each : ∀ member ∈ (some name, first) :: others, member.2.Scans)
    (enough : first.render.length + (renderMembers others).length ≤ fuel) :
    scanMembers fuel
        (renderText (some name) ++ ':' :: (first.render ++ (renderMembers others ++ rest))) =
      some ((some name, first) :: others, rest) := by
  induction others generalizing name first fuel with
  | nil =>
    rw [renderMembers, List.length_singleton] at enough
    obtain ⟨fuel, rfl⟩ : ∃ less, fuel = less + 1 := ⟨fuel - 1, by omega⟩
    have scans : first.Scans := each (some name, first) List.mem_cons_self
    have scanned := scans fuel _ (ends_renderMembers [] rest) (by omega)
    rw [scanMembers_name, scanned]
    rfl
  | cons member others step =>
    obtain ⟨name', second⟩ := member
    obtain ⟨⟨other, rfl⟩, named'⟩ := exists_name named
    rw [renderMembers, List.length_append, List.length_append, List.length_cons,
      List.length_cons] at enough
    obtain ⟨fuel, rfl⟩ : ∃ less, fuel = less + 1 := ⟨fuel - 1, by omega⟩
    have scans : first.Scans := each (some name, first) List.mem_cons_self
    have scanned := scans fuel _ (ends_renderMembers ((some other, second) :: others) rest) (by omega)
    have further := step other second fuel named'
      (fun member later => each member (List.mem_cons_of_mem _ later)) (by omega)
    have text : renderMembers ((some other, second) :: others) ++ rest = ',' ::
        (renderText (some other) ++ ':' :: (second.render ++ (renderMembers others ++ rest))) := by
      simp [renderMembers]
    rw [scanMembers_name, scanned, text]
    show (scanMembers fuel _).bind _ = _
    rw [further]
    rfl

/-- A bracket before a legible value opens a list that is not empty. -/
theorem scanValue_elements (legible : value.Legible) (tail : List Char) :
    scanValue (fuel + 1) ('[' :: (value.render ++ tail)) =
      (scanElements fuel (value.render ++ tail)).map
        fun (elements, after) => (.arr elements, after) := by
  obtain ⟨c, others, written, visible, bracket⟩ := legible.exists_render_eq
  rw [written, List.cons_append, scanValue, skipBlanks_cons _ (by decide)]
  simp only [skipBlanks_cons _ visible]
  split
  · next same => exact absurd (List.cons.inj same).1 bracket
  · rfl

theorem scanValue_members (name : String) (tail : List Char) :
    scanValue (fuel + 1) ('\x7b' :: (renderText (some name) ++ tail)) =
      (scanMembers fuel (renderText (some name) ++ tail)).map
        fun (members, after) => (.obj members, after) := by
  rw [renderText_append, scanValue, skipBlanks_cons _ (by decide)]
  rfl

/-- Where there is nothing to scan with, there is nothing to scan. -/
theorem Value.Legible.scans_of_succ (legible : value.Legible)
    (scanned : ∀ fuel rest, Ends rest → value.render.length ≤ fuel + 1 →
      scanValue (fuel + 1) (value.render ++ rest) = some (value, rest)) : value.Scans := by
  intro fuel rest ends enough
  cases fuel with
  | zero =>
    obtain ⟨c, tail, written, -⟩ := legible.exists_render_eq
    rw [written] at enough
    cases enough
  | succ fuel => exact scanned fuel rest ends enough

/-- A legible value is scanned off any text that starts with its own. -/
theorem Value.Legible.scans (legible : value.Legible) : value.Scans := by
  induction legible with
  | null =>
    refine null.scans_of_succ fun fuel rest _ _ => ?_
    rw [Value.render]
    rfl
  | bool value =>
    refine (bool value).scans_of_succ fun fuel rest _ _ => ?_
    cases value
    all_goals
      rw [Value.render]
      rfl
  | int n =>
    refine (int n).scans_of_succ fun fuel rest ends _ => ?_
    obtain ⟨c, tail, written, number⟩ := exists_renderInt_eq n
    have scanned := scanNumber_renderInt n ends
    rw [Value.render, written, List.cons_append, scanValue_number number, ← List.cons_append, ← written]
    exact scanned
  | str text =>
    refine (str text).scans_of_succ fun fuel rest _ _ => ?_
    rw [Value.ofString, Value.render, renderText_append, scanValue, skipBlanks_cons _ (by decide)]
    simp only [scanString_flatMap, Option.map_some]
  | @arr elements each step =>
    refine (arr each).scans_of_succ fun fuel rest _ enough => ?_
    cases elements with
    | nil =>
      rw [Value.render]
      rfl
    | cons first others =>
      -- the opening bracket pays for the step into the list
      rw [Value.render, List.cons_append, List.length_cons] at enough
      have scanned := scanElements_render first others fuel rest step (Nat.le_of_succ_le_succ enough)
      rw [List.append_assoc] at scanned
      rw [Value.render, List.cons_append, List.cons_append, List.append_assoc,
        scanValue_elements (each first List.mem_cons_self), scanned]
      rfl
  | @obj members named each step =>
    refine (obj named each).scans_of_succ fun fuel rest _ enough => ?_
    cases members with
    | nil =>
      rw [Value.render]
      rfl
    | cons member others =>
      obtain ⟨name, first⟩ := member
      obtain ⟨⟨name, rfl⟩, named'⟩ := exists_name named
      rw [Value.render] at enough
      simp only [List.length_append, List.length_cons] at enough
      have scanned := scanMembers_render name first others fuel rest named' step (by omega)
      have text : (Value.obj ((some name, first) :: others)).render ++ rest = '\x7b' ::
          (renderText (some name) ++ ':' :: (first.render ++ (renderMembers others ++ rest))) := by
        simp [Value.render]
      rw [text, scanValue_members, scanned]
      rfl

end Values

/-- A legible value is read back from its text. -/
theorem parse_render {value : Value} (legible : value.Legible) : parse value.render = some value := by
  have scanned := legible.scans (value.render.length + 1) [] nofun (Nat.le_succ _)
  rw [List.append_nil] at scanned
  rw [parse, scanned]
  rfl

end CacheFirst.Json
