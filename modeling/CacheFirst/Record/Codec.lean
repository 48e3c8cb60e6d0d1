import CacheFirst.Json.Parser
import CacheFirst.Json.Printer
import CacheFirst.Path.Basic

/-!
# Records as JSON

A record is an object with a member for each of its fields, or an array of its fields in order. Its
field names must not occur twice; other names are ignored, as often as they occur. A field that is
absent takes its default if it has one. An array may stop before fields that have defaults, and must
not go on after the last one.

## Main definitions

* `Decode`, `Encode`: types that can be read from and written as JSON values.
* `fieldValues?`: the values given for the fields of a record, in their order.
* `required`, `orElse`: a field's value from what is given for it.
* `Decode.ofText?`, `Encode.toText`: whole texts.
-/

namespace CacheFirst

open Json (Value)

/-- Types that can be read from JSON values. -/
class Decode (α : Type) where
  decode : Value → Option α

/-- Types that can be written as JSON values. -/
class Encode (α : Type) where
  encode : α → Value

export Decode (decode)
export Encode (encode)

/-- Reads a whole JSON text. -/
def Decode.ofText? (α : Type) [Decode α] (text : List Char) : Option α :=
  (Json.parse text).bind decode

/-- Writes a whole JSON text. -/
def Encode.toText {α : Type} [Encode α] (value : α) : List Char :=
  (encode value).render

/-! ### Fields -/

/-- What an object gives for a field, unless it gives it twice. -/
def fieldValue? (members : List (Option String × Value)) (name : String) : Option (Option Value) :=
  match members.filter fun member => member.1 == some name with
  | [] => some none
  | [member] => some (some member.2)
  | _ => none

/-- What a value gives for the fields of a record. An object must not give one twice, and all its
names must have text; an array must not be longer than the record. -/
def fieldValues? (names : List String) : Value → Option (List (Option Value))
  | .obj members =>
    if members.all (·.1.isSome) then names.mapM (fieldValue? members) else none
  | .arr elements =>
    -- fields past the end of the array are absent, like those that an object leaves out
    if elements.length ≤ names.length then
      some (elements.map some ++ List.replicate (names.length - elements.length) none)
    else none
  | _ => none

/-- The value of a field that must be given. -/
def required {α : Type} [Decode α] (given : Option Value) : Option α :=
  given.bind decode

/-- The value of a field that has a default. -/
def orElse {α : Type} [Decode α] (default : α) : Option Value → Option α
  | none => some default
  | some value => decode value

/-! ### Plain values -/

instance : Decode Bool where
  decode
    | .bool value => some value
    | _ => none

instance : Encode Bool where
  encode := .bool

instance : Decode String where
  decode := Value.text?

instance : Encode String where
  encode := Value.ofString

/-- An integer between two bounds, both allowed. -/
def boundedInt? (low high : Int) : Value → Option Int
  | .int value => if low ≤ value ∧ value ≤ high then some value else none
  | _ => none

/-- A natural number below a bound. -/
def boundedNat? (bound : Nat) (value : Value) : Option Nat :=
  (boundedInt? 0 (bound - 1) value).map Int.toNat

instance : Decode UInt16 where
  decode value := (boundedNat? UInt16.size value).map UInt16.ofNat

instance : Encode UInt16 where
  encode value := .int value.toNat

instance : Decode UInt32 where
  decode value := (boundedNat? UInt32.size value).map UInt32.ofNat

instance : Encode UInt32 where
  encode value := .int value.toNat

instance : Decode UInt64 where
  decode value := (boundedNat? UInt64.size value).map UInt64.ofNat

instance : Encode UInt64 where
  encode value := .int value.toNat

instance : Decode Int64 where
  decode value := (boundedInt? Int64.minValue.toInt Int64.maxValue.toInt value).map Int64.ofInt

instance : Encode Int64 where
  encode value := .int value.toInt

instance {α : Type} [Decode α] : Decode (Option α) where
  decode
    | .null => some none
    | value => (decode value).map some

instance {α : Type} [Encode α] : Encode (Option α) where
  encode
    | none => .null
    | some value => encode value

instance {α : Type} [Decode α] : Decode (List α) where
  decode
    | .arr elements => elements.mapM decode
    | _ => none

instance {α : Type} [Encode α] : Encode (List α) where
  encode values := .arr (values.map encode)

/-- A path is its text. -/
instance : Decode Path where
  decode value := value.text?.bind fun text => (Path.ofString text).toOption

instance : Encode Path where
  encode path := .ofString path.toString

end CacheFirst
