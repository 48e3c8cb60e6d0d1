/-!
# JSON values

A JSON value keeps what records are told apart by: whether a number was written as a plain integer,
the order of an object's members, and members that occur twice. A string can name half a surrogate
pair by an escape; such a string has no text, but it is a JSON value all the same.

## Main definitions

* `Json.Value`: a JSON value.
* `Json.Value.text?`, `Json.Value.member?`: what a value holds as a string or as an object.
-/

namespace CacheFirst.Json

/-- A JSON value. -/
inductive Value
  | null
  | bool (value : Bool)
  /-- A number written with digits alone or with a minus before them, but not as `-0`. -/
  | int (value : Int)
  /-- Any other number, as written. -/
  | decimal (literal : List Char)
  /-- A string. It has no text if an escape in it names half a surrogate pair. -/
  | str (text : Option String)
  | arr (elements : List Value)
  /-- An object with all members in the order written. -/
  | obj (members : List (Option String × Value))
  deriving Inhabited

namespace Value

/-- A string with text. -/
def ofString (text : String) : Value := .str (some text)

/-- A list of values. -/
def ofList {α : Type} (write : α → Value) (values : List α) : Value := .arr (values.map write)

/-- An object whose names have text. -/
def ofFields (fields : List (String × Value)) : Value :=
  .obj (fields.map fun (name, value) => (some name, value))

/-- The text of a string. -/
def text? : Value → Option String
  | .str text => text
  | _ => none

/-- The value of an object's last member of this name. -/
def member? (name : String) : Value → Option Value
  | .obj members => (members.findRev? fun member => member.1 == some name).map Prod.snd
  | _ => none

end Value

end CacheFirst.Json
