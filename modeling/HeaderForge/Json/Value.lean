import HeaderForge.Json.Number

/-!
# JSON values

A value as read from a text. Members keep their order, and a key may occur twice. A text need not be
correct: where it stops being JSON, `unreadable` stands for the rest, so that a reader that goes through
a value in order meets the fault exactly where the text has it.
-/

namespace HeaderForge

/-- A JSON value. -/
inductive Json where
  /-- The null value. -/
  | null
  /-- A truth value. -/
  | bool (value : Bool)
  /-- A number, as written. -/
  | number (value : Json.Number)
  /-- A string; `none` when its escapes pair surrogates wrongly and so denote no text. -/
  | string (text : Option String)
  /-- An array. -/
  | array (items : List Json)
  /-- An object. The key `none` stands for one that denotes no text or cannot be read. -/
  | object (members : List (Option String × Json))
  /-- The place where the text stops being JSON. -/
  | unreadable

namespace Json

/-- A string value. -/
def text (content : String) : Json := .string (some content)

/-- An integer value. -/
def integer (value : Int) : Json := .number (.ofInt value)

/-- An object with the given members. -/
def ofMembers (members : List (String × Json)) : Json :=
  .object (members.map fun (key, value) => (some key, value))

mutual

/-- Whether the value is readable to its end. -/
def isReadable : Json → Bool
  | .unreadable => false
  | .array items => areReadable items
  | .object members => haveReadableValues members
  | _ => true

/-- Whether all values are readable to their ends. -/
def areReadable : List Json → Bool
  | [] => true
  | item :: rest => isReadable item && areReadable rest

/-- Whether all members have values that are readable to their ends. -/
def haveReadableValues : List (Option String × Json) → Bool
  | [] => true
  | (_, value) :: rest => isReadable value && haveReadableValues rest

end

mutual

/-- Whether the value is readable, nests at most so many levels deep, all its keys and strings denote
texts, and none of its numbers is too large. -/
def isSound : Nat → Json → Bool
  | _, .unreadable => false
  | _, .number value => value.quantity != .tooLarge
  | _, .string text => text.isSome
  | 0, .array _ => false
  | levels + 1, .array items => areSound levels items
  | 0, .object _ => false
  | levels + 1, .object members => haveSoundValues levels members
  | _, _ => true

/-- Whether all values are sound. -/
def areSound : Nat → List Json → Bool
  | _, [] => true
  | levels, item :: rest => isSound levels item && areSound levels rest

/-- Whether all members have keys that denote texts, and sound values. -/
def haveSoundValues : Nat → List (Option String × Json) → Bool
  | _, [] => true
  | levels, (key, value) :: rest =>
    key.isSome && isSound levels value && haveSoundValues levels rest

end

end Json

end HeaderForge
