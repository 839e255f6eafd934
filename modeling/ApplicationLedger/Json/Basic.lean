/-
This file holds JSON values. An object is the list of its members in the order of the text, with
repeated names kept. Two more kinds of value describe texts that are not JSON throughout: a place
where the text stops being JSON, and a string or number that is written correctly but stands for
nothing. They let a reader of a message report what is wrong with the part it has understood before
it reports the text. A value without them is plain.
-/

import ApplicationLedger.Number.Binary64

namespace ApplicationLedger

/-- A number of a JSON text: a whole one that fits 64 bits, with or without sign, or a floating
point one. -/
inductive JsonNumber where
  | integer (value : Int)
  | real (value : Binary64)
  deriving DecidableEq, Repr

/-- A JSON value, or what a text has in its place. -/
inductive Json where
  | null
  | boolean (value : Bool)
  | number (value : JsonNumber)
  | string (value : String)
  | array (items : List Json)
  | object (members : List (String × Json))
  /-- A string with half a surrogate pair, or a number too large for any. -/
  | unreadable
  /-- The place where the text stops being JSON. -/
  | broken
  deriving Inhabited, Repr

namespace Json

/-- A whole number. -/
def integer (value : Int) : Json := .number (.integer value)

mutual

/-- Whether the text of the value is JSON to its end. Such a value can be passed over. -/
def isComplete : Json → Bool
  | .broken => false
  | .array items => allComplete items
  | .object members => allMembersComplete members
  | _ => true

/-- Whether all items are complete. -/
def allComplete : List Json → Bool
  | [] => true
  | item :: rest => isComplete item && allComplete rest

/-- Whether the values of all members are complete. -/
def allMembersComplete : List (String × Json) → Bool
  | [] => true
  | (_, value) :: rest => isComplete value && allMembersComplete rest

end

mutual

/-- Whether the value is plain and its arrays and objects nest less than `depth` levels. -/
def fits : Nat → Json → Bool
  | _, .broken => false
  | _, .unreadable => false
  | 0, .array _ => false
  | depth + 1, .array items => depth != 0 && allFit depth items
  | 0, .object _ => false
  | depth + 1, .object members => depth != 0 && allMembersFit depth members
  | _, _ => true

/-- Whether all items fit. -/
def allFit : Nat → List Json → Bool
  | _, [] => true
  | depth, item :: rest => fits depth item && allFit depth rest

/-- Whether the values of all members fit. -/
def allMembersFit : Nat → List (String × Json) → Bool
  | _, [] => true
  | depth, (_, value) :: rest => fits depth value && allMembersFit depth rest

end

end Json

end ApplicationLedger
