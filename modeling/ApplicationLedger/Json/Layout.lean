/-
This file decodes JSON values into values with named fields. A layout lists the fields in the order
of their declaration. The members of an object come in any order; a field may come once only, and
members that name no field are passed over. An array holds the fields in order, where fields with a
default may be missing at the end.
-/

import ApplicationLedger.Json.Decoder

namespace ApplicationLedger

/-- The fields of a value: name, decoder and default of each, in order. -/
inductive Layout : List Type → Type 1
  | done : Layout []
  | field {α : Type} {types : List Type} (name : String) (decode : Decoder α)
      (default? : Option α) (rest : Layout types) : Layout (α :: types)

/-- One value for each type. -/
def Values : List Type → Type
  | [] => Unit
  | α :: types => α × Values types

/-- The fields decoded so far. -/
def Draft : List Type → Type
  | [] => Unit
  | α :: types => Option α × Draft types

namespace Layout

/-- The number of fields. -/
def size {types : List Type} (_ : Layout types) : Nat := types.length

/-- The draft without a field. -/
def start {types : List Type} : Layout types → Draft types
  | .done => ()
  | .field _ _ _ rest => (none, rest.start)

/-- The draft with one more member taken in, if it names a field. -/
def take? {types : List Type} (medium : Medium) (name : String) (value : Json) :
    Layout types → Draft types → Option (Except DecodeFault (Draft types))
  | .done, _ => none
  | .field own decode _ rest, (held, others) =>
    if name = own then
      match held with
      | some _ => some (.error (.duplicateField own))
      | none => some ((decode medium value).map fun decoded => (some decoded, others))
    else (take? medium name value rest others).map fun taken =>
      taken.map fun others => (held, others)

/-- The fields of a complete draft; the first field that is missing and has no default is named. -/
def finish {types : List Type} : Layout types → Draft types → Except DecodeFault (Values types)
  | .done, _ => .ok ()
  | .field name _ default? rest, (held, others) =>
    match held.or default? with
    | none => .error (.missingField name)
    | some value => (rest.finish others).map fun values => (value, values)

/-- Takes in members in their order. Members that name no field are passed over. -/
def takeAll {types : List Type} (layout : Layout types) (medium : Medium) :
    List (String × Json) → Draft types → Except DecodeFault (Draft types)
  | [], draft => .ok draft
  | (name, value) :: rest, draft =>
    match layout.take? medium name value draft with
    | some taken => do takeAll layout medium rest (← taken)
    | none =>
      if medium.skips value then takeAll layout medium rest draft else .error .malformed

/-- The fields from the members of an object. -/
def ofMembers {types : List Type} (layout : Layout types) (medium : Medium)
    (members : List (String × Json)) : Except DecodeFault (Values types) := do
  layout.finish (← layout.takeAll medium members layout.start)

/-- The fields from items in order, with the items behind them. The index is that of the first item;
the text says what was expected when items are missing. -/
def ofItemsFrom {types : List Type} (medium : Medium) (expected : String) :
    Layout types → Nat → List Json → Except DecodeFault (Values types × List Json)
  | .done, _, items => .ok ((), items)
  | .field _ decode default? rest, index, items =>
    match items with
    | [] =>
      match default? with
      | none => .error (.invalidLength index expected)
      | some value =>
        (rest.ofItemsFrom medium expected (index + 1) []).map fun (values, left) =>
          ((value, values), left)
    | item :: items => do
      let value ← decode medium item
      let (values, left) ← rest.ofItemsFrom medium expected (index + 1) items
      .ok ((value, values), left)

/-- A count of elements in words. -/
def elements (count : Nat) : String :=
  if count = 1 then "1 element" else toString count ++ " elements"

/-- The fields from the items of an array; no item may be left over. The name says what has the
fields. -/
def ofItems {types : List Type} (layout : Layout types) (medium : Medium) (name : String)
    (items : List Json) : Except DecodeFault (Values types) := do
  let expected := name ++ " with " ++ elements layout.size
  let (values, left) ← layout.ofItemsFrom medium expected 0 items
  if left.isEmpty then .ok values
  else
    match medium with
    | .text _ => .error .malformed
    | .buffer =>
      .error (.invalidLength items.length (elements layout.size ++ " in sequence"))

/-- A value with fields, from an object or an array. -/
def decode {types : List Type} (layout : Layout types) (name : String) : Decoder (Values types)
  | medium, .object members => do layout.ofMembers (← medium.enter) members
  | medium, .array items => do layout.ofItems (← medium.enter) name items
  | _, value => .error (value.mismatch name)

end Layout

end ApplicationLedger
