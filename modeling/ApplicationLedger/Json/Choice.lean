/-
This file decodes JSON values that choose one of several names. A plain choice is a text, or an
object whose only member has the name and no content. A tagged value is an object with a member
that names its kind, wherever it stands among the other members, or an array that starts with the
kind; the rest of it is kept until the kind is known.
-/

import ApplicationLedger.Json.Layout

namespace ApplicationLedger

/-- A choice with a name, under one of its spellings. -/
structure Spelling (α : Type) where
  name : String
  value : α

namespace Spelling

/-- The choice with a given name. -/
def find {α : Type} (spellings : List (Spelling α)) (name : String) : Except DecodeFault α :=
  match spellings.find? (·.name == name) with
  | some spelling => .ok spelling.value
  | none => .error (.unknownVariant name (spellings.map (·.name)))

/-- Fails unless the value stands for no content. -/
def checkEmpty (medium : Medium) (value : Json) : Except DecodeFault Unit :=
  match medium, value with
  | _, .null => .ok ()
  | .buffer, .object [] => .ok ()
  | _, value => .error (value.mismatch "unit")

/-- A choice straight from a text. An object has to end behind its first member. -/
def decodeText {α : Type} (spellings : List (Spelling α)) (depth : Nat) :
    Json → Except DecodeFault α
  | .string name => find spellings name
  | .object members => do
    let inside ← (Medium.text depth).enter
    match members with
    | [] => .error .malformed
    | ("", .broken) :: _ => .error .malformed
    | (name, value) :: rest =>
      let choice ← find spellings name
      checkEmpty inside value
      if rest.isEmpty then .ok choice else .error .malformed
  | _ => .error .malformed

/-- A choice from a buffer. -/
def decodeBuffer {α : Type} (spellings : List (Spelling α)) : Json → Except DecodeFault α
  | .string name => find spellings name
  | .object [(name, value)] => do
    let choice ← find spellings name
    checkEmpty .buffer value
    .ok choice
  | .object _ => .error (.invalidValue "map" "map with a single key")
  | value => .error (value.mismatch "string or map")

/-- A plain choice. -/
def decode {α : Type} (spellings : List (Spelling α)) : Decoder α
  | .text depth, value => decodeText spellings depth value
  | .buffer, value => decodeBuffer spellings value

end Spelling

/-! ### Tagged values -/

/-- The content of a tagged value. -/
inductive TaggedContent where
  | named (members : List (String × Json))
  | ordered (items : List Json)

namespace TaggedContent

/-- The member that names the kind of a tagged value. -/
def tagName : String := "kind"

/-- The kind, by its name. -/
def kind {κ : Type} (kinds : List (Spelling κ)) : Json → Except DecodeFault κ
  | .string name => Spelling.find kinds name
  | value => .error (value.mismatch "variant identifier")

/-- Splits the members of an object into the kind and the others. -/
def split {κ : Type} (kinds : List (Spelling κ)) (medium : Medium) :
    List (String × Json) → Option κ → Except DecodeFault (Option κ × List (String × Json))
  | [], found => .ok (found, [])
  | (name, value) :: rest, found =>
    if name = tagName then
      match found with
      | some _ => .error (.duplicateField tagName)
      | none => do
        let kind ← kind kinds value
        split kinds medium rest (some kind)
    else if medium.keeps value then do
      let (found, others) ← split kinds medium rest found
      .ok (found, (name, value) :: others)
    else .error .malformed

/-- The kind and the content of a tagged value; the name says what is tagged. -/
def decode {κ : Type} (kinds : List (Spelling κ)) (name : String) :
    Decoder (κ × TaggedContent)
  | medium, .object members => do
    let (found, others) ← split kinds (← medium.enter) members none
    match found with
    | some kind => .ok (kind, .named others)
    | none => .error (.missingField tagName)
  | medium, .array items => do
    let inside ← medium.enter
    match items with
    | [] => .error (.missingField tagName)
    | first :: rest =>
      let kind ← kind kinds first
      if rest.all inside.keeps then .ok (kind, .ordered rest) else .error .malformed
  | _, value => .error (value.mismatch name)

/-- The fields of the content of a tagged value; the name says what has them. -/
def fields {types : List Type} (layout : Layout types) (name : String) :
    TaggedContent → Except DecodeFault (Values types)
  | .named members => layout.ofMembers .buffer members
  | .ordered items => layout.ofItems .buffer name items

end TaggedContent

end ApplicationLedger
