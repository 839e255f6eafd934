/-
This file reads arguments of a command line. Arguments that start with two hyphens are options, some
of which take a value, behind an equals sign or as the next argument; all others stand by their
position. Two hyphens alone end the options. The first argument that is wrong, or that asks for
help, decides what comes of the whole line.
-/

import ApplicationLedger.Number.Decimal
import ApplicationLedger.Text.Split

namespace ApplicationLedger

/-- Why a command line is not carried out. -/
inductive Refusal where
  /-- It asks how to write one, or for the version. -/
  | help
  /-- It is wrong. -/
  | misuse
  deriving DecidableEq, Repr

/-- The arguments that a command takes. -/
structure ArgumentForm where
  /-- The options that take a value, with the values they take. -/
  valued : List (String × (String → Bool))
  /-- The options that take none. -/
  flags : List String
  /-- What the arguments at the first positions may be. -/
  leading : List (String → Bool)
  /-- What the arguments behind them may be, if there may be any. -/
  trailing : Option (String → Bool)

/-- Arguments that have been read, in order. -/
structure Arguments where
  options : List (String × String)
  positions : List String
  deriving DecidableEq, Repr

namespace Arguments

/-- No arguments. -/
def none : Arguments := ⟨[], []⟩

/-- The value of an option. -/
def value? (a : Arguments) (name : String) : Option String := a.options.lookup name

/-- Whether an option is given. -/
def has (a : Arguments) (name : String) : Bool := (a.value? name).isSome

/-- An argument that cannot be a value or stand by its position, because a hyphen starts it. One
hyphen alone does not. -/
def isOption (argument : String) : Bool := argument.startsWith "-" && argument != "-"

/-- An option with the value behind its equals sign. -/
def splitOption (argument : String) : String × Option String :=
  let name := argument.toList.takeWhile (· != '=')
  match argument.toList.drop name.length with
  | [] => (argument, Option.none)
  | _ :: value => (String.ofList name, some (String.ofList value))

/-- The arguments with one more option. No option is given twice. -/
def addOption (a : Arguments) (name value : String) (isTaken : String → Bool) :
    Except Refusal Arguments :=
  if a.has name || !isTaken value then .error .misuse
  else .ok { a with options := a.options ++ [(name, value)] }

/-- The arguments with one more at its position. -/
def addPosition (form : ArgumentForm) (a : Arguments) (value : String) :
    Except Refusal Arguments :=
  match (form.leading[a.positions.length]?).or form.trailing with
  | some isTaken =>
    if isTaken value then .ok { a with positions := a.positions ++ [value] } else .error .misuse
  | Option.none => .error .misuse

/-- Reads arguments behind those that have been read. An option whose value comes next is
`waiting`. -/
def read (form : ArgumentForm) (a : Arguments) (waiting : Option (String × (String → Bool))) :
    List String → Except Refusal Arguments
  | [] => if waiting.isSome then .error .misuse else .ok a
  | argument :: rest =>
    match waiting with
    | some (name, isTaken) =>
      if isOption argument then .error .misuse
      else do read form (← a.addOption name argument isTaken) Option.none rest
    | Option.none =>
      if argument = "--" then rest.foldlM (addPosition form) a
      else if argument = "--help" || argument.startsWith "-h" then .error .help
      else if isOption argument then
        match splitOption argument with
        | (name, value) =>
          match form.valued.lookup name, value with
          | some isTaken, some value => do
            read form (← a.addOption name value isTaken) Option.none rest
          | some isTaken, Option.none =>
            if a.has name then .error .misuse else read form a (some (name, isTaken)) rest
          | Option.none, some _ => .error .misuse
          | Option.none, Option.none =>
            if form.flags.contains name then do
              read form (← a.addOption name "" fun _ => true) Option.none rest
            else .error .misuse
      else do read form (← a.addPosition form argument) Option.none rest

/-- The arguments that a form takes, if all its leading positions are filled. -/
def ofList (form : ArgumentForm) (arguments : List String) : Except Refusal Arguments := do
  let a ← read form none Option.none arguments
  if a.positions.length < form.leading.length then .error .misuse else .ok a

/-- A whole number of 64 bits in decimal digits, with or without a sign. -/
def int64? (text : String) : Option Int :=
  let (negative, digits) := Decimal.sign text.toList
  if digits.isEmpty || !digits.all Char.isDigit then Option.none
  else
    let size := Int.ofNat (digitsValue digits)
    let value := if negative then -size else size
    if -Int.pow 2 63 ≤ value ∧ value < Int.pow 2 63 then some value else Option.none

end Arguments

end ApplicationLedger
