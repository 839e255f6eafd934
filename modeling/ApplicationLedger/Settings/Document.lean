/-
This file reads settings from TOML documents. Every setting may be missing, by itself or with its
section, and then has its standard value; names that mean nothing are passed over. A section is
written as a table, or as an array of its settings in order; a moment counts as a section where
nothing is set.
-/

import ApplicationLedger.Settings.Basic
import ApplicationLedger.Toml.Reader

namespace ApplicationLedger

namespace Toml

/-- A text. -/
def text? : Toml → Option String
  | .string value => some value
  | _ => none

/-- A whole number. -/
def whole? : Toml → Option Int
  | .integer value => some value
  | _ => none

/-- A whole number that is not negative and has at most some bits. -/
def count? (bits : Nat) : Toml → Option Nat
  | .integer value => if 0 ≤ value ∧ value < Int.pow 2 bits then some value.toNat else none
  | _ => none

/-- The settings of a section by their names, which an array leaves out. -/
def section? (names : List String) : Toml → Option (List (String × Toml))
  | .table members => some members
  | .array items => some (names.zip items)
  | .moment _ => some []
  | _ => none

/-- The value of a name, the given one if the name is missing; nothing if the value cannot be
read. -/
def valueOf {α : Type} (read : Toml → Option α) (members : List (String × Toml)) (name : String)
    (standard : α) : Option α :=
  match members.lookup name with
  | none => some standard
  | some value => read value

/-- The section of a name, empty if the name is missing. -/
def sectionOf (members : List (String × Toml)) (name : String) (names : List String) :
    Option (List (String × Toml)) :=
  valueOf (section? names) members name []

end Toml

open Toml (valueOf sectionOf text? whole? count?)

/-- The settings for conflicts in their section. -/
def RetrySettings.ofMembers? (members : List (String × Toml)) : Option RetrySettings := do
  some
    { maxAttempts := ← valueOf (count? 32) members "max_attempts" standard.maxAttempts
      baseDelay := ← valueOf (count? 64) members "base_delay_ms" standard.baseDelay
      maxDelay := ← valueOf (count? 64) members "max_delay_ms" standard.maxDelay
      deadline := ← valueOf (count? 64) members "deadline_ms" standard.deadline }

/-- The settings in a document; `base` has the standard ones. -/
def Settings.ofMembers? (base : Settings) (members : List (String × Toml)) : Option Settings := do
  let database ← sectionOf members "database" ["busy_timeout_ms"]
  let retry ← sectionOf members "retry"
    ["max_attempts", "base_delay_ms", "max_delay_ms", "deadline_ms"]
  let links ← sectionOf members "links" ["ttl_secs"]
  some
    { dataDirectory := ← valueOf text? members "data_dir" base.dataDirectory
      databasePath := ← valueOf (·.text?.map some) members "database_path" base.databasePath
      bucket := ← valueOf text? members "bucket" base.bucket
      listenAddress := ← valueOf text? members "listen_addr" base.listenAddress
      publicUrl := ← valueOf text? members "public_url" base.publicUrl
      signingSecret := ← valueOf (·.text?.map some) members "signing_secret" base.signingSecret
      busyTimeout := ← valueOf (count? 64) database "busy_timeout_ms" base.busyTimeout
      retry := ← RetrySettings.ofMembers? retry
      linkLifetime := ← valueOf whole? links "ttl_secs" base.linkLifetime }

end ApplicationLedger
