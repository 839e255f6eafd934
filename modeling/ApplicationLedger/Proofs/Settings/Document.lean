/-
This file says what settings a document has. A key that is there has to have a value of its kind, in
a section that can be read; then each setting is what the document says for its key, or else the
standard one, whatever the document says for the other keys.
-/

import ApplicationLedger.Proofs.Except
import ApplicationLedger.Settings.Document

namespace ApplicationLedger

/-! ### Keys -/

namespace Toml

/-- The members of a document. -/
abbrev Document := List (String × Toml)

/-- Whether a value can be read, if it is there. -/
def IsReadAs {α : Type} (read : Toml → Option α) (found : Option Toml) : Prop :=
  ∀ value ∈ found, ∃ result, read value = some result

namespace Document

/-- The value of a key in a section, which may be an array of the values of its keys in order. -/
def inSection (document : Document) (name : String) (keys : List String) (key : String) :
    Option Toml :=
  ((document.lookup name).bind (section? keys)).bind (·.lookup key)

/-- The text that a document has for a key. -/
def textOf (document : Document) (key : String) : Option String :=
  (document.lookup key).bind text?

end Document

/-- The value of a name is there and read, or it is not there and given. -/
theorem valueOf_eq_some_iff {α : Type} {read : Toml → Option α} {members : Document}
    {name : String} {standard result : α} :
    valueOf read members name standard = some result ↔
      IsReadAs read (members.lookup name) ∧
        result = ((members.lookup name).bind read).getD standard := by
  unfold valueOf IsReadAs
  cases members.lookup name with
  | none => exact ⟨fun same => ⟨nofun, (Option.some.inj same).symm⟩, fun same => same.2 ▸ rfl⟩
  | some value =>
    rw [Option.bind_some]
    constructor
    · intro found
      refine ⟨fun _ isValue => ⟨result, Option.some.inj isValue ▸ found⟩, ?_⟩
      rw [show read value = some result from found]
      rfl
    · rintro ⟨readable, rfl⟩
      obtain ⟨result, found⟩ := readable value rfl
      rw [found]
      exact found

theorem isReadAs_map_some {found : Option Toml} :
    IsReadAs (fun value => value.text?.map some) found ↔ IsReadAs text? found := by
  refine forall₂_congr fun value _ => ⟨?_, ?_⟩
  · rintro ⟨_, read⟩
    obtain ⟨text, isText, _⟩ := Option.map_eq_some_iff.mp read
    exact ⟨text, isText⟩
  · rintro ⟨text, isText⟩
    exact ⟨some text, Option.map_eq_some_iff.mpr ⟨text, isText, rfl⟩⟩

theorem getD_bind_map_some (found : Option Toml) :
    (found.bind fun value => value.text?.map some).getD none = found.bind text? := by
  cases found with
  | none => rfl
  | some value =>
    rw [Option.bind_some, Option.bind_some]
    cases value.text? <;> rfl

namespace Document

/-- A section that is not there has no keys. -/
theorem lookup_section (document : Document) (name : String) (keys : List String) (key : String) :
    (((document.lookup name).bind (section? keys)).getD []).lookup key =
      document.inSection name keys key := by
  rw [inSection]
  cases (document.lookup name).bind (section? keys) <;> rfl

end Document

end Toml

namespace Settings

open Toml (Document IsReadAs section? text? whole? count?)

/-! ### Documents -/

/-- The keys that stand in no section. -/
def textKeys : List String :=
  ["data_dir", "database_path", "bucket", "listen_addr", "public_url", "signing_secret"]

/-- The keys about conflicts, in order. -/
def retryKeys : List String := ["max_attempts", "base_delay_ms", "max_delay_ms", "deadline_ms"]

/-- Whether every setting that a document has is of its kind. -/
structure IsTyped (document : Document) : Prop where
  texts : ∀ key ∈ textKeys, IsReadAs text? (document.lookup key)
  database : IsReadAs (section? ["busy_timeout_ms"]) (document.lookup "database")
  retry : IsReadAs (section? retryKeys) (document.lookup "retry")
  links : IsReadAs (section? ["ttl_secs"]) (document.lookup "links")
  busyTimeout :
    IsReadAs (count? 64) (document.inSection "database" ["busy_timeout_ms"] "busy_timeout_ms")
  maxAttempts : IsReadAs (count? 32) (document.inSection "retry" retryKeys "max_attempts")
  durations : ∀ key ∈ ["base_delay_ms", "max_delay_ms", "deadline_ms"],
    IsReadAs (count? 64) (document.inSection "retry" retryKeys key)
  lifetime : IsReadAs whole? (document.inSection "links" ["ttl_secs"] "ttl_secs")

/-- The settings of a document: for each key what the document says, or else the standard. -/
def ofDocument (usual : String) (document : Document) : Settings where
  dataDirectory := (document.textOf "data_dir").getD usual
  databasePath := document.textOf "database_path"
  bucket := (document.textOf "bucket").getD "job-applications"
  listenAddress := (document.textOf "listen_addr").getD "127.0.0.1:7878"
  publicUrl := (document.textOf "public_url").getD "http://127.0.0.1:8080"
  signingSecret := document.textOf "signing_secret"
  busyTimeout :=
    ((document.inSection "database" ["busy_timeout_ms"] "busy_timeout_ms").bind (count? 64)).getD
      5000
  retry :=
    { maxAttempts :=
        ((document.inSection "retry" retryKeys "max_attempts").bind (count? 32)).getD 8
      baseDelay :=
        ((document.inSection "retry" retryKeys "base_delay_ms").bind (count? 64)).getD 10
      maxDelay :=
        ((document.inSection "retry" retryKeys "max_delay_ms").bind (count? 64)).getD 1000
      deadline :=
        ((document.inSection "retry" retryKeys "deadline_ms").bind (count? 64)).getD 10000 }
  linkLifetime :=
    ((document.inSection "links" ["ttl_secs"] "ttl_secs").bind whole?).getD 900

/-- A document is read if and only if its settings are of their kinds. -/
theorem ofMembers?_eq_some_iff {usual : String} {document : Document} {s : Settings} :
    (standard usual).ofMembers? document = some s ↔
      IsTyped document ∧ s = ofDocument usual document := by
  simp only [ofMembers?, RetrySettings.ofMembers?, Option.bind_eq_bind, Option.bind_eq_some_iff,
    Toml.sectionOf, Toml.valueOf_eq_some_iff, Toml.isReadAs_map_some, Option.some.injEq, and_assoc,
    exists_eq_left, exists_eq_left', exists_and_left]
  simp only [Document.lookup_section]
  constructor
  · rintro ⟨database, retry, links, directory, path, bucket, address, url, secret, timeout,
      attempts, base, greatest, deadline, lifetime, rfl⟩
    refine ⟨⟨?_, database, retry, links, timeout, attempts, ?_, lifetime⟩, ?_⟩
    · simp only [textKeys, List.forall_mem_cons]
      exact ⟨directory, path, bucket, address, url, secret, nofun⟩
    · simp only [List.forall_mem_cons]
      exact ⟨base, greatest, deadline, nofun⟩
    · simp only [standard, Toml.getD_bind_map_some]
      rfl
  · rintro ⟨typed, rfl⟩
    have text {key : String} (isKey : key ∈ textKeys) := typed.texts key isKey
    have duration {key : String} (isKey) := typed.durations key isKey
    refine ⟨typed.database, typed.retry, typed.links, text (by decide), text (by decide),
      text (by decide), text (by decide), text (by decide), text (by decide), typed.busyTimeout,
      typed.maxAttempts, duration (by decide), duration (by decide), duration (by decide),
      typed.lifetime, ?_⟩
    simp only [standard, Toml.getD_bind_map_some]
    rfl

end Settings

end ApplicationLedger
