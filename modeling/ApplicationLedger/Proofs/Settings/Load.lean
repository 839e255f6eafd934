/-
This file proves what settings are loaded. The environment selects a document; each setting is what
the environment says if it says something, else what the document says, else the standard. Loading
fails only on a document that is there and cannot be read, and on a result that cannot be used.
-/

import ApplicationLedger.Proofs.FileTree
import ApplicationLedger.Proofs.Settings.Document
import ApplicationLedger.Settings.Load

namespace ApplicationLedger.Settings

open Toml (Document)

/-! ### Sources -/

/-- Whether the file at a path holds a document whose settings are of their kinds. -/
def Holds (t : FileTree) (path : String) (document : Document) : Prop :=
  ∃ text, t.readText (Path.ofText path) = .ok text ∧ Toml.ofText? text = some document ∧
    IsTyped document

/-- Whether a document is the one that the environment selects: the empty one if the file does not
exist. -/
def Selects (t : FileTree) (env : Environment) (usual : String) (document : Document) : Prop :=
  if t.isPresent (Path.ofText (filePath env usual)) then Holds t (filePath env usual) document
  else document = []

/-- What the environment says, else what the document says. -/
def textIn (env : Environment) (document : Document) (variableName key : String) : Option String :=
  (env.value? variableName).or (document.textOf key)

/-- The settings where the environment goes before a document. -/
def merged (env : Environment) (usual : String) (document : Document) : Settings :=
  { ofDocument usual document with
    dataDirectory := (textIn env document "JOBAPPS_DATA_DIR" "data_dir").getD usual
    databasePath := textIn env document "DATABASE_PATH" "database_path"
    bucket := (textIn env document "BUCKET_NAME" "bucket").getD "job-applications"
    listenAddress := (textIn env document "JOBAPPS_LISTEN" "listen_addr").getD "127.0.0.1:7878"
    publicUrl :=
      (textIn env document "JOBAPPS_PUBLIC_URL" "public_url").getD "http://127.0.0.1:8080"
    signingSecret := textIn env document "JOBAPPS_SIGNING_SECRET" "signing_secret" }

/-- Whether settings can be used: there is a bucket, and links hold for a second to seven days. -/
def IsUsable (s : Settings) : Prop :=
  s.bucket ≠ "" ∧ 1 ≤ s.linkLifetime ∧ s.linkLifetime ≤ 604800

/-! ### Loading -/

theorem override_ofDocument (env : Environment) (usual : String) (document : Document) :
    (ofDocument usual document).override env = merged env usual document := by
  simp only [override, ofDocument, merged, textIn, Option.getD_or]

/-- Without a document, the data directory is known before the environment is asked again. -/
theorem override_standard (env : Environment) (usual : String) :
    (standard (startDirectory env usual)).override env = merged env usual [] := by
  rw [← override_ofDocument, override, override, startDirectory]
  cases env.value? "JOBAPPS_DATA_DIR" <;> rfl

theorem check_eq_ok_iff {s : Settings} : s.check = .ok () ↔ s.IsUsable := by
  unfold check IsUsable greatestLifetime
  split
  · rename_i empty
    exact ⟨nofun, fun usable => absurd (String.isEmpty_iff.mp empty) usable.1⟩
  · rename_i nonempty
    split
    · rename_i outside
      exact ⟨nofun, fun usable => absurd outside (by omega)⟩
    · rename_i inside
      exact ⟨fun _ => ⟨mt String.isEmpty_iff.mpr nonempty, by omega⟩, fun _ => rfl⟩

theorem ofFile_eq_ok_iff {t : FileTree} {usual path : String} {s : Settings} :
    ofFile t usual path = .ok s ↔
      ∃ document, Holds t path document ∧ s = ofDocument usual document := by
  unfold ofFile Holds
  cases t.readText (Path.ofText path) with
  | error fault =>
    refine ⟨nofun, ?_⟩
    rintro ⟨_, ⟨_, ⟨⟩, _⟩, _⟩
  | ok text =>
    have parsed {s : Settings} : (Toml.ofText? text).bind (standard usual).ofMembers? = some s ↔
        ∃ document, Toml.ofText? text = some document ∧ IsTyped document ∧
          s = ofDocument usual document := by
      rw [Option.bind_eq_some_iff]
      exact exists_congr fun document => and_congr_right fun _ => ofMembers?_eq_some_iff
    constructor
    · intro loaded
      dsimp only at loaded
      split at loaded
      · cases loaded
      · rename_i found
        cases loaded
        obtain ⟨document, isDocument, typed, same⟩ := parsed.mp found
        exact ⟨document, ⟨text, rfl, isDocument, typed⟩, same⟩
    · rintro ⟨document, ⟨_, ⟨⟩, isDocument, typed⟩, same⟩
      dsimp only
      rw [parsed.mpr ⟨document, isDocument, typed, same⟩]

theorem isConfig_of_ofFile {t : FileTree} {usual path : String} {fault : Fault}
    (failed : ofFile t usual path = .error fault) : ∃ reason, fault = .config reason := by
  unfold ofFile at failed
  split at failed
  · cases failed
    exact ⟨_, rfl⟩
  · split at failed <;> cases failed
    exact ⟨_, rfl⟩

theorem isConfig_of_check {s : Settings} {fault : Fault} (failed : s.check = .error fault) :
    ∃ reason, fault = .config reason := by
  unfold check at failed
  split at failed
  · cases failed
    exact ⟨_, rfl⟩
  · split at failed <;> cases failed
    exact ⟨_, rfl⟩

section Load

variable {t : FileTree} {env : Environment} {usual : String}

/-- What the environment makes of its file are the merged settings of the selected document. -/
theorem override_ofEnvironmentFile_iff {s : Settings} :
    (∃ given, ofEnvironmentFile t env usual = .ok given ∧ s = given.override env) ↔
      ∃ document, Selects t env usual document ∧ s = merged env usual document := by
  unfold ofEnvironmentFile Selects
  split
  · constructor
    · rintro ⟨given, loaded, rfl⟩
      obtain ⟨document, holds, rfl⟩ := ofFile_eq_ok_iff.mp loaded
      exact ⟨document, holds, override_ofDocument env usual document⟩
    · rintro ⟨document, holds, rfl⟩
      exact ⟨_, ofFile_eq_ok_iff.mpr ⟨document, holds, rfl⟩,
        (override_ofDocument env usual document).symm⟩
  · constructor
    · rintro ⟨_, ⟨⟩, rfl⟩
      exact ⟨[], rfl, override_standard env usual⟩
    · rintro ⟨_, rfl, rfl⟩
      exact ⟨_, rfl, (override_standard env usual).symm⟩

/-- Loading gives the merged settings of the selected document, if they can be used. -/
theorem load_eq_ok_iff {s : Settings} :
    load t env usual = .ok s ↔
      ∃ document, Selects t env usual document ∧ s = merged env usual document ∧ s.IsUsable := by
  have steps : load t env usual = .ok s ↔
      (∃ given, ofEnvironmentFile t env usual = .ok given ∧ s = given.override env) ∧
        s.check = .ok () := by
    constructor
    · intro loaded
      obtain ⟨given, isGiven, loaded⟩ := bind_eq_ok.mp loaded
      obtain ⟨⟨⟩, checked, loaded⟩ := bind_eq_ok.mp loaded
      cases loaded
      exact ⟨⟨given, isGiven, rfl⟩, checked⟩
    · rintro ⟨⟨given, isGiven, rfl⟩, checked⟩
      exact bind_eq_ok.mpr ⟨given, isGiven, bind_eq_ok.mpr ⟨(), checked, rfl⟩⟩
  rw [steps, override_ofEnvironmentFile_iff, check_eq_ok_iff, ← exists_and_right]
  simp only [and_assoc]

theorem Selects.unique {document document' : Document} (selects : Selects t env usual document)
    (selects' : Selects t env usual document') : document = document' := by
  unfold Selects at selects selects'
  split at selects
  · rename_i isPresent
    rw [if_pos isPresent] at selects'
    obtain ⟨text, read, parsed, _⟩ := selects
    obtain ⟨text', read', parsed', _⟩ := selects'
    cases read.symm.trans read'
    exact Option.some.inj (parsed.symm.trans parsed')
  · rename_i absent
    rw [if_neg absent] at selects'
    exact selects.trans selects'.symm

/-- If no document is selected, there is a file that holds none. -/
theorem not_exists_selects_iff :
    (¬∃ document, Selects t env usual document) ↔
      t.isPresent (Path.ofText (filePath env usual)) = true ∧
        ∀ document, ¬Holds t (filePath env usual) document := by
  unfold Selects
  split
  · rename_i isPresent
    rw [not_exists]
    exact ⟨fun none => ⟨isPresent, none⟩, fun broken => broken.2⟩
  · rename_i absent
    exact ⟨fun none => absurd ⟨[], rfl⟩ none, fun broken => absurd broken.1 absent⟩

theorem isConfig_of_load {fault : Fault} (failed : load t env usual = .error fault) :
    ∃ reason, fault = .config reason := by
  rcases bind_eq_error.mp failed with failed | ⟨given, _, failed⟩
  · unfold ofEnvironmentFile at failed
    split at failed
    · exact isConfig_of_ofFile failed
    · cases failed
  · rcases bind_eq_error.mp failed with failed | ⟨_, _, ⟨⟩⟩
    exact isConfig_of_check failed

/-- Settings that cannot be used have no bucket, or links that hold too short or too long. -/
theorem not_isUsable_iff {s : Settings} :
    ¬s.IsUsable ↔ s.bucket = "" ∨ s.linkLifetime < 1 ∨ 604800 < s.linkLifetime := by
  rw [IsUsable, not_and_or, not_and_or, not_not, Int.not_le, Int.not_le]

theorem exists_load_eq_error_iff :
    (∃ fault, load t env usual = .error fault) ↔ ∀ s, load t env usual ≠ .ok s := by
  cases load t env usual with
  | error fault => exact ⟨fun _ => nofun, fun _ => ⟨fault, rfl⟩⟩
  | ok s => exact ⟨nofun, fun none => absurd rfl (none s)⟩

/-- What loading ends with. Settings that are loaded are the merged ones of the document that the
environment selects: each is what the environment says, else what the document says, else the
standard. There is a bucket, links hold for the time that is set, at least one attempt is made, and
there is no deadline if and only if it is set to zero. Loading fails if and only if the file is
there and holds no document whose settings are of their kinds, the merged bucket is empty, or the
merged lifetime of links is out of range, and always as a fault of the settings. -/
theorem load_merges (t : FileTree) (env : Environment) (usual : String) :
    (∀ s, load t env usual = .ok s →
      (∃ document, Selects t env usual document ∧ s = merged env usual document ∧
        s.databaseFile = (textIn env document "DATABASE_PATH" "database_path").getD
          (Path.join s.dataDirectory "applications.db")) ∧
      s.bucket ≠ "" ∧
      (1 ≤ s.linkLifetime ∧ s.linkLifetime ≤ 604800 ∧ s.boundedLifetime = s.linkLifetime) ∧
      1 ≤ s.retry.policy.maxAttempts ∧
      (s.retry.policy.deadline = none ↔ s.retry.deadline = 0)) ∧
    ((∃ fault, load t env usual = .error fault) ↔
      (t.isPresent (Path.ofText (filePath env usual)) = true ∧
        ∀ document, ¬Holds t (filePath env usual) document) ∨
      ∃ document, Selects t env usual document ∧
        ((merged env usual document).bucket = "" ∨ (merged env usual document).linkLifetime < 1 ∨
          604800 < (merged env usual document).linkLifetime)) ∧
    ∀ fault, load t env usual = .error fault → ∃ reason, fault = .config reason := by
  refine ⟨?_, ?_, fun _ => isConfig_of_load⟩
  · intro s loaded
    obtain ⟨document, selects, same, bucket, least, greatest⟩ := load_eq_ok_iff.mp loaded
    refine ⟨⟨document, selects, same, ?_⟩, bucket, ⟨least, greatest, ?_⟩, Nat.le_max_left 1 _, ?_⟩
    · rw [same]
      rfl
    · rw [boundedLifetime, greatestLifetime]
      omega
    · rw [RetrySettings.policy]
      dsimp only
      split <;> simp_all
  · rw [← not_exists_selects_iff, exists_load_eq_error_iff]
    simp only [← not_isUsable_iff]
    constructor
    · intro none
      by_cases selected : ∃ document, Selects t env usual document
      · obtain ⟨document, selects⟩ := selected
        exact .inr ⟨document, selects, fun usable =>
          none _ (load_eq_ok_iff.mpr ⟨document, selects, rfl, usable⟩)⟩
      · exact .inl selected
    · intro refused s loaded
      obtain ⟨document, selects, rfl, usable⟩ := load_eq_ok_iff.mp loaded
      rcases refused with none | ⟨other, selects', unusable⟩
      · exact none ⟨document, selects⟩
      · exact unusable (selects.unique selects' ▸ usable)

end Load

/-- A file system with nothing but a file of settings. -/
def oneFile (text : String) : FileTree := ⟨[(["c.toml"], .file (.ofText text))]⟩

/-- An environment that names the file, and has an empty name of a bucket. -/
def oneVariable : Environment := .ofList [("JOBAPPS_CONFIG", "/c.toml"), ("BUCKET_NAME", "")]

theorem locate_oneFile (text : String) :
    (oneFile text).locate (Path.ofText "/c.toml") = .ok ["c.toml"] :=
  FileTree.locate_name (by decide) (by decide) (by decide) (oneFile text)

/-- What is loaded from the file is checked behind the change of the environment. -/
theorem load_oneFile {text : String} {given : Settings}
    (parsed : (Toml.ofText? text).bind (standard "d").ofMembers? = some given) :
    load (oneFile text) oneVariable "d" = (do
      (given.override oneVariable).check
      .ok (given.override oneVariable)) := by
  have path : filePath oneVariable "d" = "/c.toml" := by decide
  have located := locate_oneFile text
  have isPresent : (oneFile text).isPresent (Path.ofText "/c.toml") = true := by
    rw [FileTree.isPresent, located]
    rfl
  have read : (oneFile text).readText (Path.ofText "/c.toml") = .ok text := by
    have content : (oneFile text).read (Path.ofText "/c.toml") = .ok (.ofText text) := by
      rw [FileTree.read, located]
      rfl
    rw [FileTree.readText, content]
    simp only [bind, Except.bind, Bytes.text?_ofText]
  have loaded : ofEnvironmentFile (oneFile text) oneVariable "d" = .ok given := by
    rw [ofEnvironmentFile, path, if_pos isPresent, ofFile, read]
    simp only [parsed]
  rw [load, loaded]
  rfl

/-- A file that names a bucket, and one that names none. -/
theorem load_merges_oneFile :
    (load (oneFile "bucket='b'") oneVariable "d" = .ok { standard "d" with bucket := "b" } ∧
      ∃ document, Selects (oneFile "bucket='b'") oneVariable "d" document ∧
        { standard "d" with bucket := "b" } = merged oneVariable "d" document ∧
        databaseFile { standard "d" with bucket := "b" } =
          (textIn oneVariable document "DATABASE_PATH" "database_path").getD
            (Path.join "d" "applications.db")) ∧
    load (oneFile "bucket=''") oneVariable "d" = .error (.config "bucket name is required") ∧
      ∃ reason, Fault.config "bucket name is required" = .config reason := by
  have loaded : load (oneFile "bucket='b'") oneVariable "d" =
      .ok { standard "d" with bucket := "b" } :=
    load_oneFile (by decide +kernel : _ = some { standard "d" with bucket := "b" })
  have refused : load (oneFile "bucket=''") oneVariable "d" =
      .error (.config "bucket name is required") :=
    load_oneFile (by decide +kernel : _ = some { standard "d" with bucket := "" })
  exact ⟨⟨loaded, ((load_merges _ _ _).1 _ loaded).1⟩, refused, (load_merges _ _ _).2.2 _ refused⟩

end ApplicationLedger.Settings
