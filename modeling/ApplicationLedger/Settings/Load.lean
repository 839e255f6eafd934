/-
This file loads settings. The environment says which file to read, and what it sets itself goes
before what the file says, which goes before the standard settings. An empty variable counts as one
that is not set.
-/

import ApplicationLedger.Settings.Document

namespace ApplicationLedger

/-- The values of the variables that are set. -/
abbrev Environment := String → Option String

namespace Environment

/-- The environment with these variables and no others. -/
def ofList (entries : List (String × String)) : Environment := fun name => entries.lookup name

/-- The value of a variable, unless it is empty. -/
def value? (env : Environment) (name : String) : Option String :=
  (env name).filter (!·.isEmpty)

/-- The directory for the data of a user: that for all programs' data, or the usual one in the home
directory. -/
def dataDirectory (env : Environment) : String :=
  match (env "XDG_DATA_HOME").filter (·.startsWith "/"), env.value? "HOME" with
  | some shared, _ => Path.join shared "jobapps"
  | none, some home => Path.join (Path.join home ".local/share") "jobapps"
  | none, none => "data"

end Environment

namespace Settings

/-- The settings in a file. -/
def ofFile (t : FileTree) (usual path : String) : Except Fault Settings :=
  match t.readText (Path.ofText path) with
  | .error fault =>
    .error (.config ("Failed to read " ++ Text.quotedPath path ++ ": " ++ fault.message))
  | .ok text =>
    match (Toml.ofText? text).bind (standard usual).ofMembers? with
    | none => .error (.config ("Failed to parse " ++ Text.quotedPath path ++ ": <toml>"))
    | some settings => .ok settings

/-- The data directory before a file is read; `usual` is that for the user. -/
def startDirectory (env : Environment) (usual : String) : String :=
  (env.value? "JOBAPPS_DATA_DIR").getD usual

/-- The file that settings are read from, if it exists. -/
def filePath (env : Environment) (usual : String) : String :=
  (env.value? "JOBAPPS_CONFIG").getD (Path.join (startDirectory env usual) "config.toml")

/-- The settings with those that the environment sets itself. -/
def override (env : Environment) (s : Settings) : Settings :=
  { s with
    dataDirectory := (env.value? "JOBAPPS_DATA_DIR").getD s.dataDirectory
    databasePath := (env.value? "DATABASE_PATH").or s.databasePath
    bucket := (env.value? "BUCKET_NAME").getD s.bucket
    listenAddress := (env.value? "JOBAPPS_LISTEN").getD s.listenAddress
    publicUrl := (env.value? "JOBAPPS_PUBLIC_URL").getD s.publicUrl
    signingSecret := (env.value? "JOBAPPS_SIGNING_SECRET").or s.signingSecret }

/-- The settings of the file that the environment names, or the standard ones if it does not
exist. -/
def ofEnvironmentFile (t : FileTree) (env : Environment) (usual : String) :
    Except Fault Settings :=
  if t.isPresent (Path.ofText (filePath env usual)) then ofFile t usual (filePath env usual)
  else .ok (standard (startDirectory env usual))

/-- Loads the settings. -/
def load (t : FileTree) (env : Environment) (usual : String) : Except Fault Settings := do
  let settings := (← ofEnvironmentFile t env usual).override env
  settings.check
  .ok settings

end Settings

end ApplicationLedger
