/-
This file starts the service: it loads the settings, opens the stores and listens. Each of these
steps can fail, and the service ends with a line that says which one did.
-/

import ApplicationLedger.Message.Address
import ApplicationLedger.Service.Basic
import ApplicationLedger.Settings.Load

namespace ApplicationLedger

/-- Why the service does not start. -/
structure StartFault where
  /-- The step that failed, as the first line of what the service says. -/
  line : String
  /-- What failed in this step. -/
  cause : String
  deriving DecidableEq, Repr

/-- Starts the service with the settings of an environment; `usual` is the user's data directory. -/
def Service.start (env : Environment) (usual : String) (t : FileTree) (ids : IdSource)
    (draws : Draws) : Except StartFault Service :=
  match Settings.load t env usual with
  | .error fault => .error ⟨"Error: Failed to load configuration", fault.message⟩
  | .ok settings =>
    -- The log directory is made if it can be; the service starts without it.
    let t := (t.createDirectories (Path.ofText settings.logDirectory)).toOption.getD t
    match Service.open? settings t ids draws with
    | .error fault => .error ⟨"Error: Failed to open stores", fault.message⟩
    | .ok service =>
      if Address.canListen settings.listenAddress then .ok service
      else .error ⟨"Error: Failed to start IPC server", settings.listenAddress⟩

end ApplicationLedger
