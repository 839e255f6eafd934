/-
This file holds the settings of the service: where it keeps records and files, where it listens, how
links are made and how conflicts are tried again. Settings that were loaded have been checked.
-/

import ApplicationLedger.FileTree
import ApplicationLedger.Fault
import ApplicationLedger.Retry.Backoff

namespace ApplicationLedger

/-- How conflicts are tried again, in milliseconds; no deadline is written as zero. -/
structure RetrySettings where
  maxAttempts : Nat
  baseDelay : Nat
  maxDelay : Nat
  deadline : Nat
  deriving DecidableEq, Repr

namespace RetrySettings

/-- The settings of the standard policy. -/
def standard : RetrySettings :=
  let milliseconds (duration : Duration) : Nat := duration / Duration.perMillisecond
  ⟨RetryPolicy.standard.maxAttempts, milliseconds RetryPolicy.standard.baseDelay,
    milliseconds RetryPolicy.standard.maxDelay,
    (RetryPolicy.standard.deadline.map milliseconds).getD 0⟩

/-- The policy that settings ask for; there is at least one attempt. -/
def policy (s : RetrySettings) : RetryPolicy :=
  ⟨max 1 s.maxAttempts, .ofMilliseconds s.baseDelay, .ofMilliseconds s.maxDelay,
    if s.deadline = 0 then none else some (.ofMilliseconds s.deadline)⟩

end RetrySettings

/-- The settings of the service. -/
structure Settings where
  dataDirectory : String
  /-- The database file, if not the one in the data directory. -/
  databasePath : Option String
  bucket : String
  listenAddress : String
  publicUrl : String
  /-- What links are signed with; without it, a random secret for each run. -/
  signingSecret : Option String
  /-- How long a transaction waits for another one, in milliseconds. -/
  busyTimeout : Nat
  retry : RetrySettings
  /-- How long links hold, in seconds. -/
  linkLifetime : Int
  deriving DecidableEq, Repr

namespace Settings

/-- The settings where nothing is set. -/
def standard (dataDirectory : String) : Settings where
  dataDirectory
  databasePath := none
  bucket := "job-applications"
  listenAddress := "127.0.0.1:7878"
  publicUrl := "http://127.0.0.1:8080"
  signingSecret := none
  busyTimeout := 5000
  retry := .standard
  linkLifetime := 900

/-- The longest time that links may hold: seven days. -/
def greatestLifetime : Int := 7 * 24 * 60 * 60

/-! ### What follows from settings -/

/-- The database file. -/
def databaseFile (s : Settings) : String :=
  s.databasePath.getD (Path.join s.dataDirectory "applications.db")

/-- The directory of the buckets. -/
def bucketRoot (s : Settings) : String := Path.join s.dataDirectory "blobs"

/-- The directory of the log files. -/
def logDirectory (s : Settings) : String := Path.join s.dataDirectory "logs"

/-- How long links hold, whether the settings have been checked or not. -/
def boundedLifetime (s : Settings) : Int := max 1 (min s.linkLifetime greatestLifetime)

/-! ### Checking -/

/-- Fails if the settings cannot be used: there has to be a bucket, and links have to hold for a
time that is allowed. -/
def check (s : Settings) : Except Fault Unit :=
  if s.bucket.isEmpty then .error (.config "bucket name is required")
  else if s.linkLifetime < 1 ∨ greatestLifetime < s.linkLifetime then
    .error (.config ("links.ttl_secs must be between 1 and " ++ toString greatestLifetime ++
      ", got " ++ toString s.linkLifetime))
  else .ok ()

end Settings

end ApplicationLedger
