import Proximity.Api.State
import Proximity.Config.File
/-!
# Setting up the daemon's state

The state is built from a configuration that must validate. Credentials are kept in files
under the configured data directory (or the default one), and sync is set up when a base
URL is configured.

`AppState.load` reads the configuration file named by `NEARLINK_CONFIG` (else the default
path), falling back to the defaults when there is no such file, with the environment's
overrides on top.
-/

namespace Proximity

/-- Why the daemon's state could not be set up. -/
inductive StartupError where
  /-- The configuration does not validate. -/
  | invalidConfig (e : ConfigError)
  /-- The configuration file at the path could not be read. -/
  | loadFailed (path : String) (e : ConfigError)

namespace StartupError

/-- What was being done. -/
def context : StartupError → String
  | invalidConfig _ => "Invalid configuration"
  | loadFailed p _ => "Failed to load configuration from " ++ p

/-- The configuration error underneath. -/
def cause : StartupError → ConfigError
  | invalidConfig e => e
  | loadFailed _ e => e

/-- The causes under the context, outermost first: the configuration error and, when the
sources failed, the reader's own error. -/
def causes (e : StartupError) : List String :=
  match e.cause with
  | .parseError m => [(ConfigError.parseError m).message, m]
  | c => [c.message]

end StartupError

/-- The variable that names the configuration file. -/
def configPathVariable : String := "NEARLINK_CONFIG"

/-- The state for a configuration: a file store at the credentials directory and, when a
base URL is configured, sync against it. -/
def AppState.fromConfig (c : Config) : Except StartupError AppState :=
  match c.validate with
  | .error e => .error (.invalidConfig e)
  | .ok () =>
    let syncBase := c.sync.baseUrl.bind fun u => (Url.parse u).toOption
    .ok { config := c, store := CredentialStore.emptyFiles c.credentialsDir, syncBase }

/-- The configuration path the environment names, else the default one. -/
def configPath (env : List (String × String)) : String :=
  ((env.find? (·.1 == configPathVariable)).map (·.2)).getD Config.defaultPath

/-- The state from the configuration file the environment names and the overrides it
holds; `cwd` is the working directory messages name files from. -/
def AppState.load (fs : FileTree) (env : List (String × String)) (cwd : String) :
    Except StartupError AppState :=
  let path := configPath env
  match Config.loadOrDefault fs env cwd path with
  | .error e => .error (.loadFailed path e)
  | .ok c => AppState.fromConfig c

end Proximity
