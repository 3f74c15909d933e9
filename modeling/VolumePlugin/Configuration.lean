/-
# Configuration and environment

Settings are kept in a tree of objects, which are settings themselves where they stand in the
place of one. A setting is looked up along its path; one that is missing reads as null, and
looking into anything but such an object is a failure. The environment holds the access token
and may override the region; the configuration names the variables.
-/
import VolumePlugin.Value.Access

namespace VolumePlugin

/-- The settings of the plugin. -/
structure Configuration where
  root : Value

namespace Configuration

/-- The configuration that a value describes. -/
def ofValue (value : Value) : Configuration where
  root := value.asSettings

/-- The setting at the end of a path. -/
def read (configuration : Configuration) (path : List String) : Except Failure Value :=
  path.foldlM (fun place name => return Value.memberOr (← place.membersFor name) name .null)
    configuration.root

/-- The name of the plugin. -/
def pluginName (configuration : Configuration) : Except Failure Value :=
  configuration.read ["identity", "name"]

/-- The version of the plugin. -/
def pluginVersion (configuration : Configuration) : Except Failure Value :=
  configuration.read ["identity", "version"]

/-- The services that the plugin offers. -/
def services (configuration : Configuration) : Except Failure Value :=
  configuration.read ["identity", "capabilities", "Service"]

/-- The region where the environment names none. -/
def region (configuration : Configuration) : Except Failure Value :=
  configuration.read ["controller", "region"]

/-- The address of the provider. -/
def apiUrl (configuration : Configuration) : Except Failure Value :=
  configuration.read ["controller", "api_url"]

/-- The seconds that a request to the provider may take. -/
def requestTimeout (configuration : Configuration) : Except Failure Value :=
  configuration.read ["controller", "request_timeout"]

/-- The environment variable that holds the access token. -/
def tokenVariable (configuration : Configuration) : Except Failure Value :=
  configuration.read ["controller", "access_token_env"]

/-- The environment variable that overrides the region. -/
def regionVariable (configuration : Configuration) : Except Failure Value :=
  configuration.read ["controller", "region_env"]

/-- The settings that the plugin comes with. -/
def standard : Configuration where
  root := .settings [
    ("identity", .settings [
      ("name", .text "dobs.csi.digitalocean.com"),
      ("version", .text "0.1.0"),
      ("capabilities", .settings [("Service", .list [.text "CONTROLLER_SERVICE"])])]),
    ("controller", .settings [
      ("region", .text "nyc3"),
      ("api_url", .text "https://api.digitalocean.com"),
      ("request_timeout", .int 30),
      ("access_token_env", .text "DIGITALOCEAN_ACCESS_TOKEN"),
      ("region_env", .text "BLOCK_CSI_REGION")])]

end Configuration

/-- The variables that are set, with their values. -/
abbrev Environment := List (String × String)

namespace Environment

/-- The value of a variable, none where it is unset or empty. The name has to be a text. -/
def read (environment : Environment) (name : Value) : Except Failure (Option String) := do
  let name ← name.requireText
  return (environment.lookup name).filter (· ≠ "")

end Environment

/-- The region to work in: the environment's, or else the configuration's. -/
def regionOf (environment : Environment) (configuration : Configuration) :
    Except Failure Value := do
  match ← environment.read (← configuration.regionVariable) with
  | some region => return .text region
  | none => configuration.region

end VolumePlugin
