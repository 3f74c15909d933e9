/-
# The setting of a call

A call is made in an environment, under a configuration and for the region that was chosen when
the service was set up. The client of a call is built anew from environment and configuration.
-/
import VolumePlugin.Call.Deadline
import VolumePlugin.Client

namespace VolumePlugin

/-- Where a call is made. -/
structure Setting where
  environment : Environment
  configuration : Configuration
  region : Value

namespace Setting

/-- The client of a call. -/
def client (setting : Setting) : Action Client :=
  Client.ofSettings setting.environment setting.configuration

/-- The time for the next request of a call. -/
def timeLeft (setting : Setting) (call : String) : Action Value :=
  VolumePlugin.timeLeft setting.configuration call

end Setting

end VolumePlugin
