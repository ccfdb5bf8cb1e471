import TaskSwitcher.Launch
import TaskSwitcher.Text.Quoted

/-!
# The layer of splashes

The layer shows the splashes of launches above or below the windows. It records what it was asked to do.
-/

namespace TaskSwitcher

/-- What can be asked of the splash layer. -/
inductive SplashCommand where
  | raise (startupId : StartupId)
  | lowerAll
deriving DecidableEq

/-- The spelling of a command in records. -/
def SplashCommand.text : SplashCommand → String
  | raise startupId => "Raise(StartupId(" ++ Text.quoted startupId.token ++ "))"
  | lowerAll => "LowerAll"

/-- The splash layer: the colours the user prefers, and the commands received, oldest first. -/
structure SplashLayer where
  preferDark : Bool
  commands : List SplashCommand := []

/-- The layer after a command. -/
def SplashLayer.perform (layer : SplashLayer) (command : SplashCommand) : SplashLayer :=
  { layer with commands := layer.commands ++ [command] }

end TaskSwitcher
