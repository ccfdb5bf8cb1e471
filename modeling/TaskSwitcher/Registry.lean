import TaskSwitcher.Window

/-!
# The registry of open windows

The registry is the authoritative list of windows. It is told of windows by reports and takes commands
in return. A command changes the list at once; the registry then echoes, as reports, what the command
has changed, and nothing else. All commands are recorded, also those without effect.
-/

namespace TaskSwitcher

/-- What can be asked of the compositor. -/
inductive WindowCommand where
  | activate (id : WindowId)
  | close (id : WindowId)
  | fullscreen (id : WindowId) (value : Bool)
deriving DecidableEq

/-- The spelling of a command in records. -/
def WindowCommand.text : WindowCommand → String
  | activate id => "Activate(ToplevelId(" ++ toString id.number.toNat ++ "))"
  | close id => "Close(ToplevelId(" ++ toString id.number.toNat ++ "))"
  | fullscreen id value =>
      "Fullscreen(ToplevelId(" ++ toString id.number.toNat ++ "), " ++ boolText value ++ ")"

/-- The list of windows and the record of commands. -/
structure Registry where
  windows : List Window := []
  /-- The commands received, oldest first. -/
  commands : List WindowCommand := []
  /-- Whether echoes are sent at all. -/
  echoing : Bool := false

namespace Registry

/-- The window with this number. -/
def get? (registry : Registry) (id : WindowId) : Option Window :=
  registry.windows.find? fun window => window.id = id

/-- Whether a window with this number is open. -/
def has (registry : Registry) (id : WindowId) : Bool :=
  registry.windows.any fun window => window.id = id

/-- The registered record of the parent that a window names. -/
def parent? (registry : Registry) (window : Window) : Option Window :=
  window.parent.bind registry.get?

/-- The registry with a snapshot in it, in place of the earlier snapshot of the same window or behind
all others. A window that is activated takes the activation from the others. -/
def put (registry : Registry) (window : Window) : Registry :=
  let others :=
    if window.activated then
      registry.windows.map fun other => { other with activated := false }
    else
      registry.windows
  { registry with
    windows :=
      if registry.has window.id then
        others.map fun other => if other.id = window.id then window else other
      else
        others ++ [window] }

/-- The registry without a window. -/
def remove (registry : Registry) (id : WindowId) : Registry :=
  { registry with windows := registry.windows.filter fun window => window.id ≠ id }

/-- The registry after a command was recorded. -/
def record (registry : Registry) (command : WindowCommand) : Registry :=
  { registry with commands := registry.commands ++ [command] }

/-- The windows as they are when exactly the window `id` is active. -/
def activatedAt (id : WindowId) (window : Window) : Window :=
  { window with activated := window.id = id }

/-- The windows after a command. -/
def effect (windows : List Window) : WindowCommand → List Window
  | .activate id =>
      if windows.any fun window => window.id = id then windows.map (activatedAt id) else windows
  | .close id => windows.filter fun window => window.id ≠ id
  | .fullscreen id value =>
      windows.map fun window =>
        if window.id = id then { window with fullscreen := value } else window

/-- The reports on what a command changes. -/
def echo (windows : List Window) : WindowCommand → List WindowEvent
  | .activate id =>
      if windows.any fun window => window.id = id then
        (windows.filter fun window => window.activated ≠ decide (window.id = id)).map fun window =>
          .activatedChanged (activatedAt id window)
      else
        []
  | .close id => if windows.any fun window => window.id = id then [.closed id] else []
  | .fullscreen id value =>
      (windows.filter fun window => window.id = id && window.fullscreen ≠ value).map fun window =>
        .changed { window with fullscreen := value }

/-- The registry after a command, and the reports it sends. -/
def perform (registry : Registry) (command : WindowCommand) : Registry × List WindowEvent :=
  ({ registry.record command with windows := effect registry.windows command },
    if registry.echoing then echo registry.windows command else [])

/-- The registry after a report from the outside, which it believes. -/
def learn (registry : Registry) : WindowEvent → Registry
  | .added window => registry.put window
  | .changed window => registry.put window
  | .closed id => registry.remove id
  | .activatedChanged window => registry.put window

end Registry

end TaskSwitcher
