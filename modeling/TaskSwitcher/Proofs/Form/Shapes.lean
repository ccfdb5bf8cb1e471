import TaskSwitcher.Form.Scenario
import TaskSwitcher.Form.Settings
import TaskSwitcher.Proofs.Form.Edits

/-!
# What the readers know

The shape of each written form of events, scenarios and settings. No reader looks at anything else, so all
of them overlook edits.
-/

namespace TaskSwitcher

open Form

/-! ### Plain values -/

/-- A truth value has no parts to be edited. -/
theorem Form.overlooks_bool : Overlooks .leaf readBool := .leaf fun _ => rfl

/-- A text has no parts to be edited. -/
theorem Form.overlooks_text : Overlooks .leaf readText := .leaf fun _ => rfl

/-- A character has no parts to be edited. -/
theorem Form.overlooks_char : Overlooks .leaf readChar := .leaf fun _ => rfl

/-- An unsigned number of 64 bits has no parts to be edited. -/
theorem Form.overlooks_word64 : Overlooks .leaf readWord64 := .leaf fun _ => rfl

/-- An unsigned number of 32 bits has no parts to be edited. -/
theorem Form.overlooks_word32 : Overlooks .leaf readWord32 := .leaf fun _ => rfl

/-- A signed number has no parts to be edited. -/
theorem Form.overlooks_signed32 : Overlooks .leaf readSigned32 := .leaf fun _ => rfl

/-! ### Reports about windows -/

/-- The id of a window is written as its number. -/
theorem WindowId.overlooks : Overlooks .leaf WindowId.read :=
  overlooks_word64.map WindowId.mk

namespace Window

/-- All fields of a window have plain values. -/
def parts : List (String × Shape) :=
  fieldNames.map (·, .leaf)

/-- A window is written as a record. -/
def shape : Shape := .record parts

/-- A window is read by its seven fields alone. -/
theorem readsParts : ReadsParts parts read := by
  refine .of_fields (by decide) fun given edited agree => ?_
  rw [agree.required "id" rfl WindowId.overlooks, agree.required "app_id" rfl overlooks_text,
    agree.fieldOr "title" rfl overlooks_text, agree.fieldOr "parent" rfl WindowId.overlooks.nullable,
    agree.fieldOr "maximized" rfl overlooks_bool, agree.fieldOr "fullscreen" rfl overlooks_bool,
    agree.fieldOr "activated" rfl overlooks_bool]

/-- No edit of its written form makes another window of it. -/
theorem overlooks : Overlooks shape read :=
  .record readsParts

end Window

namespace WindowEvent

/-- The fields that a report of some kind has. -/
def parts : String → List (String × Shape)
  | "closed" => [("id", .leaf)]
  | _ => Window.parts

/-- A report about a window has a kind. -/
def shape : Shape := .tagged parts

/-- A report that a window closed is read by the id alone. -/
theorem readsParts_closed :
    ReadsParts [("id", .leaf)] fun rest => (fields .refused ["id"] rest).bind fun given =>
      (required given "id" WindowId.read).map closed := by
  refine .of_fields (by decide) fun given edited agree => ?_
  rw [agree.required "id" rfl WindowId.overlooks]

/-- No edit of its written form makes another report of it. -/
theorem overlooks : Overlooks shape read := by
  refine .tagged (fun kind => ?_) fun kind => ?_
  · unfold parts
    split <;> rfl
  · dsimp only
    split
    · exact Window.readsParts.map added
    · exact Window.readsParts.map changed
    · exact Window.readsParts.map activatedChanged
    · exact readsParts_closed
    · exact .nothing

end WindowEvent

/-! ### Reports about launches -/

namespace LaunchStage

/-- A stage is written as its name. -/
def shape : Shape := .choice fun _ => .leaf

/-- A stage is read from its name, with an empty payload or without one. -/
theorem overlooks : Overlooks shape read := by
  refine .choice fun name value changed edit => ?_
  dsimp only
  rw [isBare_of_edit edit]

end LaunchStage

namespace LaunchEvent

/-- A report about a launch is written as a record. -/
def shape : Shape :=
  .record [("stage", LaunchStage.shape), ("app_id", .leaf), ("startup_id", .leaf)]

/-- The fields of a report about a launch are known; others are refused or ignored. -/
theorem overlooks (surplus : Surplus) : Overlooks shape (read surplus) := by
  refine .record (.of_fields (by decide) fun given edited agree => ?_)
  rw [agree.required "stage" rfl LaunchStage.overlooks, agree.required "app_id" rfl overlooks_text,
    agree.required "startup_id" rfl overlooks_text]

end LaunchEvent

/-! ### Actions of the user -/

namespace Handle

/-- A handle is written as its slot and its version. -/
def shape : Shape := .record [("idx", .leaf), ("version", .leaf)]

/-- A handle is read by its two fields alone. -/
theorem overlooks : Overlooks shape read := by
  refine .record (.of_fields (by decide) fun given edited agree => ?_)
  rw [agree.required "idx" rfl overlooks_word32, agree.required "version" rfl overlooks_word32]

end Handle

namespace ActivityRef

/-- What comes with the name of an address. -/
def payload : String → Shape
  | "id" => Handle.shape
  | _ => .leaf

/-- An address is written as a name with what comes with it. -/
def shape : Shape := .choice payload

/-- No edit of its written form makes another address of it. -/
theorem overlooks : Overlooks shape read := by
  refine .choice fun name value changed edit => ?_
  by_cases isId : name = "id"
  · subst isId
    exact congrArg (Option.map id) (Handle.overlooks value changed edit)
  · by_cases isPage : name = "page"
    · subst isPage
      exact congrArg (Option.map page) (overlooks_word64 value changed edit)
    · simp [isId, isPage]

end ActivityRef

namespace SearchInput

/-- What comes with the name of an input is a character or nothing. -/
def shape : Shape := .choice fun _ => .leaf

/-- What readers take for a bare name is all in which they differ, so it has to survive edits. -/
theorem overlooks_readWith {bare : Option Value → Bool}
    (stays : ∀ value changed, Edit .leaf value changed → bare (some changed) = bare (some value)) :
    Overlooks shape (readWith bare) := by
  refine .choice fun name value changed edit => ?_
  have same := stays value changed edit
  have sameChar := overlooks_char value changed edit
  split <;> simp_all

/-- Input to the search overlooks edits where it stands alone. -/
theorem overlooks : Overlooks shape read :=
  overlooks_readWith fun _ _ => isBare_of_edit

/-- Inside an action a bare name may also have an empty record with it, which no edit fills. -/
theorem overlooks_inside : Overlooks shape readInside := by
  refine overlooks_readWith fun value changed edit => ?_
  cases edit with
  | @reorder _ given edited distinct perm =>
      cases given with
      | nil => rw [List.nil_perm.1 perm]
      | cons first rest =>
          cases edited with
          | nil => cases perm.length_eq
          | cons other others => rfl

end SearchInput

namespace UiEvent

/-- The fields that an action of some kind has. -/
def parts : String → List (String × Shape)
  | "clicked" | "close_requested" => [("activity", ActivityRef.shape)]
  | "fullscreen_requested" => [("activity", ActivityRef.shape), ("fullscreen", .leaf)]
  | "resized" => [("activity", ActivityRef.shape), ("width", .leaf), ("height", .leaf)]
  | "focus_changed" => [("activity", ActivityRef.shape), ("has_focus", .leaf)]
  | "page_changed" => [("index", .leaf)]
  | "app_launched" => [("app_id", .leaf)]
  | "usable_area_changed" => [("width", .leaf), ("height", .leaf)]
  | "search" => [("input", SearchInput.shape)]
  | _ => []

/-- An action of the user has a kind. -/
def shape : Shape := .tagged parts

/-- An action that is a kind alone has no fields to read. -/
theorem readsParts_bare (event : UiEvent) : ReadsParts [] (readBare event) where
  ofRecord _ _ _ := rfl
  ofList _ _ _ _ _ _ known _ := by cases known

/-- An action on a card is read by its address and by the fields named besides. -/
theorem readsParts_addressed {others : List (String × Shape)}
    {rest : ActivityRef → Fields → Option UiEvent}
    (distinct : ((("activity", ActivityRef.shape) :: others).map (·.1)).Nodup)
    (respects : ∀ activity given edited, Agree (("activity", ActivityRef.shape) :: others) given edited →
      rest activity edited = rest activity given) :
    ReadsParts (("activity", ActivityRef.shape) :: others)
      (readAddressed (others.map (·.1)) rest) := by
  refine .of_fields distinct fun given edited agree => ?_
  rw [agree.required "activity" rfl ActivityRef.overlooks]
  simp only [respects _ _ _ agree]

/-- The index of a page may be nothing, and the list of an action without fields may be empty. -/
theorem readsParts_pageChanged : ReadsParts [("index", .leaf)] readPageChanged := by
  have reads : ReadsParts [("index", .leaf)] fun value =>
      (fields .refused ["index"] value).bind fun given =>
        (fieldOr given "index" none (readNullable readWord64)).map pageChanged := by
    refine .of_fields (by decide) fun given edited agree => ?_
    rw [agree.fieldOr "index" rfl overlooks_word64.nullable]
  refine ⟨reads.ofRecord, fun before after name shape value changed known edit => ?_⟩
  -- With an item to edit the list is not empty.
  have read := reads.ofList before after name shape value changed known edit
  cases before <;> exact read

/-- An action of some kind is read by the fields of this kind alone. -/
theorem readsParts_kind (kind : String) : ReadsParts (parts kind) (readKind kind) := by
  unfold readKind
  split
  · exact readsParts_addressed (by decide) fun _ _ _ _ => rfl
  · exact readsParts_addressed (by decide) fun _ _ _ _ => rfl
  · refine readsParts_addressed (by decide) fun activity given edited agree => ?_
    rw [agree.required "fullscreen" rfl overlooks_bool]
  · refine readsParts_addressed (by decide) fun activity given edited agree => ?_
    rw [agree.required "width" rfl overlooks_signed32, agree.required "height" rfl overlooks_signed32]
  · refine readsParts_addressed (by decide) fun activity given edited agree => ?_
    rw [agree.required "has_focus" rfl overlooks_bool]
  · exact readsParts_pageChanged
  · refine .of_fields (by decide) fun given edited agree => ?_
    rw [agree.required "app_id" rfl overlooks_text]
  · exact readsParts_bare _
  · refine .of_fields (by decide) fun given edited agree => ?_
    rw [agree.required "width" rfl overlooks_signed32, agree.required "height" rfl overlooks_signed32]
  · exact readsParts_bare _
  · exact readsParts_bare _
  · exact readsParts_bare _
  · refine .of_fields (by decide) fun given edited agree => ?_
    rw [agree.required "input" rfl SearchInput.overlooks_inside]
  · exact .nothing

/-- No edit of its written form makes another action of it. -/
theorem overlooks : Overlooks shape read := by
  refine .tagged (fun kind => ?_) readsParts_kind
  unfold parts
  split <;> rfl

end UiEvent

/-! ### Scenarios -/

namespace ScenarioStep

/-- A step is written as a record of what may happen in it. -/
def shape : Shape := .record [
  ("delay_ms", .leaf), ("overview_visible", .leaf), ("docked", .leaf),
  ("toplevel", WindowEvent.shape), ("launch", LaunchEvent.shape), ("ui", UiEvent.shape)]

/-- No edit of its written form makes another step of it, at any depth. -/
theorem overlooks (surplus : Surplus) : Overlooks shape (read surplus) := by
  refine .record (.of_fields (by decide) fun given edited agree => ?_)
  rw [agree.fieldOr "delay_ms" rfl overlooks_word64.nullable,
    agree.fieldOr "overview_visible" rfl overlooks_bool.nullable,
    agree.fieldOr "docked" rfl overlooks_bool.nullable,
    agree.fieldOr "toplevel" rfl WindowEvent.overlooks.nullable,
    agree.fieldOr "launch" rfl (LaunchEvent.overlooks surplus).nullable,
    agree.fieldOr "ui" rfl UiEvent.overlooks.nullable]

end ScenarioStep

namespace Scenario

/-- A scenario is written as the list of its steps. -/
def shape : Shape := .record [("steps", .list ScenarioStep.shape)]

/-- No edit of its written form makes another scenario of it, at any depth. -/
theorem overlooks (surplus : Surplus) : Overlooks shape (read surplus) := by
  refine .record (.of_fields (by decide) fun given edited agree => ?_)
  rw [agree.fieldOr "steps" rfl (ScenarioStep.overlooks surplus).list]

end Scenario

/-! ### Settings -/

namespace Settings

/-- The settings of the log are all plain. -/
def Logging.shape : Shape :=
  .record [("level", .leaf), ("format", .leaf), ("filter", .leaf)]

/-- The settings of the log are read by their three fields alone. -/
theorem Logging.overlooks (surplus : Surplus) : Overlooks shape (read surplus) := by
  refine .record (.of_fields (by decide) fun given edited agree => ?_)
  dsimp only
  rw [agree.fieldOr "level" rfl overlooks_text, agree.fieldOr "format" rfl overlooks_text,
    agree.fieldOr "filter" rfl overlooks_text]

/-- The settings of the screen are all plain. -/
def Screen.shape : Shape := .record [
  ("usable_width", .leaf), ("usable_height", .leaf), ("scale_factor", .leaf),
  ("prefer_dark", .leaf), ("docked", .leaf), ("overview_visible", .leaf)]

/-- The settings of the screen are read by their six fields alone. -/
theorem Screen.overlooks (surplus : Surplus) : Overlooks shape (read surplus) := by
  refine .record (.of_fields (by decide) fun given edited agree => ?_)
  dsimp only
  rw [agree.fieldOr "usable_width" rfl overlooks_signed32,
    agree.fieldOr "usable_height" rfl overlooks_signed32,
    agree.fieldOr "scale_factor" rfl overlooks_signed32,
    agree.fieldOr "prefer_dark" rfl overlooks_bool, agree.fieldOr "docked" rfl overlooks_bool,
    agree.fieldOr "overview_visible" rfl overlooks_bool]

/-- The settings of launches are all plain. -/
def Launching.shape : Shape := .record [("timeout_ms", .leaf), ("sweep_interval_ms", .leaf)]

/-- The settings of launches are read by their two fields alone. -/
theorem Launching.overlooks (surplus : Surplus) : Overlooks shape (read surplus) := by
  refine .record (.of_fields (by decide) fun given edited agree => ?_)
  dsimp only
  rw [agree.fieldOr "timeout_ms" rfl overlooks_word64,
    agree.fieldOr "sweep_interval_ms" rfl overlooks_word64]

/-- The known applications are a list of plain ids. -/
def Apps.shape : Shape := .record [("known", .list .leaf)]

/-- The known applications are read by their one field alone. -/
theorem Apps.overlooks (surplus : Surplus) : Overlooks shape (read surplus) := by
  refine .record (.of_fields (by decide) fun given edited agree => ?_)
  rw [agree.fieldOr "known" rfl overlooks_text.list]

/-- The settings of the feed are all plain. -/
def Feed.shape : Shape :=
  .record [("mode", .leaf), ("replay_path", .leaf), ("dry_run_interval_ms", .leaf)]

/-- The settings of the feed are read by their three fields alone. -/
theorem Feed.overlooks (surplus : Surplus) : Overlooks shape (read surplus) := by
  refine .record (.of_fields (by decide) fun given edited agree => ?_)
  dsimp only
  rw [agree.fieldOr "mode" rfl overlooks_text,
    agree.fieldOr "replay_path" rfl overlooks_text.nullable,
    agree.fieldOr "dry_run_interval_ms" rfl overlooks_word64]

/-- The settings are written as a record of their five parts. -/
def shape : Shape := .record [
  ("logging", Logging.shape), ("screen", Screen.shape), ("launch", Launching.shape),
  ("apps", Apps.shape), ("source", Feed.shape)]

/-- No edit of their written form makes other settings of them, at any depth. -/
theorem overlooks (surplus : Surplus) : Overlooks shape (read surplus) := by
  refine .record (.of_fields (by decide) fun given edited agree => ?_)
  rw [agree.fieldOr "logging" rfl (Logging.overlooks surplus),
    agree.fieldOr "screen" rfl (Screen.overlooks surplus),
    agree.fieldOr "launch" rfl (Launching.overlooks surplus),
    agree.fieldOr "apps" rfl (Apps.overlooks surplus),
    agree.fieldOr "source" rfl (Feed.overlooks surplus)]

end Settings

end TaskSwitcher
