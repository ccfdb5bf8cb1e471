import Mathlib.Logic.Relation
import TaskSwitcher.Proofs.Form.Shapes

/-!
# Reading what was written

Reading the form of a value gives the value back, for every kind of event, scenario and settings. Together
with the edits that readers overlook this says which forms a value has that may be read in its place.
-/

namespace TaskSwitcher

/-! ### Plain values and fields -/

namespace Form

/-- A truth value is read as it was written. -/
theorem readBool_bool (value : Bool) : readBool (.bool value) = some value :=
  rfl

/-- A text is read as it was written. -/
theorem readText_text (value : String) : readText (.text value) = some value :=
  rfl

/-- A character is written as a text of one character and read from it. -/
theorem readChar_ofList (character : Char) :
    readChar (.text (String.ofList [character])) = some character := by
  simp [readChar]

/-- An unsigned number of 64 bits is in range when it is read. -/
theorem readWord64_ofWord64 (value : UInt64) : readWord64 (ofWord64 value) = some value := by
  have bound := value.toNat_lt
  have inRange : 0 ≤ (value.toNat : Int) ∧ (value.toNat : Int) < 18446744073709551616 := by omega
  rw [ofWord64, readWord64, if_pos inRange, Int.toNat_natCast, UInt64.ofNat_toNat]

/-- A number that fits in 32 bits is in range when it is read. -/
theorem readWord32_of_lt {number : Nat} (bound : number < 4294967296) :
    readWord32 (.int number) = some (UInt32.ofNat number) := by
  have inRange : 0 ≤ (number : Int) ∧ (number : Int) < 4294967296 := by omega
  rw [readWord32, if_pos inRange, Int.toNat_natCast]

/-- A signed number of 32 bits is in range when it is read, the lowest one as well. -/
theorem readSigned32_ofSigned32 (value : Int32) :
    readSigned32 (ofSigned32 value) = some value := by
  have above := value.le_toInt
  have below := value.toInt_lt
  have inRange : -2147483648 ≤ value.toInt ∧ value.toInt ≤ 2147483647 := by omega
  rw [ofSigned32, readSigned32, if_pos inRange, Int32.ofInt_toInt]

variable {α : Type} {read : Reader α} {write : α → Value}

/-- A value that may be absent is read back if its form is never null. -/
theorem readNullable_ofNullable (notNull : read .null = none) (present : Option α)
    (back : ∀ value ∈ present, read (write value) = some value) :
    readNullable read (ofNullable write present) = some present := by
  cases present with
  | none => rfl
  | some value =>
      have back := back value rfl
      rw [ofNullable]
      cases form : write value with
      | null =>
          rw [form, notNull] at back
          cases back
      | _ =>
          rw [form] at back
          exact congrArg (Option.map some) back

/-- A list is read as it was written if each of its items is. -/
theorem readList_map (values : List α) (back : ∀ value ∈ values, read (write value) = some value) :
    readList read (.list (values.map write)) = some values := by
  rw [readList]
  induction values with
  | nil => rfl
  | cons first rest inductionHypothesis =>
      have others := inductionHypothesis fun value member => back value (.tail first member)
      rw [List.map_cons, readItems, back first List.mem_cons_self, others]

variable {given : Fields} {written : Value} {value : α}

/-- A required field that is there is read from its value. -/
theorem required_eq (name : String) (found : given.lookup name = some written)
    (back : read written = some value) : required given name read = some value := by
  rw [required, found]
  exact back

/-- A field that may be absent is read from its value if it is there. -/
theorem fieldOr_eq (name : String) {absent : α} (found : given.lookup name = some written)
    (back : read written = some value) : fieldOr given name absent read = some value := by
  rw [fieldOr, found]
  exact back

/-- The kind in front is taken off, and the other fields are left for the reader of the kind. -/
theorem tagged_kind (kind : String) {rest : Fields} (unkinded : rest.lookup "kind" = none) :
    tagged (.record (("kind", .text kind) :: rest)) = some (kind, .record rest) := by
  have others : rest.filter (fun field => decide (field.1 ≠ "kind")) = rest := by
    refine List.filter_eq_self.2 fun field member => ?_
    have apart := List.lookup_eq_none_iff.1 unkinded field member
    rw [bne_iff_ne] at apart
    simpa using apart.symm
  simp only [tagged, List.lookup_cons_self]
  rw [List.filter_cons_of_neg (by simp), others]

end Form

open Form

/-! ### Reports -/

/-- The id of a window is read as it was written. -/
theorem WindowId.read_form (id : WindowId) : read id.form = some id :=
  congrArg (Option.map WindowId.mk) (readWord64_ofWord64 id.number)

/-- A window is read as it was written, with or without a parent. -/
theorem Window.read_form (window : Window) : read window.form = some window := by
  have parent : readNullable WindowId.read (ofNullable WindowId.form window.parent) =
      some window.parent := readNullable_ofNullable rfl _ fun id _ => id.read_form
  rw [read, form, fields, Option.bind_eq_bind, Option.bind_some,
    required_eq "id" rfl window.id.read_form, required_eq "app_id" rfl (readText_text _),
    fieldOr_eq "title" rfl (readText_text _), fieldOr_eq "parent" rfl parent,
    fieldOr_eq "maximized" rfl (readBool_bool _), fieldOr_eq "fullscreen" rfl (readBool_bool _),
    fieldOr_eq "activated" rfl (readBool_bool _)]
  rfl

/-- A report about a window is read as it was written, whatever its kind. -/
theorem WindowEvent.read_form (event : WindowEvent) : read event.form = some event := by
  cases event with
  | added window =>
      rw [read, form, tagged_kind "added" rfl, Option.bind_eq_bind, Option.bind_some]
      dsimp only
      exact congrArg (Option.map added) window.read_form
  | changed window =>
      rw [read, form, tagged_kind "changed" rfl, Option.bind_eq_bind, Option.bind_some]
      dsimp only
      exact congrArg (Option.map changed) window.read_form
  | activatedChanged window =>
      rw [read, form, tagged_kind "activated_changed" rfl, Option.bind_eq_bind, Option.bind_some]
      dsimp only
      exact congrArg (Option.map activatedChanged) window.read_form
  | closed id =>
      rw [read, form, tagged_kind "closed" rfl, Option.bind_eq_bind, Option.bind_some]
      dsimp only
      rw [fields, Option.bind_eq_bind, Option.bind_some, required_eq "id" rfl id.read_form]
      rfl

/-- The stage of a launch is read from its name alone. -/
theorem LaunchStage.read_form (stage : LaunchStage) : read stage.form = some stage := by
  cases stage <;> rfl

/-- A report about a launch is read as it was written, also where unknown fields are refused. -/
theorem LaunchEvent.read_form (surplus : Surplus) (event : LaunchEvent) :
    read surplus event.form = some event := by
  rw [read, form, fields, Option.bind_eq_bind, Option.bind_some,
    required_eq "stage" rfl event.stage.read_form, required_eq "app_id" rfl (readText_text _),
    required_eq "startup_id" rfl (readText_text _)]
  rfl

/-! ### Actions of the user -/

/-- A handle as it comes out of a form is read back unchanged. -/
theorem Handle.read_form {handle : Handle} (normal : handle.IsNormal) :
    read handle.form = some handle := by
  obtain ⟨inside, odd, null⟩ := normal
  have bound : handle.slot < 4294967296 := by
    rw [nullSlot] at inside
    omega
  have version : readWord32 (ofWord32 handle.version) = some handle.version := by
    rw [ofWord32, readWord32_of_lt handle.version.toNat_lt, UInt32.ofNat_toNat]
  have slot : (UInt32.ofNat handle.slot).toNat = handle.slot := UInt32.toNat_ofNat_of_lt' bound
  have same : normalized (UInt32.ofNat handle.slot) handle.version = handle := by
    rw [normalized, slot]
    split
    · next isNull =>
        obtain ⟨_, _⟩ := handle
        cases isNull
        cases null rfl
        rfl
    · rw [if_neg (by rw [odd]; decide)]
  rw [read, form, fields, Option.bind_eq_bind, Option.bind_some,
    required_eq "idx" rfl (readWord32_of_lt bound), required_eq "version" rfl version]
  exact congrArg some same

namespace ActivityRef

/-- The address is by page, or by a handle as it comes out of a form. -/
def IsNormal : ActivityRef → Prop
  | .id handle => handle.IsNormal
  | .page _ => True

/-- A normal address is read as it was written. -/
theorem read_form {reference : ActivityRef} (normal : reference.IsNormal) :
    read reference.form = some reference := by
  cases reference with
  | id handle =>
      rw [read, form, choice, Option.bind_eq_bind, Option.bind_some]
      change Option.map id (Handle.read handle.form) = some (.id handle)
      rw [Handle.read_form normal, Option.map_some]
  | page index =>
      rw [read, form, choice, Option.bind_eq_bind, Option.bind_some]
      change Option.map page (readWord64 (ofWord64 index)) = some (.page index)
      rw [readWord64_ofWord64, Option.map_some]

end ActivityRef

/-- Input to the search is read as it was written by every reader that takes a bare name. -/
theorem SearchInput.readWith_form (input : SearchInput) {bare : Option Value → Bool}
    (bareName : bare none = true) : readWith bare input.form = some input := by
  cases input with
  | char character => exact congrArg (Option.map char) (readChar_ofList character)
  | _ => exact if_pos bareName

namespace UiEvent

/-- The address of a card, if the action has one, is as it comes out of a form. -/
def IsNormal : UiEvent → Prop
  | clicked activity | closeRequested activity | fullscreenRequested activity _
  | resized activity _ _ | focusChanged activity _ => activity.IsNormal
  | _ => True

/-- The reader of an action takes the address from its field and hands all fields on. -/
theorem readAddressed_form {activity : ActivityRef} (normal : activity.IsNormal)
    (others : List String) (parts : Fields) {rest : ActivityRef → Fields → Option UiEvent} :
    readAddressed others rest (.record (("activity", activity.form) :: parts)) =
      rest activity (("activity", activity.form) :: parts) := by
  rw [readAddressed, fields, Option.bind_eq_bind, Option.bind_some,
    required_eq "activity" rfl (ActivityRef.read_form normal), Option.bind_eq_bind,
    Option.bind_some]

/-- An action is read by the reader of its kind. -/
theorem read_formOf (kind : String) {parts : Fields} (unkinded : parts.lookup "kind" = none) :
    read (formOf kind parts) = readKind kind (.record parts) := by
  rw [read, formOf, tagged_kind kind unkinded]
  rfl

/-- A normal action is read as it was written, whatever its kind. -/
theorem read_form {event : UiEvent} (normal : event.IsNormal) : read event.form = some event := by
  cases event with
  | clicked activity =>
      rw [form, read_formOf _ rfl]
      exact readAddressed_form normal ..
  | closeRequested activity =>
      rw [form, read_formOf _ rfl]
      exact readAddressed_form normal ..
  | fullscreenRequested activity fullscreen =>
      rw [form, read_formOf _ rfl]
      refine (readAddressed_form normal ..).trans ?_
      rw [required_eq "fullscreen" rfl (readBool_bool _)]
      rfl
  | resized activity width height =>
      rw [form, read_formOf _ rfl]
      refine (readAddressed_form normal ..).trans ?_
      rw [required_eq "width" rfl (readSigned32_ofSigned32 _),
        required_eq "height" rfl (readSigned32_ofSigned32 _)]
      rfl
  | focusChanged activity hasFocus =>
      rw [form, read_formOf _ rfl]
      refine (readAddressed_form normal ..).trans ?_
      rw [required_eq "has_focus" rfl (readBool_bool _)]
      rfl
  | pageChanged index =>
      have back : readNullable readWord64 (ofNullable ofWord64 index) = some index :=
        readNullable_ofNullable rfl _ fun value _ => readWord64_ofWord64 value
      rw [form, read_formOf _ rfl]
      exact congrArg (Option.map pageChanged) (fieldOr_eq "index" rfl back)
  | appLaunched appId =>
      rw [form, read_formOf _ rfl]
      rfl
  | usableAreaChanged width height =>
      rw [form, read_formOf _ rfl]
      simp only [readKind, fields, Option.bind_eq_bind, Option.bind_some]
      rw [required_eq "width" rfl (readSigned32_ofSigned32 _),
        required_eq "height" rfl (readSigned32_ofSigned32 _)]
      rfl
  | search input =>
      have back : SearchInput.readInside input.form = some input := input.readWith_form rfl
      rw [form, read_formOf _ rfl]
      exact congrArg (Option.map search) (required_eq "input" rfl back)
  | _ => rfl

end UiEvent

/-! ### Scenarios -/

namespace ScenarioStep

/-- The action of the step, if it has one, is as it comes out of a form. -/
def IsNormal (step : ScenarioStep) : Prop :=
  ∀ event ∈ step.ui, event.IsNormal

/-- A step is read as it was written; the parts that it has not are written as nothing. -/
theorem read_form (surplus : Surplus) {step : ScenarioStep} (normal : step.IsNormal) :
    read surplus step.form = some step := by
  have delay : readNullable readWord64 (ofNullable ofWord64 step.delay) = some step.delay :=
    readNullable_ofNullable rfl _ fun value _ => readWord64_ofWord64 value
  have flag (value : Option Bool) : readNullable readBool (ofNullable .bool value) = some value :=
    readNullable_ofNullable rfl _ fun value _ => readBool_bool value
  have window : readNullable WindowEvent.read (ofNullable WindowEvent.form step.window) =
      some step.window := readNullable_ofNullable rfl _ fun event _ => event.read_form
  have launch : readNullable (LaunchEvent.read surplus) (ofNullable LaunchEvent.form step.launch) =
      some step.launch := readNullable_ofNullable rfl _ fun event _ => event.read_form surplus
  have ui : readNullable UiEvent.read (ofNullable UiEvent.form step.ui) = some step.ui :=
    readNullable_ofNullable rfl _ fun event given => UiEvent.read_form (normal event given)
  rw [read, form, fields, Option.bind_eq_bind, Option.bind_some, fieldOr_eq "delay_ms" rfl delay,
    fieldOr_eq "overview_visible" rfl (flag _), fieldOr_eq "docked" rfl (flag _),
    fieldOr_eq "toplevel" rfl window, fieldOr_eq "launch" rfl launch, fieldOr_eq "ui" rfl ui]
  rfl

end ScenarioStep

namespace Scenario

/-- The actions of all steps are as they come out of a form. -/
def IsNormal (scenario : Scenario) : Prop :=
  ∀ step ∈ scenario.steps, step.IsNormal

/-- A scenario is read as it was written, step by step. -/
theorem read_form (surplus : Surplus) {scenario : Scenario} (normal : scenario.IsNormal) :
    read surplus scenario.form = some scenario := by
  have steps : readList (ScenarioStep.read surplus)
      (.list (scenario.steps.map ScenarioStep.form)) = some scenario.steps :=
    readList_map _ fun step member => ScenarioStep.read_form surplus (normal step member)
  rw [read, form, fields, Option.bind_eq_bind, Option.bind_some, fieldOr_eq "steps" rfl steps]
  rfl

end Scenario

/-! ### Settings -/

namespace Settings

/-- The settings of the log are read as they were written. -/
theorem Logging.read_form (surplus : Surplus) (part : Logging) :
    read surplus part.form = some part := by
  rfl

/-- The settings of the screen are read as they were written. -/
theorem Screen.read_form (surplus : Surplus) (part : Screen) :
    read surplus part.form = some part := by
  rw [read, form, fields, Option.bind_eq_bind, Option.bind_some]
  dsimp only
  rw [fieldOr_eq "usable_width" rfl (readSigned32_ofSigned32 _),
    fieldOr_eq "usable_height" rfl (readSigned32_ofSigned32 _),
    fieldOr_eq "scale_factor" rfl (readSigned32_ofSigned32 _),
    fieldOr_eq "prefer_dark" rfl (readBool_bool _), fieldOr_eq "docked" rfl (readBool_bool _),
    fieldOr_eq "overview_visible" rfl (readBool_bool _)]
  rfl

/-- The settings of launches are read as they were written. -/
theorem Launching.read_form (surplus : Surplus) (part : Launching) :
    read surplus part.form = some part := by
  rw [read, form, fields, Option.bind_eq_bind, Option.bind_some]
  dsimp only
  rw [fieldOr_eq "timeout_ms" rfl (readWord64_ofWord64 _),
    fieldOr_eq "sweep_interval_ms" rfl (readWord64_ofWord64 _)]
  rfl

/-- The list of known applications is read as it was written. -/
theorem Apps.read_form (surplus : Surplus) (part : Apps) : read surplus part.form = some part := by
  have known : readList readText (.list (part.known.map .text)) = some part.known :=
    readList_map _ fun app _ => readText_text app
  rw [read, form, fields, Option.bind_eq_bind, Option.bind_some, fieldOr_eq "known" rfl known]
  rfl

/-- The settings of the feed are read as they were written, with or without a file to replay. -/
theorem Feed.read_form (surplus : Surplus) (part : Feed) : read surplus part.form = some part := by
  have path : readNullable readText (ofNullable .text part.replayPath) = some part.replayPath :=
    readNullable_ofNullable rfl _ fun value _ => readText_text value
  rw [read, form, fields, Option.bind_eq_bind, Option.bind_some]
  dsimp only
  rw [fieldOr_eq "mode" rfl (readText_text _), fieldOr_eq "replay_path" rfl path,
    fieldOr_eq "dry_run_interval_ms" rfl (readWord64_ofWord64 _)]
  rfl

/-- Settings are read as they were written, part by part. -/
theorem read_form (surplus : Surplus) (settings : Settings) :
    read surplus settings.form = some settings := by
  rw [read, form, fields, Option.bind_eq_bind, Option.bind_some,
    fieldOr_eq "logging" rfl (settings.logging.read_form surplus),
    fieldOr_eq "screen" rfl (settings.screen.read_form surplus),
    fieldOr_eq "launch" rfl (settings.launch.read_form surplus),
    fieldOr_eq "apps" rfl (settings.apps.read_form surplus),
    fieldOr_eq "source" rfl (settings.source.read_form surplus)]
  rfl

end Settings

/-! ### All written forms -/

/-- The form of a value is read as this value, if handles in it are as they come out of a form. A form that
is read as some value is read as the same value after any edits. -/
structure Form.Faithful {α : Type} (shape : Shape) (IsNormal : α → Prop) (read : Reader α)
    (form : α → Value) : Prop where
  readBack : ∀ value, IsNormal value → read (form value) = some value
  edited : ∀ written edited value, Relation.ReflTransGen (Edit shape) written edited →
    read written = some value → read edited = some value

/-- A reader that overlooks one edit overlooks any number of them. -/
theorem Form.Faithful.of_overlooks {α : Type} {shape : Shape} {IsNormal : α → Prop}
    {read : Reader α} {form : α → Value}
    (readBack : ∀ value, IsNormal value → read (form value) = some value)
    (overlooks : Overlooks shape read) : Faithful shape IsNormal read form where
  readBack := readBack
  edited written edited value edits before := by
    induction edits with
    | refl => exact before
    | tail _ last inductionHypothesis => exact (overlooks _ _ last).trans inductionHypothesis

/-- Reading undoes writing for all events, scenarios and settings, and goes on doing so however the fields
of the records are ordered and whatever fields are added that the reader does not know. -/
theorem written_forms_faithful (surplus : Surplus) :
    Faithful Window.shape (fun _ => True) Window.read Window.form ∧
      Faithful WindowEvent.shape (fun _ => True) WindowEvent.read WindowEvent.form ∧
      Faithful LaunchEvent.shape (fun _ => True) (LaunchEvent.read surplus) LaunchEvent.form ∧
      Faithful ActivityRef.shape ActivityRef.IsNormal ActivityRef.read ActivityRef.form ∧
      Faithful SearchInput.shape (fun _ => True) SearchInput.read SearchInput.form ∧
      Faithful UiEvent.shape UiEvent.IsNormal UiEvent.read UiEvent.form ∧
      Faithful ScenarioStep.shape ScenarioStep.IsNormal (ScenarioStep.read surplus)
        ScenarioStep.form ∧
      Faithful Scenario.shape Scenario.IsNormal (Scenario.read surplus) Scenario.form ∧
      Faithful Settings.shape (fun _ => True) (Settings.read surplus) Settings.form :=
  ⟨.of_overlooks (fun window _ => window.read_form) Window.overlooks,
    .of_overlooks (fun event _ => event.read_form) WindowEvent.overlooks,
    .of_overlooks (fun event _ => event.read_form surplus) (LaunchEvent.overlooks surplus),
    .of_overlooks (fun _ normal => ActivityRef.read_form normal) ActivityRef.overlooks,
    .of_overlooks (fun input _ => input.readWith_form rfl) SearchInput.overlooks,
    .of_overlooks (fun _ normal => UiEvent.read_form normal) UiEvent.overlooks,
    .of_overlooks (fun _ normal => ScenarioStep.read_form surplus normal)
      (ScenarioStep.overlooks surplus),
    .of_overlooks (fun _ normal => Scenario.read_form surplus normal) (Scenario.overlooks surplus),
    .of_overlooks (fun settings _ => settings.read_form surplus) (Settings.overlooks surplus)⟩

example : UiEvent.read (.record [("activity", .record [("page", .int 3)]), ("note", .list []),
    ("kind", .text "clicked")]) = some (.clicked (.page 3)) := by
  rfl

end TaskSwitcher
