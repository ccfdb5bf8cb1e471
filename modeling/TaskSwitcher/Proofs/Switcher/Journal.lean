import TaskSwitcher.Switcher.Handling

/-!
# The journal accounts for everything

The overview changes its carousel and its announcements itself; everything around it changes by commands
alone, and each command is in the journal. `Performs` says so of two situations and the commands between
them, and `PerformsOnly` of which kind these are.
-/

namespace TaskSwitcher

/-- The command asks for a picture or withdraws such a request. -/
def Call.AboutPicture : Call → Prop
  | .thumbnailRequest .. | .thumbnailCancel _ => True
  | _ => False

namespace Switcher

/-- The situation after a command alone. The number of a request for a picture is up to the maker of
pictures. -/
def obey (switcher : Switcher) : Call → Switcher
  | .window command => switcher.commandWindow command
  | .splash command => switcher.commandSplash command
  | .feedback name => switcher.giveFeedback name
  | .thumbnailRequest _ activity window size => switcher.askThumbnail activity window size
  | .thumbnailCancel request => switcher.cancelThumbnail (some request)
  | .gridReset => switcher.resetGrid
  | .gridFocusSearch => switcher.focusAppSearch
  | .gridSearch input _ => (switcher.search input).1

/-- The situation with other cards and announcements. -/
def withOwn (switcher : Switcher) (carousel : Carousel) (signals : List Signal) : Switcher :=
  { switcher with carousel, signals }

/-- From `before` to `after` the overview gave these commands, in this order. Besides, only its own cards
and announcements changed. -/
structure Performs (before : Switcher) (calls : List Call) (after : Switcher) : Prop where
  parts : after = (calls.foldl obey before).withOwn after.carousel after.signals
  journal : after.calls = before.calls ++ calls

/-- All commands from `before` to `after` are of one kind. -/
def PerformsOnly (allowed : Call → Prop) (before after : Switcher) : Prop :=
  ∃ calls, Performs before calls after ∧ ∀ call ∈ calls, allowed call

variable (switcher : Switcher) (handle : Handle) (window : Window) (activity : Activity)

/-- A command does not look at cards and announcements. -/
theorem obey_withOwn (carousel : Carousel) (signals : List Signal) (call : Call) :
    (switcher.withOwn carousel signals).obey call = (switcher.obey call).withOwn carousel signals := by
  cases call <;> rfl

/-- Commands one after the other do not look at cards and announcements. -/
theorem foldl_obey_withOwn (carousel : Carousel) (signals : List Signal) (calls : List Call) :
    calls.foldl obey (switcher.withOwn carousel signals) =
      (calls.foldl obey switcher).withOwn carousel signals := by
  induction calls generalizing switcher with
  | nil => rfl
  | cons call rest inductionHypothesis =>
      rw [List.foldl_cons, obey_withOwn, inductionHypothesis, List.foldl_cons]

/-- The commands of the first part and then those of the second are the commands of both. -/
theorem Performs.trans {before middle after : Switcher} {calls more : List Call}
    (first : Performs before calls middle) (second : Performs middle more after) :
    Performs before (calls ++ more) after where
  parts := by
    have parts := second.parts
    rw [first.parts, foldl_obey_withOwn] at parts
    rw [List.foldl_append]
    exact parts
  journal := by rw [second.journal, first.journal, List.append_assoc]

/-- What neither commands nor the overview itself change stays as it was. -/
theorem Performs.keeps {β : Type} (view : Switcher → β)
    (own : ∀ switcher carousel signals, view (withOwn switcher carousel signals) = view switcher)
    (obeyed : ∀ switcher call, view (obey switcher call) = view switcher) {before after : Switcher}
    {calls : List Call} (performs : Performs before calls after) : view after = view before := by
  rw [performs.parts, own]
  clear performs
  induction calls generalizing before with
  | nil => rfl
  | cons first rest inductionHypothesis => exact inductionHypothesis.trans (obeyed before first)

namespace PerformsOnly

variable {allowed other : Call → Prop} {before middle after : Switcher}

/-- Cards and announcements change without any command. -/
theorem own (same : after = before.withOwn after.carousel after.signals) :
    PerformsOnly allowed before after :=
  ⟨[], ⟨same, by rw [same]; exact (List.append_nil _).symm⟩, fun _ none => nomatch none⟩

/-- Nothing is done by no commands of any kind. -/
theorem refl : PerformsOnly allowed switcher switcher :=
  own rfl

/-- One permitted command, if the journal notes it as given. -/
theorem call (call : Call) (noted : (switcher.obey call).calls = switcher.calls ++ [call])
    (permitted : allowed call) : PerformsOnly allowed switcher (switcher.obey call) :=
  ⟨[call], ⟨rfl, noted⟩, fun _ given => List.mem_singleton.1 given ▸ permitted⟩

/-- A command that is not about pictures is noted as it is given, but for what the grid makes of an input. -/
theorem command (call : Call) (other : ¬ call.AboutPicture) :
    PerformsOnly (fun _ => True) switcher (switcher.obey call) := by
  cases call with
  | thumbnailRequest => exact absurd trivial other
  | thumbnailCancel => exact absurd trivial other
  | gridSearch input _ =>
      exact .call switcher (.gridSearch input (switcher.grid.search input).2) rfl trivial
  | window command => exact .call switcher (.window command) rfl trivial
  | splash command => exact .call switcher (.splash command) rfl trivial
  | feedback name => exact .call switcher (.feedback name) rfl trivial
  | gridReset => exact .call switcher .gridReset rfl trivial
  | gridFocusSearch => exact .call switcher .gridFocusSearch rfl trivial

/-- Commands of one kind followed by commands of this kind are of this kind. -/
theorem trans (first : PerformsOnly allowed before middle)
    (second : PerformsOnly allowed middle after) : PerformsOnly allowed before after := by
  obtain ⟨calls, performs, permitted⟩ := first
  obtain ⟨more, continues, alsoPermitted⟩ := second
  refine ⟨calls ++ more, performs.trans continues, fun call given => ?_⟩
  rcases List.mem_append.1 given with early | late
  · exact permitted call early
  · exact alsoPermitted call late

/-- Commands of a narrower kind are of the wider one. -/
theorem mono (wider : ∀ call, allowed call → other call)
    (only : PerformsOnly allowed before after) : PerformsOnly other before after := by
  obtain ⟨calls, performs, permitted⟩ := only
  exact ⟨calls, performs, fun call given => wider call (permitted call given)⟩

end PerformsOnly

/-! ### Pictures -/

/-- The withdrawal of a request gives one command about pictures, or none. -/
theorem pictures_cancelThumbnail (request : Option ThumbnailRequest) :
    PerformsOnly Call.AboutPicture switcher (switcher.cancelThumbnail request) := by
  cases request with
  | none => exact .refl switcher
  | some request => exact .call switcher (.thumbnailCancel request) rfl trivial

/-- A request for a picture gives commands about pictures only. -/
theorem pictures_requestThumbnail :
    PerformsOnly Call.AboutPicture switcher (switcher.requestThumbnail handle) := by
  unfold requestThumbnail
  split
  · exact .refl switcher
  · split
    · exact .refl switcher
    · next window _ =>
        refine .trans (.trans ?_ (.own rfl)) (pictures_cancelThumbnail _ _)
        exact .call switcher (.thumbnailRequest switcher.thumbnailer.next handle window _) rfl trivial

/-- The removal of a card gives commands about pictures only. -/
theorem pictures_destroyActivity :
    PerformsOnly Call.AboutPicture switcher (switcher.destroyActivity handle) := by
  unfold destroyActivity
  split
  · exact .refl switcher
  · exact .trans (.trans (.own rfl) (pictures_cancelThumbnail _ _)) (.own rfl)

end Switcher

end TaskSwitcher
