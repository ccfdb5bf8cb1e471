import TaskSwitcher.Proofs.Carousel.Outlines
import TaskSwitcher.Proofs.Switcher.Replies

/-!
# The sizes of requested pictures

A picture is asked for on behalf of a card that shows a window, for this window, and in the size that the card
wants at the scale of the shell. Whatever else the handling of an event does to cards that show windows leaves
their windows and wanted sizes alone, so the request still fits the card when the event has been handled.
-/

namespace TaskSwitcher

/-! ### Scaled sizes -/

/-- Clamping moves a number to the nearer end of the range if it is out of it. -/
theorem toInt_clampedInt32 (value : Int) :
    (clampedInt32 value).toInt = max (-2147483648) (min 2147483647 value) := by
  refine Int32.toInt_ofInt_of_le ?_ ?_ <;> omega

/-- A positive number stays positive when it is scaled up, and stops at the end of the range. -/
theorem toInt_saturatingProduct_of_pos {length factor : Int32} (positive : 0 < length)
    (scales : 1 ≤ factor) :
    (saturatingProduct length factor).toInt = min 2147483647 (length.toInt * factor.toInt) ∧
      1 ≤ (saturatingProduct length factor).toInt := by
  have lower : 1 ≤ length.toInt := Int32.lt_iff_toInt_lt.1 positive
  have factorLower : 1 ≤ factor.toInt := Int32.le_iff_toInt_le.1 scales
  have product : 0 < length.toInt * factor.toInt := Int.mul_pos lower factorLower
  rw [saturatingProduct, toInt_clampedInt32]
  omega

/-- A length that is not positive does not become positive by any scale. -/
theorem saturatingProduct_nonpos {length factor : Int32} (nonpositive : length ≤ 0)
    (scales : 1 ≤ factor) : saturatingProduct length factor ≤ 0 := by
  have upper : length.toInt ≤ 0 := Int32.le_iff_toInt_le.1 nonpositive
  have factorLower : 1 ≤ factor.toInt := Int32.le_iff_toInt_le.1 scales
  have product : length.toInt * factor.toInt ≤ 0 :=
    Int.mul_nonpos_of_nonpos_of_nonneg upper (by omega)
  rw [Int32.le_iff_toInt_le, saturatingProduct, toInt_clampedInt32, Int32.toInt_zero]
  omega

/-- Both sides are positive, and each is the product or the end of the range. -/
structure Size.Magnifies (larger : Size) (size : Size) (factor : Int32) : Prop where
  width : larger.width.toInt = min 2147483647 (size.width.toInt * factor.toInt)
  height : larger.height.toInt = min 2147483647 (size.height.toInt * factor.toInt)
  one_le_width : 1 ≤ larger.width
  one_le_height : 1 ≤ larger.height

namespace Size

variable {size : Size} {factor : Int32} (scales : 1 ≤ factor)

include scales

/-- A size with area is magnified by a scale, up to the end of the range. -/
theorem magnifies_scaled (drawable : size.isDrawable = true) :
    (size.scaled factor).Magnifies size factor := by
  obtain ⟨wide, high⟩ : 0 < size.width ∧ 0 < size.height := by simpa [isDrawable] using drawable
  obtain ⟨width, widthLower⟩ := toInt_saturatingProduct_of_pos wide scales
  obtain ⟨height, heightLower⟩ := toInt_saturatingProduct_of_pos high scales
  exact ⟨width, height, Int32.le_iff_toInt_le.2 widthLower, Int32.le_iff_toInt_le.2 heightLower⟩

/-- Scaling up does not make a size drawable that is not. -/
theorem isDrawable_scaled : (size.scaled factor).isDrawable = size.isDrawable := by
  cases drawable : size.isDrawable with
  | true =>
      obtain ⟨-, -, wide, high⟩ := magnifies_scaled scales drawable
      simp only [isDrawable, Bool.and_eq_true, decide_eq_true_eq]
      exact ⟨wide, high⟩
  | false =>
      rw [isDrawable_eq_false_iff] at drawable ⊢
      exact drawable.imp (saturatingProduct_nonpos · scales) (saturatingProduct_nonpos · scales)

end Size

namespace Switcher

/-! ### Requests -/

/-- All pictures that are asked for from `before` to `after` are allowed. -/
def Asks (allowed : Handle → WindowId → Size → Prop) (before after : Switcher) : Prop :=
  ∃ calls, after.calls = before.calls ++ calls ∧
    ∀ request handle window size, .thumbnailRequest request handle window size ∈ calls →
      allowed handle window size

/-- The card shows this window, and this is the size that it wants at the scale of the shell. -/
def Fits (switcher : Switcher) (handle : Handle) (window : WindowId) (size : Size) : Prop :=
  ∃ activity, switcher.carousel.get? handle = some activity ∧ activity.window? = some window ∧
    size = activity.thumbnailSize.scaled switcher.pictureScale

variable {switcher before middle after : Switcher}

/-- Pictures are asked for at the scale of the shell, if it is positive. -/
theorem pictureScale_eq (scales : 1 ≤ switcher.shell.scaleFactor) :
    switcher.pictureScale = switcher.shell.scaleFactor := by
  change (if switcher.shell.scaleFactor ≤ 1 then 1 else switcher.shell.scaleFactor) = _
  split
  · next below => exact Int32.le_antisymm scales below
  · rfl

namespace Asks

variable {allowed other : Handle → WindowId → Size → Prop}

/-- Where no picture is asked for, all that are asked for are allowed. -/
theorem nothing (journal : ∃ calls, after.calls = before.calls ++ calls ∧
    ∀ request handle window size, .thumbnailRequest request handle window size ∉ calls) :
    Asks allowed before after := by
  obtain ⟨calls, journal, none⟩ := journal
  exact ⟨calls, journal, fun request handle window size given =>
    (none request handle window size given).elim⟩

/-- Where no command is given, no picture is asked for. -/
theorem silent (calls : after.calls = before.calls) : Asks allowed before after :=
  nothing ⟨[], by rw [calls]; exact (List.append_nil _).symm, fun _ _ _ _ none => nomatch none⟩

/-- Pictures that are allowed one time and then another are allowed. -/
theorem trans (first : Asks allowed before middle) (second : Asks allowed middle after) :
    Asks allowed before after := by
  obtain ⟨calls, journal, fit⟩ := first
  obtain ⟨more, continues, fitMore⟩ := second
  refine ⟨calls ++ more, by rw [continues, journal, List.append_assoc], ?_⟩
  intro request handle window size given
  rcases List.mem_append.1 given with early | late
  · exact fit request handle window size early
  · exact fitMore request handle window size late

/-- Pictures that are allowed are allowed by whoever asks less. -/
theorem mono (weaker : ∀ handle window size, allowed handle window size → other handle window size)
    (asks : Asks allowed before after) : Asks other before after := by
  obtain ⟨calls, journal, fit⟩ := asks
  exact ⟨calls, journal, fun request handle window size given =>
    weaker handle window size (fit request handle window size given)⟩

/-- A withdrawal asks for no picture. -/
theorem cancelThumbnail (request : Option ThumbnailRequest) :
    Asks allowed before (before.cancelThumbnail request) := by
  refine nothing ⟨_, calls_cancelThumbnail request, fun _ _ _ _ given => ?_⟩
  cases request <;> simp at given

/-- The removal of a card asks for no picture. -/
theorem destroyActivity (handle : Handle) : Asks allowed before (before.destroyActivity handle) := by
  obtain ⟨-, -, journal⟩ := before.destroyActivity_parts handle
  obtain ⟨calls, withdrawn, fit⟩ : Asks allowed before
    (before.cancelThumbnail (before.carousel.awaited? handle)) := .cancelThumbnail _
  exact ⟨calls, journal.trans withdrawn, fit⟩

end Asks

/-- The pictures asked for fit their cards in the end, and what fitted before still does. -/
structure Fitting (before after : Switcher) : Prop where
  keeps : ∀ handle window size, before.Fits handle window size → after.Fits handle window size
  asks : Asks after.Fits before after

namespace Fitting

/-- Nothing is asked for, and what fits still fits. -/
theorem refl : Fitting switcher switcher :=
  ⟨fun _ _ _ => id, .silent rfl⟩

/-- What fitted in the middle fits in the end, so that all that was asked for does. -/
theorem trans (first : Fitting before middle) (second : Fitting middle after) :
    Fitting before after where
  keeps handle window size fits := second.keeps handle window size (first.keeps handle window size fits)
  asks := (first.asks.mono second.keeps).trans second.asks

/-- Cards that show a window go on showing it in the same wanted size, and nothing is asked for. -/
theorem keeping (calls : after.calls = before.calls)
    (scale : after.shell.scaleFactor = before.shell.scaleFactor)
    (cards : ∀ handle activity window, before.carousel.get? handle = some activity →
      activity.window? = some window →
      ∃ changed, after.carousel.get? handle = some changed ∧ changed.window? = some window ∧
        changed.thumbnailSize = activity.thumbnailSize) : Fitting before after where
  keeps handle window size fits := by
    obtain ⟨activity, found, shows, rfl⟩ := fits
    obtain ⟨changed, present, showsStill, sized⟩ := cards handle activity window found shows
    refine ⟨changed, present, showsStill, ?_⟩
    rw [sized, pictureScale, pictureScale, scale]
  asks := .silent calls

/-- The cards stay as they are. -/
theorem of_same_arena (calls : after.calls = before.calls)
    (scale : after.shell.scaleFactor = before.shell.scaleFactor)
    (arena : after.carousel.arena = before.carousel.arena) : Fitting before after :=
  keeping calls scale fun handle activity window found shows =>
    ⟨activity, by rwa [Carousel.get?, arena], shows, rfl⟩

/-- A change that keeps the windows and sizes of pictures keeps what fits. -/
theorem modify (handle : Handle) {change : Activity → Activity}
    (windows : ∀ activity, (change activity).window? = activity.window?)
    (sizes : ∀ activity, (change activity).thumbnailSize = activity.thumbnailSize) :
    Fitting before (before.mapCarousel (·.modify handle change)) := by
  refine keeping rfl rfl fun other activity window found shows => ?_
  have changed : (before.carousel.modify handle change).get? other =
      some (if other = handle then change activity else activity) := by
    rw [Carousel.get?_modify, found, Option.map_some]
  refine ⟨_, changed, ?_⟩
  split
  · exact ⟨(windows activity).trans shows, sizes activity⟩
  · exact ⟨shows, rfl⟩

/-- A withdrawal changes no card and asks for nothing. -/
theorem cancelThumbnail (request : Option ThumbnailRequest) :
    Fitting before (before.cancelThumbnail request) where
  keeps handle window size fits := by cases request <;> exact fits
  asks := .cancelThumbnail request

/-- A card asks for a picture in the size that it wants, and goes on to want it. -/
theorem requestThumbnail (handle : Handle) : Fitting before (before.requestThumbnail handle) := by
  unfold Switcher.requestThumbnail
  split
  · exact .refl
  · next activity found =>
      split
      · exact .refl
      · next window shows =>
          let size := activity.thumbnailSize.scaled before.pictureScale
          have asked : Fitting before (before.askThumbnail handle window size) := by
            refine ⟨fun _ _ _ => id, _, rfl, fun request other shown wanted given => ?_⟩
            cases List.mem_singleton.1 given
            exact ⟨activity, found, shows, rfl⟩
          refine (asked.trans (.modify handle ?_ ?_)).trans (.cancelThumbnail _)
          · exact fun card => card.window?_awaiting _
          · exact fun card => card.thumbnailSize_awaiting _

/-- A new card leaves what fits the others. -/
theorem create (valid : before.carousel.Valid) (activity : Activity) :
    Fitting before (before.createActivity activity) := by
  refine keeping rfl rfl fun handle card window found shows => ⟨card, ?_, shows, rfl⟩
  have inserted := valid.get?_insert handle (before.placeOf activity) activity
  have old : handle ≠ before.carousel.nextHandle := by
    rintro rfl
    rw [Carousel.get?, Carousel.nextHandle, valid.arena.get?_next] at found
    cases found
  rw [if_neg old] at inserted
  exact inserted.trans found

/-- What news lead to asks for fitting pictures only. -/
theorem chore (valid : before.carousel.Valid) (chore : Chore before after) :
    Fitting before after := by
  cases chore with
  | request handle => exact .requestThumbnail handle
  | launch appId appInfo startupId now recognised => exact .create valid _
  | add window => exact .create valid _
  | bind handle window activity found splash =>
      refine keeping rfl rfl fun other card shown present shows => ⟨card, ?_, shows, rfl⟩
      have apart : other ≠ handle := by
        rintro rfl
        cases present.symm.trans found
        cases shows.symm.trans splash
      refine (Carousel.get?_modify ..).trans ?_
      rw [present, Option.map_some, if_neg apart]
  | «show» handle window => exact .modify handle (fun _ => rfl) fun _ => rfl
  | focus handle => exact .of_same_arena rfl rfl (before.arena_focusActivity handle)
  | announce => exact .of_same_arena rfl rfl rfl

/-- Everything that news lead to asks for fitting pictures only. -/
theorem chores (valid : before.carousel.Valid) (chores : Chores before after) :
    Fitting before after :=
  chores.lift (fun _ => .refl) .trans .chore valid

end Fitting

/-! ### Everything -/

/-- An action of the user asks for a picture after the card has its new size. -/
theorem asks_handleUi (action : UiEvent) :
    Asks (switcher.handleUi action).1.Fits switcher (switcher.handleUi action).1 := by
  by_cases redraws : action.Redraws
  · rcases handleUi_of_redraws redraws with unchanged | ⟨changed, handle, own, requested⟩
    · rw [unchanged]
      exact .silent rfl
    · rw [requested]
      have calls : changed.calls = switcher.calls := by rw [own]; rfl
      exact .trans (.silent calls) (Fitting.requestThumbnail handle).asks
  · have gives : Gives switcher _ (switcher.handleUi action).1 := gives_handleUi redraws
    refine .nothing ⟨_, gives.performs.journal, fun request handle window size given => ?_⟩
    exact not_aboutPicture_replyToUi action _ given trivial

/-- Every picture that the handling of an event asks for fits its card when the event has been handled. -/
theorem asks_handle (valid : switcher.carousel.Valid) (now : Nat) (event : Event) :
    Asks (switcher.handle now event).1.Fits switcher (switcher.handle now event).1 := by
  by_cases asked : ∃ action, event = .ui action
  · obtain ⟨action, rfl⟩ := asked
    exact asks_handleUi action
  · have news action : event ≠ .ui action := fun same => asked ⟨action, same⟩
    rcases switcher.news_cases now news with ⟨handle, request, rfl⟩ | chores | clears
    · exact .silent rfl
    · exact (Fitting.chores valid chores).asks
    · exact clears.lift (fun _ => .silent rfl) .trans fun _ => .destroyActivity

/-- A look at the registry asks for fitting pictures only. -/
theorem asks_syncWindows (valid : switcher.carousel.Valid) :
    Asks switcher.syncWindows.Fits switcher switcher.syncWindows :=
  (Fitting.chores valid switcher.chores_syncWindows).asks

end Switcher

end TaskSwitcher
