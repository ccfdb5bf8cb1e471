import TaskSwitcher.Proofs.Carousel.Roster
import TaskSwitcher.Switcher.Handling

/-!
# Refused events

An event is refused when it speaks of a window that no card shows, when it addresses a card that does not
exist, or when it gives a card a size that cannot be drawn. `Refuses` lists these cases with their
failures. Handling fails in exactly these cases, and what fails leaves no trace: not in the carousel, not
in the announcements, and not in any of the parts that the overview commands.
-/

namespace TaskSwitcher

/-- The address leads to no card: the handle names none, or there are not that many pages. -/
def Carousel.Unaddressed (carousel : Carousel) : ActivityRef → Prop
  | .id handle => carousel.contains handle = false
  | .page index => carousel.order.length ≤ index.toNat

/-- An address that leads to no card is not resolved. -/
theorem Carousel.resolve?_eq_none_iff (carousel : Carousel) (reference : ActivityRef) :
    carousel.resolve? reference = none ↔ carousel.Unaddressed reference := by
  cases reference with
  | id handle => simp [resolve?, Unaddressed]
  | page index => simp [resolve?, nth?, Unaddressed]

namespace Switcher

/-- The events that cannot be served in a situation, each with its failure. -/
inductive Refuses (switcher : Switcher) : Event → Failure → Prop where
  | changed {window : Window} (unknown : window.id ∉ switcher.carousel.windows) :
      Refuses switcher (.window (.changed window)) (.activityNotFound window.id.text)
  | closed {id : WindowId} (unknown : id ∉ switcher.carousel.windows) :
      Refuses switcher (.window (.closed id)) (.activityNotFound id.text)
  | activated {window : Window} (active : window.activated = true)
      (unknown : window.id ∉ switcher.carousel.windows) :
      Refuses switcher (.window (.activatedChanged window)) (.activityNotFound window.id.text)
  | clicked {reference : ActivityRef} (lost : switcher.carousel.Unaddressed reference) :
      Refuses switcher (.ui (.clicked reference)) (.activityNotFound reference.text)
  | closeRequested {reference : ActivityRef} (lost : switcher.carousel.Unaddressed reference) :
      Refuses switcher (.ui (.closeRequested reference)) (.activityNotFound reference.text)
  | fullscreenRequested {reference : ActivityRef} {fullscreen : Bool}
      (lost : switcher.carousel.Unaddressed reference) :
      Refuses switcher (.ui (.fullscreenRequested reference fullscreen))
        (.activityNotFound reference.text)
  | resized {reference : ActivityRef} {width height : Int32}
      (lost : switcher.carousel.Unaddressed reference) :
      Refuses switcher (.ui (.resized reference width height)) (.activityNotFound reference.text)
  | focusChanged {reference : ActivityRef} {hasFocus : Bool}
      (lost : switcher.carousel.Unaddressed reference) :
      Refuses switcher (.ui (.focusChanged reference hasFocus)) (.activityNotFound reference.text)
  | pageChanged {index : UInt64} (visible : switcher.shell.overviewVisible = true)
      (undocked : switcher.shell.docked = false)
      (beyond : switcher.carousel.order.length ≤ index.toNat) :
      Refuses switcher (.ui (.pageChanged (some index)))
        (.activityNotFound (ActivityRef.page index).text)
  | emptySize {reference : ActivityRef} {width height : Int32}
      (found : ¬ switcher.carousel.Unaddressed reference) (empty : width ≤ 0 ∨ height ≤ 0) :
      Refuses switcher (.ui (.resized reference width height)) (.invalidSize width height)

section

variable (switcher after : Switcher) (failure : Failure)

/-- What is asked of a card fails without an effect if there is no such card, and otherwise as the
serving of its handle fails. -/
theorem withHandle_eq_error_iff (reference : ActivityRef) (serve : Handle → Switcher × Outcome) :
    switcher.withHandle reference serve = (after, .error failure) ↔
      (switcher.carousel.Unaddressed reference ∧ failure = .activityNotFound reference.text ∧
          after = switcher) ∨
        ∃ handle, switcher.carousel.resolve? reference = some handle ∧
          serve handle = (after, .error failure) := by
  rw [← Carousel.resolve?_eq_none_iff, withHandle]
  cases switcher.carousel.resolve? reference with
  | none => simp [eq_comm, and_comm]
  | some handle => simp

/-- Requests that can always be served for a present card fail only for an absent one. -/
theorem withHandle_ok_eq_error_iff (reference : ActivityRef) (serve : Handle → Switcher) :
    switcher.withHandle reference (fun handle => (serve handle, .ok ())) =
        (after, .error failure) ↔
      switcher.carousel.Unaddressed reference ∧ failure = .activityNotFound reference.text ∧
        after = switcher := by
  simp [withHandle_eq_error_iff]

/-- A new size is refused if the address has no card, and else if a side is not positive. -/
theorem resized_eq_error_iff (reference : ActivityRef) (size : Size) :
    switcher.resized reference size = (after, .error failure) ↔
      ((switcher.carousel.Unaddressed reference ∧ failure = .activityNotFound reference.text) ∨
        (¬ switcher.carousel.Unaddressed reference ∧ (size.width ≤ 0 ∨ size.height ≤ 0) ∧
          failure = .invalidSize size.width size.height)) ∧ after = switcher := by
  rw [resized, withHandle_eq_error_iff, ← Carousel.resolve?_eq_none_iff,
    ← size.isDrawable_eq_false_iff]
  cases switcher.carousel.resolve? reference with
  | none => simp
  | some handle =>
      cases drawable : size.isDrawable with
      | true => simp
      | false => simp [eq_comm, and_comm]

/-- A report that a window changed fails exactly if the window has no card. -/
theorem windowChanged_eq_error_iff (window : Window) :
    switcher.windowChanged window = (after, .error failure) ↔
      window.id ∉ switcher.carousel.windows ∧ failure = .activityNotFound window.id.text ∧
        after = switcher := by
  rw [← Carousel.findByWindow?_eq_none_iff, windowChanged]
  cases switcher.carousel.findByWindow? window.id with
  | none => simp [eq_comm, and_comm]
  | some handle => simp

/-- A report that a window closed fails exactly if the window has no card. -/
theorem windowClosed_eq_error_iff (id : WindowId) :
    switcher.windowClosed id = (after, .error failure) ↔
      id ∉ switcher.carousel.windows ∧ failure = .activityNotFound id.text ∧ after = switcher := by
  rw [← Carousel.findByWindow?_eq_none_iff, windowClosed]
  cases switcher.carousel.findByWindow? id with
  | none => simp [eq_comm, and_comm]
  | some handle => simp

/-- News about the activation fail only for an activated window without a card. -/
theorem windowActivated_eq_error_iff (window : Window) :
    switcher.windowActivated window = (after, .error failure) ↔
      window.activated = true ∧ window.id ∉ switcher.carousel.windows ∧
        failure = .activityNotFound window.id.text ∧ after = switcher := by
  rw [← Carousel.findByWindow?_eq_none_iff, windowActivated]
  cases window.activated with
  | false => simp
  | true =>
      cases switcher.carousel.findByWindow? window.id with
      | none => simp [eq_comm, and_comm]
      | some handle => simp

/-- Moving to a page fails only in the open overview of an undocked phone, beyond the last page. -/
theorem pageChanged_eq_error_iff (index : Option UInt64) :
    switcher.pageChanged index = (after, .error failure) ↔
      ∃ page, index = some page ∧ switcher.shell.overviewVisible = true ∧
        switcher.shell.docked = false ∧ switcher.carousel.order.length ≤ page.toNat ∧
        failure = .activityNotFound (ActivityRef.page page).text ∧ after = switcher := by
  cases index with
  | none => simp [pageChanged]
  | some page =>
      cases visible : switcher.shell.overviewVisible with
      | false => simp [pageChanged, visible]
      | true =>
          cases docked : switcher.shell.docked with
          | true => simp [pageChanged, docked]
          | false => simp [pageChanged, visible, docked, withHandle_ok_eq_error_iff,
              Carousel.Unaddressed]

end

/-! ### Both directions -/

section

variable {switcher after : Switcher} {failure : Failure}

/-- A report that fails is one that cannot be served, and it leaves everything as it was. -/
theorem refuses_of_handleWindow {event : WindowEvent}
    (failed : switcher.handleWindow event = (after, .error failure)) :
    switcher.Refuses (.window event) failure ∧ after = switcher := by
  cases event with
  | added window => cases failed
  | changed window =>
      obtain ⟨unknown, rfl, rfl⟩ := (windowChanged_eq_error_iff ..).1 failed
      exact ⟨.changed unknown, rfl⟩
  | closed id =>
      obtain ⟨unknown, rfl, rfl⟩ := (windowClosed_eq_error_iff ..).1 failed
      exact ⟨.closed unknown, rfl⟩
  | activatedChanged window =>
      obtain ⟨active, unknown, rfl, rfl⟩ := (windowActivated_eq_error_iff ..).1 failed
      exact ⟨.activated active unknown, rfl⟩

/-- An action that fails is one that cannot be served, and it leaves everything as it was. -/
theorem refuses_of_handleUi {event : UiEvent}
    (failed : switcher.handleUi event = (after, .error failure)) :
    switcher.Refuses (.ui event) failure ∧ after = switcher := by
  cases event with
  | clicked reference =>
      obtain ⟨lost, rfl, rfl⟩ := (withHandle_ok_eq_error_iff ..).1 failed
      exact ⟨.clicked lost, rfl⟩
  | closeRequested reference =>
      obtain ⟨lost, rfl, rfl⟩ := (withHandle_ok_eq_error_iff ..).1 failed
      exact ⟨.closeRequested lost, rfl⟩
  | fullscreenRequested reference fullscreen =>
      obtain ⟨lost, rfl, rfl⟩ := (withHandle_ok_eq_error_iff ..).1 failed
      exact ⟨.fullscreenRequested lost, rfl⟩
  | resized reference width height =>
      obtain ⟨⟨lost, rfl⟩ | ⟨found, empty, rfl⟩, rfl⟩ := (resized_eq_error_iff ..).1 failed
      · exact ⟨.resized lost, rfl⟩
      · exact ⟨.emptySize found empty, rfl⟩
  | focusChanged reference hasFocus =>
      obtain ⟨lost, rfl, rfl⟩ := (withHandle_ok_eq_error_iff ..).1 failed
      exact ⟨.focusChanged lost, rfl⟩
  | pageChanged index =>
      obtain ⟨page, rfl, visible, undocked, beyond, rfl, rfl⟩ :=
        (pageChanged_eq_error_iff ..).1 failed
      exact ⟨.pageChanged visible undocked beyond, rfl⟩
  -- The other actions end well whatever the situation.
  | appLaunched appId => cases failed
  | selectionAborted => cases failed
  | usableAreaChanged width height => cases failed
  | refresh => cases failed
  | reset => cases failed
  | focusAppSearch => cases failed
  | search input => cases failed

/-- A refused event has its failure for outcome and no effect. -/
theorem Refuses.handle_eq {event : Event} (refused : switcher.Refuses event failure) (now : Nat) :
    switcher.handle now event = (switcher, .error failure) := by
  cases refused with
  | changed unknown => exact (windowChanged_eq_error_iff ..).2 ⟨unknown, rfl, rfl⟩
  | closed unknown => exact (windowClosed_eq_error_iff ..).2 ⟨unknown, rfl, rfl⟩
  | activated active unknown =>
      exact (windowActivated_eq_error_iff ..).2 ⟨active, unknown, rfl, rfl⟩
  | clicked lost => exact (withHandle_ok_eq_error_iff ..).2 ⟨lost, rfl, rfl⟩
  | closeRequested lost => exact (withHandle_ok_eq_error_iff ..).2 ⟨lost, rfl, rfl⟩
  | fullscreenRequested lost => exact (withHandle_ok_eq_error_iff ..).2 ⟨lost, rfl, rfl⟩
  | resized lost => exact (resized_eq_error_iff ..).2 ⟨.inl ⟨lost, rfl⟩, rfl⟩
  | focusChanged lost => exact (withHandle_ok_eq_error_iff ..).2 ⟨lost, rfl, rfl⟩
  | pageChanged visible undocked beyond =>
      exact (pageChanged_eq_error_iff ..).2 ⟨_, rfl, visible, undocked, beyond, rfl, rfl⟩
  | emptySize found empty => exact (resized_eq_error_iff ..).2 ⟨.inr ⟨found, empty, rfl⟩, rfl⟩

end

/-- Handling fails in exactly the listed cases, with the listed failure, and the situation after a
failure is the one before it. -/
theorem handle_eq_error_iff (switcher after : Switcher) (now : Nat) (event : Event)
    (failure : Failure) :
    switcher.handle now event = (after, .error failure) ↔
      switcher.Refuses event failure ∧ after = switcher := by
  constructor
  · intro failed
    cases event with
    | window event => exact refuses_of_handleWindow failed
    | launch event => cases failed
    | ui event => exact refuses_of_handleUi failed
    | thumbnailReady activity request => cases failed
    | tick now => cases failed
  · rintro ⟨refused, rfl⟩
    exact refused.handle_eq now

end Switcher

end TaskSwitcher
