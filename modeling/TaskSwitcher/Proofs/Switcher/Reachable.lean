import TaskSwitcher.Proofs.Switcher.Strip
import TaskSwitcher.Scenario.Rehearsal
import TaskSwitcher.Service

/-!
# Reachable situations

An overview starts without cards and looks at the registry; from then on it handles whatever events it
is given, looks at the registry again, and has its announcements collected, while the device around it
changes as it pleases. Nothing is asked of the events: they may come twice, in the wrong order or with
invented handles. Even so each window has at most one card.
-/

namespace TaskSwitcher

namespace Switcher

/-- The situations that an overview can get into. -/
inductive Reachable : Switcher → Prop where
  /-- The parts around a new overview may have any past. -/
  | start {parts : Switcher} (noCards : parts.carousel = {}) (noSignals : parts.signals = []) :
      Reachable parts.start
  | handle {switcher : Switcher} (reachable : Reachable switcher) (now : Nat) (event : Event) :
      Reachable (switcher.handle now event).1
  | sync {switcher : Switcher} (reachable : Reachable switcher) : Reachable switcher.syncWindows
  | collect {switcher : Switcher} (reachable : Reachable switcher) : Reachable switcher.collected
  /-- The windows, the shell and the mailbox change without the overview. -/
  | device {switcher : Switcher} (reachable : Reachable switcher) (device : Device) :
      Reachable { switcher with toDevice := device }

variable {switcher : Switcher}

/-! ### Validity -/

/-- Every event leaves the strip valid. -/
theorem valid_handle (valid : switcher.carousel.Valid) (now : Nat) (event : Event) :
    (switcher.handle now event).1.carousel.Valid :=
  (shows_handle valid.shows now event).valid

/-- A look at the registry leaves the strip valid. -/
theorem valid_syncWindows (valid : switcher.carousel.Valid) : switcher.syncWindows.carousel.Valid :=
  (shows_syncWindows valid.shows).valid

/-- In every situation that can be reached the strip is valid. -/
theorem Reachable.valid (reachable : switcher.Reachable) : switcher.carousel.Valid := by
  induction reachable with
  | start noCards _ => exact valid_syncWindows (noCards ▸ Carousel.valid_empty)
  | handle _ now event inductionHypothesis => exact valid_handle inductionHypothesis now event
  | sync _ inductionHypothesis => exact valid_syncWindows inductionHypothesis
  | collect _ inductionHypothesis => exact inductionHypothesis
  | device _ _ inductionHypothesis => exact inductionHypothesis

/-! ### Distinct windows -/

/-- A window is added only while it is not shown, so the windows shown stay distinct. -/
theorem nodup_windowsAfter {shown : List WindowId} (distinct : shown.Nodup) (event : Event) :
    (windowsAfter shown event).Nodup := by
  unfold windowsAfter
  split
  · exact distinct.insert
  · exact distinct.erase _
  · exact distinct

/-- No event makes a second card for a window. -/
theorem nodup_windows_handle (valid : switcher.carousel.Valid)
    (distinct : switcher.carousel.windows.Nodup) (now : Nat) (event : Event) :
    (switcher.handle now event).1.carousel.windows.Nodup :=
  (shows_handle valid.shows now event).perm.nodup_iff.2 (nodup_windowsAfter distinct event)

/-- A look at the registry makes no second card for a window. -/
theorem nodup_windows_syncWindows (valid : switcher.carousel.Valid)
    (distinct : switcher.carousel.windows.Nodup) : switcher.syncWindows.carousel.windows.Nodup := by
  rw [(shows_syncWindows valid.shows).perm.nodup_iff]
  generalize switcher.carousel.windows = shown at distinct
  induction switcher.registry.windows generalizing shown with
  | nil => exact distinct
  | cons first rest inductionHypothesis => exact inductionHypothesis _ distinct.insert

/-- No window has two cards in a situation that can be reached. -/
theorem Reachable.nodup_windows (reachable : switcher.Reachable) :
    switcher.carousel.windows.Nodup := by
  induction reachable with
  | start noCards _ =>
      exact nodup_windows_syncWindows (noCards ▸ Carousel.valid_empty) (noCards ▸ List.nodup_nil)
  | handle before now event inductionHypothesis =>
      exact nodup_windows_handle before.valid inductionHypothesis now event
  | sync before inductionHypothesis =>
      exact nodup_windows_syncWindows before.valid inductionHypothesis
  | collect _ inductionHypothesis => exact inductionHypothesis
  | device _ _ inductionHypothesis => exact inductionHypothesis

/-- In every situation that can be reached the strip is proper. -/
theorem Reachable.proper (reachable : switcher.Reachable) : switcher.carousel.Proper :=
  ⟨reachable.valid, reachable.nodup_windows⟩

/-- Every event leaves the strip proper. -/
theorem proper_handle (proper : switcher.carousel.Proper) (now : Nat) (event : Event) :
    (switcher.handle now event).1.carousel.Proper :=
  ⟨valid_handle proper.valid now event,
    nodup_windows_handle proper.valid proper.distinct now event⟩

/-! ### One card for each window -/

/-- In every reachable situation a window has at most one card. Looking for its card therefore finds
the only one, and when the closing of a window was handled no card shows the window. -/
theorem Reachable.one_card_per_window (reachable : switcher.Reachable) :
    (∀ first second id, switcher.carousel.windowOf? first = some id →
        switcher.carousel.windowOf? second = some id → first = second) ∧
      (∀ id handle, switcher.carousel.findByWindow? id = some handle ↔
        switcher.carousel.windowOf? handle = some id) ∧
      ∀ now id after, switcher.handle now (.window (.closed id)) = (after, .ok ()) →
        ∀ handle, after.carousel.windowOf? handle ≠ some id := by
  have valid := reachable.valid
  have distinct := reachable.nodup_windows
  refine ⟨fun _ _ _ => valid.eq_of_windowOf?_eq distinct, valid.findByWindow?_eq_some_iff distinct,
    fun now id after handled handle shown => ?_⟩
  have shows := shows_handle valid.shows now (.window (.closed id))
  rw [handled] at shows
  have present := (shows.valid.mem_windows_iff id).2 ⟨handle, shown⟩
  exact distinct.not_mem_erase (shows.perm.mem_iff.1 present)

/-- A window that is open at the start has a card, and has none after it was closed. -/
theorem no_card_of_calls_closed :
    let opened := (assemble {} true [Scenario.callsWindow] none).start
    let closed := opened.handle 0 (.window (.closed ⟨1⟩))
    closed.2 = .ok () ∧ ∀ handle, closed.1.carousel.windowOf? handle ≠ some ⟨1⟩ := by
  intro opened closed
  have reachable : opened.Reachable := .start rfl rfl
  have served : closed.2 = .ok () := by decide +kernel
  exact ⟨served, reachable.one_card_per_window.2.2 0 ⟨1⟩ closed.1 (Prod.ext rfl served)⟩

end Switcher

end TaskSwitcher
