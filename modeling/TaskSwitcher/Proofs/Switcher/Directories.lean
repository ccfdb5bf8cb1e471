import TaskSwitcher.Proofs.AppDirectory.Enumeration
import TaskSwitcher.Proofs.Switcher.Asides
import TaskSwitcher.Service

/-!
# Overviews with different directories

The overview asks its directory which application an id stands for, and nothing else. So two overviews whose
directories resolve every id alike show, announce and command the same, whatever happens to them. The order
in which a directory is searched can be seen only where the settings list several spellings of a name and
the reported one is not among them.
-/

namespace TaskSwitcher.Switcher

/-- The same situation with another directory. -/
def withApps (switcher : Switcher) (apps : AppDirectory) : Switcher :=
  { switcher with apps }

section

variable (switcher : Switcher) (apps : AppDirectory)

@[simp] theorem carousel_withApps : (switcher.withApps apps).carousel = switcher.carousel := rfl

/-- The directory plays no part in the withdrawal of a request. -/
theorem cancelThumbnail_withApps (request : Option ThumbnailRequest) :
    (switcher.withApps apps).cancelThumbnail request =
      (switcher.cancelThumbnail request).withApps apps := by
  cases request <;> rfl

/-- The directory plays no part in a request for a picture. -/
theorem requestThumbnail_withApps (handle : Handle) :
    (switcher.withApps apps).requestThumbnail handle =
      (switcher.requestThumbnail handle).withApps apps := by
  unfold requestThumbnail
  rw [carousel_withApps]
  split
  · rfl
  · next activity _ =>
      split
      · rfl
      · next window _ =>
          let size := activity.thumbnailSize.scaled switcher.pictureScale
          let request := switcher.thumbnailer.next
          exact cancelThumbnail_withApps ((switcher.askThumbnail handle window size).mapCarousel
            (·.modify handle (·.awaiting (some request)))) apps (activity.superseded request)

/-- The directory plays no part in the removal of a card. -/
theorem destroyActivity_withApps (handle : Handle) :
    (switcher.withApps apps).destroyActivity handle =
      (switcher.destroyActivity handle).withApps apps := by
  unfold destroyActivity
  rw [carousel_withApps]
  split
  · rfl
  · next activity _ =>
      exact congrArg announceOccupancy
        (cancelThumbnail_withApps (switcher.mapCarousel (·.erase handle)) apps activity.pending?)

end

/-! ### Directories that resolve every id alike -/

variable {first second : AppDirectory}

/-- The situations differ in their directories only. -/
def ApartFromApps (first second : AppDirectory) (one other : Switcher) : Prop :=
  ∃ switcher : Switcher, one = switcher.withApps first ∧ other = switcher.withApps second

/-- What does not look at the directory leaves no other difference. -/
theorem ApartFromApps.keep {one other : Switcher} (same : ApartFromApps first second one other)
    (change : Switcher → Switcher)
    (commutes : ∀ switcher apps, change (withApps switcher apps) = (change switcher).withApps apps) :
    ApartFromApps first second (change one) (change other) := by
  obtain ⟨switcher, rfl, rfl⟩ := same
  exact ⟨change switcher, commutes switcher first, commutes switcher second⟩

/-- What is the same with any directory is the same on both sides. -/
theorem ApartFromApps.asked {β : Type} {one other : Switcher} (question : Switcher → β)
    (blind : ∀ switcher apps, question (withApps switcher apps) = question switcher)
    (same : ApartFromApps first second one other) : question one = question other := by
  obtain ⟨switcher, rfl, rfl⟩ := same
  rw [blind, blind]

/-- Directories that recognise the same ids make no difference to any handling. -/
theorem congruence_apartFromApps (alike : first.resolve = second.resolve) :
    Congruence (ApartFromApps first second) where
  device := ApartFromApps.asked (·.toDevice) fun _ _ => rfl
  outline := ApartFromApps.asked (·.carousel.outline) fun _ _ => rfl
  launchTimeout := ApartFromApps.asked (·.launchTimeout) fun _ _ => rfl
  splash := ApartFromApps.asked (·.splash) fun _ _ => rfl
  recognition := by
    rintro - - ⟨switcher, rfl, rfl⟩
    exact alike
  mapCarousel _ same := same.keep (·.mapCarousel _) fun _ _ => rfl
  request handle same := same.keep (·.requestThumbnail handle) (requestThumbnail_withApps · · handle)
  destroy handle same := same.keep (·.destroyActivity handle) (destroyActivity_withApps · · handle)
  announce same := same.keep announceOccupancy fun _ _ => rfl
  emit signal same := same.keep (·.emit signal) fun _ _ => rfl
  window command same := same.keep (·.commandWindow command) fun _ _ => rfl
  splashCommand command same := same.keep (·.commandSplash command) fun _ _ => rfl
  feedback name same := same.keep (·.giveFeedback name) fun _ _ => rfl
  resetGrid same := same.keep resetGrid fun _ _ => rfl
  focusAppSearch same := same.keep focusAppSearch fun _ _ => rfl
  search input same := same.keep (fun switcher => (switcher.search input).1) fun _ _ => rfl
  thumbnailReady handle request same :=
    same.keep (·.thumbnailReady handle request) fun _ _ => rfl
  collected same := same.keep collected fun _ _ => rfl
  withDevice device same := same.keep (fun switcher => { switcher with toDevice := device })
    fun _ _ => rfl

/-! ### Runs with the same settings -/

/-- A new overview that was assembled from the settings but for its directory. -/
def openWith (settings : Settings) (apps : AppDirectory) (wired : Bool) (windows : List Window)
    (limit : Option Nat) : Switcher :=
  ((assemble settings wired windows limit).withApps apps).start

example (settings : Settings) (wired : Bool) (windows : List Window) (limit : Option Nat) :
    openWith settings (.ofList settings.apps.known) wired windows limit =
      (assemble settings wired windows limit).start :=
  rfl

/-- With the same settings, whatever windows are open at the start and whatever happens, an overview with the
one directory and an overview with the other one end every handling alike and come into the same situation,
the directories apart. -/
def Interchangeable (settings : Settings) (first second : AppDirectory) : Prop :=
  ∀ (wired : Bool) (windows : List Window) (limit : Option Nat) (happenings : List Happening),
    (openWith settings first wired windows limit).replies happenings =
        (openWith settings second wired windows limit).replies happenings ∧
      (openWith settings second wired windows limit).undergoAll happenings =
        ((openWith settings first wired windows limit).undergoAll happenings).withApps second

/-- Directories that recognise the same ids are interchangeable. -/
theorem interchangeable_of_resolve_eq (settings : Settings) (alike : first.resolve = second.resolve) :
    Interchangeable settings first second := by
  intro wired windows limit happenings
  have congruence := congruence_apartFromApps alike
  have opened : ApartFromApps first second (openWith settings first wired windows limit)
      (openWith settings second wired windows limit) :=
    congruence.syncWindows ⟨_, rfl, rfl⟩
  obtain ⟨replies, switcher, ended, endedToo⟩ := congruence.replies_eq opened happenings
  refine ⟨replies, ?_⟩
  rw [ended, endedToo]
  rfl

/-- The first splash shows how the directory resolves the id of the launch. -/
theorem appInfo_launchStarted_of_isEmpty {switcher : Switcher} (empty : switcher.carousel = {})
    (id : String) (startupId : StartupId) (now : Nat) :
    (switcher.launchStarted id startupId now).carousel.activities.head?.bind (·.appInfo) =
      switcher.apps.resolve id := by
  unfold launchStarted
  cases switcher.apps.resolve id with
  | none => rw [empty]; rfl
  | some appInfo =>
      simp only [createActivity, mapCarousel, announceOccupancy, placeOf, empty]
      rfl

/-- Interchangeable directories recognise the same ids, as a started launch tells them apart. -/
theorem resolve_eq_of_interchangeable {settings : Settings}
    (same : Interchangeable settings first second) : first.resolve = second.resolve := by
  funext id
  let launched (apps : AppDirectory) :=
    (openWith settings apps false [] none).launchStarted id ⟨""⟩ 0
  have shown (apps : AppDirectory) :
      (launched apps).carousel.activities.head?.bind (·.appInfo) = apps.resolve id :=
    appInfo_launchStarted_of_isEmpty rfl id ⟨""⟩ 0
  have handled (switcher : Switcher) :
      switcher.undergoAll [.event 0 (.launch ⟨.started, id, ⟨""⟩⟩)] =
        switcher.launchStarted id ⟨""⟩ 0 := by
    simp only [undergoAll, List.foldl, undergo, handle, handleLaunch]
  have ended : launched second = (launched first).withApps second := by
    have ended := (same false [] none [.event 0 (.launch ⟨.started, id, ⟨""⟩⟩)]).2
    rwa [handled, handled] at ended
  rw [← shown first, ← shown second, ended, carousel_withApps]

/-- Whether the order in which the listed applications are searched matters. The order of the list is one of
many. An id is resolved alike in all of them if it is unambiguous, and only then. If all ids are, then two
runs with the same settings match windows with launches alike whatever the order, and only then. -/
theorem search_order_irrelevant_iff (settings : Settings) :
    let entries := settings.apps.known
    (∃ directory : AppDirectory, directory.Enumerates entries ∧
      directory.resolve = (AppDirectory.ofList entries).resolve) ∧
    (∀ id : String,
      (∀ first second : AppDirectory, first.Enumerates entries → second.Enumerates entries →
        first.resolve id = second.resolve id) ↔ (AppDirectory.ofList entries).Unambiguous id) ∧
    ((∀ first second : AppDirectory, first.Enumerates entries → second.Enumerates entries →
        Interchangeable settings first second) ↔
      ∀ id : String, (AppDirectory.ofList entries).Unambiguous id) := by
  intro entries
  have resolved := AppDirectory.resolve_eq_iff_unambiguous entries
  refine ⟨AppDirectory.exists_enumerates_resolve_eq entries, resolved, fun same id => ?_,
    fun clear first second enumerates enumeratesToo => ?_⟩
  · refine (resolved id).1 fun first second enumerates enumeratesToo => ?_
    exact congrFun (resolve_eq_of_interchangeable (same first second enumerates enumeratesToo)) id
  · refine interchangeable_of_resolve_eq settings (funext fun id => ?_)
    exact (resolved id).2 (clear id) first second enumerates enumeratesToo

/-- The settings may list two applications in any order, and an ending more or less. -/
theorem maps_and_chatty_in_either_order :
    let settings : Settings := { apps := { known := ["org.gnome.Maps.desktop", "sm.puri.Chatty"] } }
    let reordered : AppDirectory := ⟨["sm.puri.Chatty", "org.gnome.Maps"]⟩
    reordered.Enumerates settings.apps.known ∧
      (AppDirectory.ofList settings.apps.known).resolve "SM.PURI.CHATTY" =
        reordered.resolve "SM.PURI.CHATTY" ∧
      Interchangeable settings (.ofList settings.apps.known) reordered := by
  intro settings reordered
  have distinct : (AppDirectory.ofList settings.apps.known).known.Nodup := by decide +kernel
  have inOrder := AppDirectory.enumerates_ofList distinct
  have enumerates : reordered.Enumerates settings.apps.known := by
    refine inOrder.of_perm ?_
    decide +kernel
  have apart := AppDirectory.unambiguous_of_injOn
    (show ∀ one ∈ (AppDirectory.ofList settings.apps.known).known,
      ∀ other ∈ (AppDirectory.ofList settings.apps.known).known,
        AppDirectory.folded one = AppDirectory.folded other → one = other by decide +kernel)
  obtain ⟨-, resolved, run⟩ := search_order_irrelevant_iff settings
  exact ⟨enumerates, (resolved _).2 (apart _) _ _ inOrder enumerates,
    run.2 apart _ _ inOrder enumerates⟩

/-- If the settings list two spellings of a name, a window that reports a third one takes the place of the
splash or gets a card of its own, depending on which of the two is found first. -/
theorem third_spelling_depends_on_order :
    let settings : Settings := { apps := { known := ["org.gnome.Maps", "org.gnome.maps"] } }
    let inOrder : AppDirectory := ⟨["org.gnome.Maps", "org.gnome.maps"]⟩
    let reordered : AppDirectory := ⟨["org.gnome.maps", "org.gnome.Maps"]⟩
    let happenings : List Happening :=
      [.event 0 (.launch ⟨.started, "org.gnome.Maps", ⟨"maps"⟩⟩),
        .event 1 (.window (.added { id := ⟨1⟩, appId := "org.gnome.MAPS" }))]
    settings.fault? = none ∧ inOrder.Enumerates settings.apps.known ∧
      reordered.Enumerates settings.apps.known ∧
      inOrder.resolve "org.gnome.MAPS" = some ⟨"org.gnome.Maps.desktop"⟩ ∧
      reordered.resolve "org.gnome.MAPS" = some ⟨"org.gnome.maps.desktop"⟩ ∧
      ((openWith settings inOrder true [] none).undergoAll happenings).carousel.length = 1 ∧
      ((openWith settings reordered true [] none).undergoAll happenings).carousel.length = 2 := by
  intro settings inOrder reordered happenings
  have distinct : (AppDirectory.ofList settings.apps.known).known.Nodup := by decide +kernel
  have listed := AppDirectory.enumerates_ofList distinct
  refine ⟨by decide +kernel, listed.of_perm ?_, listed.of_perm ?_, ?_⟩ <;> decide +kernel

end TaskSwitcher.Switcher
