import TaskSwitcher.Proofs.Registry.Families
import TaskSwitcher.Proofs.Switcher.Placement

/-!
# Children stay with their parent

While no launches are about, every new window gets a card of its own, and its place depends on nothing but the
kin of the cards. If the windows come in families then the strip always lines the families up, whether the
windows are reported one after the other or are there from the start.
-/

namespace TaskSwitcher

/-- What the card shows, and which groups it belongs to. -/
def Activity.kin (activity : Activity) : Kin :=
  ⟨activity.window?, activity.appId, activity.parentAppId⟩

namespace Carousel

/-- The kin of the cards in their order. -/
def kinship (carousel : Carousel) : List Kin :=
  carousel.entries.map (·.2.kin)

end Carousel

namespace Switcher

/-- The strip shows these windows and nothing else, and lines their families up. -/
structure LinesUp (windows : List Window) (switcher : Switcher) : Prop where
  valid : switcher.carousel.Valid
  kinship_eq : switcher.carousel.kinship = kinship windows

variable {switcher : Switcher} {windows : List Window} {window : Window}

namespace LinesUp

variable (linesUp : LinesUp windows switcher)

include linesUp

/-- Every card of a strip that lines up shows one of the windows. -/
theorem exists_of_mem_entries {entry : Handle × Activity}
    (member : entry ∈ switcher.carousel.entries) :
    ∃ window ∈ windows, entry.2.window? = some window.id := by
  have within : entry.2.kin ∈ kinship windows := by
    rw [← linesUp.kinship_eq]
    exact List.mem_map_of_mem member
  exact exists_of_mem_kinship within

/-- A window that is not shown yet gets a card of its own. -/
theorem windowAdded_eq (fresh : ∀ earlier ∈ windows, earlier.id ≠ window.id) :
    switcher.windowAdded window =
      (switcher.addCard window).focusIfActive window switcher.carousel.nextHandle := by
  have unshown : switcher.carousel.findByWindow? window.id = none := by
    rw [Carousel.findByWindow?, Carousel.findHandle?_eq_none_iff_entries]
    intro entry member
    obtain ⟨earlier, known, shows⟩ := linesUp.exists_of_mem_entries member
    simpa [shows] using fresh earlier known
  have none : switcher.splashFor? (switcher.apps.resolve window.appId) = none := by
    apply splashFor?_eq_none linesUp.valid
    intro _ _ _ card _ _ first
    obtain ⟨earlier, -, shows⟩ := linesUp.exists_of_mem_entries first.mem_entries
    rw [Activity.isRunning, shows]
    rfl
  unfold windowAdded placeWindow
  rw [unshown, none]

omit linesUp in
/-- The kin of a new card stand where the strip was parted. -/
theorem kinship_addCard (valid : switcher.carousel.Valid) {front back : List (Handle × Activity)}
    (split : switcher.carousel.entries = front ++ back)
    (place : (((switcher.parentAppId? window).bind switcher.carousel.groupEnd?).getD
      switcher.carousel.length) = front.length) :
    (switcher.addCard window).carousel.kinship =
      front.map (·.2.kin) ++ window.kin (switcher.parentAppId? window) :: back.map (·.2.kin) := by
  have inserted := valid.entries_insert_of_split split (.running window
    (switcher.apps.resolve window.appId) (switcher.parentAppId? window) switcher.shell.usableArea)
  rw [← place] at inserted
  have entries : (switcher.addCard window).carousel.entries = _ := inserted
  rw [Carousel.kinship, entries, List.map_append, List.map_cons]
  rfl

/-- One more window joins its family, or begins one at the end. -/
theorem windowAdded (families : Families (windows ++ [window]))
    (knows : switcher.registry.KnowsApps windows) :
    LinesUp (windows ++ [window]) (switcher.windowAdded window) := by
  refine ⟨(shows_windowAdded linesUp.valid.shows window).valid, ?_⟩
  have valid := linesUp.valid
  have kin : (switcher.windowAdded window).carousel.kinship =
      (switcher.addCard window).carousel.kinship := by
    rw [linesUp.windowAdded_eq fun _ => families.id_ne_of_mem, Carousel.kinship,
      entries_focusIfActive, Carousel.kinship]
  rw [kin]
  cases named : window.parent with
  | none =>
      have unrelated : switcher.parentAppId? window = none := by
        rw [parentAppId?, Registry.parent?, named, Option.bind_none, Option.map_none]
      rw [kinship_addCard valid (List.append_nil _).symm, unrelated, List.map_nil,
        families.kinship_append_head named, ← linesUp.kinship_eq]
      · rfl
      · rw [unrelated, Option.bind_none, Option.getD_none, valid.length_entries]
  | some id =>
      obtain ⟨parent, isParent, rfl, front, last, back, lined, member, others, grown⟩ :=
        families.kinship_append_child named
      have related : switcher.parentAppId? window = some parent.appId := by
        rw [parentAppId?, Registry.parent?, named, Option.bind_some, knows parent isParent]
      have cards := linesUp.kinship_eq.trans lined
      obtain ⟨before, rest, split, rfl, behind⟩ := List.map_eq_append_iff.1 cards
      obtain ⟨entry, after, rfl, rfl, rfl⟩ := List.map_eq_cons_iff.1 behind
      -- The search for the group starts at the end of the strip and stops at the family of the parent.
      have groupEnd := valid.groupEnd?_of_split split member fun other within =>
        others _ (List.mem_map_of_mem within)
      rw [List.append_cons] at split
      rw [kinship_addCard valid split, related, grown, List.map_append, List.map_singleton]
      rw [related, Option.bind_some, groupEnd, Option.getD_some, List.length_append,
        List.length_singleton]

/-- The registry is not touched. -/
theorem registry_windowAdded (fresh : ∀ earlier ∈ windows, earlier.id ≠ window.id) :
    (switcher.windowAdded window).registry = switcher.registry := by
  rw [linesUp.windowAdded_eq fresh, focusIfActive_others]
  rfl

end LinesUp

/-! ### Windows one after the other -/

/-- The empty strip lines up no windows. -/
theorem linesUp_of_no_cards (noCards : switcher.carousel = {}) : LinesUp [] switcher := by
  refine ⟨noCards ▸ Carousel.valid_empty, ?_⟩
  rw [noCards]
  rfl

/-- Windows that the registry has already. -/
theorem linesUp_foldl_windowAdded (noCards : switcher.carousel = {}) (families : Families windows)
    (knows : switcher.registry.KnowsApps windows) :
    LinesUp windows (windows.foldl windowAdded switcher) ∧
      (windows.foldl windowAdded switcher).registry = switcher.registry := by
  induction windows using List.reverseRecOn with
  | nil => exact ⟨linesUp_of_no_cards noCards, rfl⟩
  | append_singleton earlier last inductionHypothesis =>
      have knowsEarlier : switcher.registry.KnowsApps earlier := fun window member =>
        knows window (List.mem_append_left _ member)
      obtain ⟨linesUp, registry⟩ := inductionHypothesis families.of_append knowsEarlier
      rw [List.foldl_append, List.foldl_cons, List.foldl_nil]
      constructor
      · exact linesUp.windowAdded families (registry ▸ knowsEarlier)
      · rw [linesUp.registry_windowAdded fun _ => families.id_ne_of_mem, registry]

/-- A window is opened: the registry learns of it, and then it is reported. -/
def opens (switcher : Switcher) (now : Nat) (window : Window) : Switcher :=
  ({ switcher with registry := switcher.registry.put window }.handle now
    (.window (.added window))).1

/-- Windows are opened one after the other, each at its time. -/
def opensAll (switcher : Switcher) (clock : Window → Nat) (windows : List Window) : Switcher :=
  windows.foldl (fun before window => before.opens (clock window) window) switcher

/-- Each window finds the strip lined up by those opened before it, so the induction is on the last one. -/
theorem linesUp_opensAll (empty : LinesUp [] switcher) (families : Families windows)
    (clock : Window → Nat) :
    LinesUp windows (switcher.opensAll clock windows) ∧
      (switcher.opensAll clock windows).registry.KnowsApps windows := by
  induction windows using List.reverseRecOn with
  | nil => exact ⟨empty, fun _ none => nomatch none⟩
  | append_singleton earlier last inductionHypothesis =>
      obtain ⟨linesUp, knows⟩ := inductionHypothesis families.of_append
      have fresh : ∀ window ∈ earlier, window.id ≠ last.id := fun _ => families.id_ne_of_mem
      let before := switcher.opensAll clock earlier
      let registered := { before with registry := before.registry.put last }
      have opened : switcher.opensAll clock (earlier ++ [last]) = registered.windowAdded last := by
        rw [opensAll, List.foldl_append]
        rfl
      -- The registry is told first, which does not concern the strip.
      have linesUpStill : LinesUp earlier registered := ⟨linesUp.valid, linesUp.kinship_eq⟩
      have knowsAll : registered.registry.KnowsApps (earlier ++ [last]) := knows.put fresh
      rw [opened]
      constructor
      · exact linesUpStill.windowAdded families fun window member =>
          knowsAll window (List.mem_append_left _ member)
      · rwa [linesUpStill.registry_windowAdded fresh]

/-- Looking at a registry that has the windows. -/
theorem linesUp_start (parts : Switcher) (noCards : parts.carousel = {})
    (families : Families parts.registry.windows) : LinesUp parts.registry.windows parts.start := by
  have linesUp := (linesUp_foldl_windowAdded noCards families
    (Registry.knowsApps_windows families.distinct)).1
  exact ⟨linesUp.valid.drain, linesUp.kinship_eq⟩

/-- The cards of windows that come in families stand family by family: each window without a parent, in the
order in which these were opened, and directly behind it its children in the order in which they were opened.
That holds at all times while the windows are opened one after the other, and if all of them are open when the
overview starts. -/
theorem children_stay_with_parent {windows : List Window} (families : Families windows)
    {parts : Switcher} (noCards : parts.carousel = {}) (noWindows : parts.registry.windows = [])
    (clock : Window → Nat) :
    (∀ opened, opened <+: windows →
      (parts.start.opensAll clock opened).carousel.activities.map Activity.window? =
        (lineUp opened).map (some ·.id)) ∧
      { parts with registry := windows.foldl Registry.put parts.registry
        }.start.carousel.activities.map Activity.window? = (lineUp windows).map (some ·.id) := by
  have shows {shown : List Window} {switcher : Switcher} (linesUp : LinesUp shown switcher) :
      switcher.carousel.activities.map Activity.window? = (lineUp shown).map (some ·.id) := by
    rw [← map_window_kinship, ← linesUp.kinship_eq, Carousel.activities, Carousel.kinship,
      List.map_map, List.map_map]
    rfl
  constructor
  · intro opened isPrefix
    -- With no windows registered the start makes no cards.
    have empty : LinesUp [] parts.start := by
      have linesUp := linesUp_start parts noCards (noWindows ▸ families.of_isPrefix List.nil_prefix)
      rwa [noWindows] at linesUp
    exact shows (linesUp_opensAll empty (families.of_isPrefix isPrefix) clock).1
  · -- The records differ from the windows in their activation, which is of no concern to families.
    have registered : (windows.foldl Registry.put parts.registry).windows.map Window.inactive =
        windows.map Window.inactive := by
      rw [Registry.windows_foldl_put, noWindows, List.nil_append]
      rw [Registry.ids, noWindows, List.map_nil, List.nil_append]
      exact families.distinct
    have recorded : Families (windows.foldl Registry.put parts.registry).windows := by
      rw [← families_map_inactive_iff, registered, families_map_inactive_iff]
      exact families
    let informed := { parts with registry := windows.foldl Registry.put parts.registry }
    have linesUp : LinesUp informed.registry.windows informed.start :=
      linesUp_start informed noCards recorded
    exact (shows linesUp).trans (map_id_lineUp_congr registered)

/-- Two dialogs of the settings come after a window of another application, and stay with the settings. -/
theorem dialogs_stay_with_settings :
    let secondDialog : Window :=
      { id := ⟨5⟩, appId := "org.gnome.Settings.Panel", parent := some ⟨2⟩, activated := true }
    let mapsWindow : Window := { id := ⟨4⟩, appId := "org.gnome.Maps" }
    let windows :=
      [Scenario.settingsWindow, Scenario.callsWindow, Scenario.dialogWindow, mapsWindow, secondDialog]
    let parts := assemble {} true [] none
    Families windows ∧
      (parts.start.opensAll (fun _ => 0) windows).carousel.activities.map Activity.window? =
        [some ⟨2⟩, some ⟨3⟩, some ⟨5⟩, some ⟨1⟩, some ⟨4⟩] ∧
      { parts with registry := windows.foldl Registry.put parts.registry
        }.start.carousel.activities.map Activity.window? =
        [some ⟨2⟩, some ⟨3⟩, some ⟨5⟩, some ⟨1⟩, some ⟨4⟩] := by
  intro secondDialog mapsWindow windows parts
  have families : Families windows :=
    ⟨by decide, by decide, by decide, by decide⟩
  have noCards : parts.carousel = {} := rfl
  obtain ⟨opened, started⟩ := children_stay_with_parent families noCards rfl fun _ => 0
  exact ⟨families, opened windows (List.prefix_refl _), started⟩

end Switcher

end TaskSwitcher
