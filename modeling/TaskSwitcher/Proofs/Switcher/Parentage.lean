import TaskSwitcher.Proofs.Switcher.Cards
import TaskSwitcher.Proofs.Switcher.Placement

/-!
# Whether a card knows its parent

A new card is told the application of its window's parent, which makes it a member of the parent's group. A
window that takes over a splash is not told: launches have no parents, and the card stays as ignorant as the
splash was. So such a window is counted with its parent's group only if it is of the same application, and
later children of the parent may be put in front of it.
-/

namespace TaskSwitcher

namespace Activity

/-- A card without a window knows no parent. -/
def OrphanedSplash (activity : Activity) : Prop :=
  activity.window? = none → activity.parentAppId = none

/-- Whether a splash knows a parent shows on its outline. -/
theorem orphanedSplash_outline (activity : Activity) :
    activity.outline.OrphanedSplash ↔ activity.OrphanedSplash := by
  rw [OrphanedSplash, window?_outline, OrphanedSplash]
  rfl

end Activity

namespace Carousel

variable {carousel : Carousel} {front back : List (Handle × Activity)} {entry : Handle × Activity}
  {appId : String}

/-- A group ends behind a place exactly if the card at this place, or one behind it, is of the group. -/
theorem Valid.groupEnd?_beyond_iff (valid : carousel.Valid)
    (split : carousel.entries = front ++ entry :: back) :
    (∃ place, carousel.groupEnd? appId = some place ∧ front.length < place) ↔
      ∃ member ∈ entry :: back, inGroup appId member.2 = true := by
  rcases carousel.exists_last_of_group appId with
    groupless | ⟨earlier, last, later, lastSplit, isMember, others⟩
  · have nowhere := groupEnd?_eq_none groupless
    simp only [nowhere, reduceCtorEq, false_and, exists_false, false_iff, not_exists, not_and,
      Bool.not_eq_true]
    exact fun member within => groupless member (split ▸ List.mem_append_right front within)
  · rw [valid.groupEnd?_of_split lastSplit isMember others]
    simp only [Option.some.injEq, exists_eq_left']
    rcases List.append_eq_append_iff.1 (split.symm.trans lastSplit) with
      ⟨between, rfl, same⟩ | ⟨between, rfl, same⟩
    · -- The last member of the group stands here or behind.
      refine iff_of_true ?_ ⟨last, ?_, isMember⟩
      · rw [List.length_append]
        omega
      · rw [same]
        exact List.mem_append_right between List.mem_cons_self
    · cases between with
      | nil =>
          rw [List.nil_append] at same
          refine iff_of_true (by simp) ⟨last, same ▸ List.mem_cons_self, isMember⟩
      | cons first rest =>
          -- The last member of the group stands in front, and nobody behind it is one.
          obtain ⟨-, rfl⟩ := List.cons.inj same
          refine iff_of_false (by simp) ?_
          rintro ⟨member, within, has⟩
          rw [others member (List.mem_append_right rest within)] at has
          cases has

/-- Where a group has no card at all, a new card of it goes to the end, which is behind every place. -/
theorem Valid.lt_getD_groupEnd?_iff (valid : carousel.Valid)
    (split : carousel.entries = front ++ entry :: back) :
    front.length < (carousel.groupEnd? appId).getD carousel.length ↔
      (∃ member ∈ entry :: back, inGroup appId member.2 = true) ∨
        ∀ member ∈ front, inGroup appId member.2 = false := by
  rcases carousel.exists_last_of_group appId with
    groupless | ⟨earlier, last, later, lastSplit, isMember, others⟩
  · refine iff_of_true ?_ (.inr fun member within => ?_)
    · rw [groupEnd?_eq_none groupless, Option.getD_none, ← valid.length_entries, split,
        List.length_append, List.length_cons]
      omega
    · exact groupless member (split ▸ List.mem_append_left _ within)
  · have beyond : (∃ place, carousel.groupEnd? appId = some place ∧ front.length < place) ↔
        ∃ member ∈ entry :: back, inGroup appId member.2 = true := valid.groupEnd?_beyond_iff split
    rw [valid.groupEnd?_of_split lastSplit isMember others] at beyond ⊢
    simp only [Option.some.injEq, exists_eq_left'] at beyond
    rw [Option.getD_some, beyond, iff_self_or]
    intro noneInFront
    have within : last ∈ front ++ entry :: back := by
      rw [← split, lastSplit]
      exact List.mem_append_right earlier List.mem_cons_self
    rcases List.mem_append.1 within with inFront | behind
    · rw [noneInFront last inFront] at isMember
      cases isMember
    · exact ⟨last, behind, isMember⟩

/-- A card belongs to the group of an application by its own or by its parent. -/
theorem inGroup_iff {activity : Activity} :
    inGroup appId activity = true ↔
      activity.appId = some appId ∨ activity.parentAppId = some appId := by
  rw [inGroup, Bool.or_eq_true, decide_eq_true_iff, decide_eq_true_iff]

end Carousel

namespace Switcher

variable {switcher : Switcher}

/-- Splashes know no parent. -/
theorem lasting_orphans : Lasting (fun _ => True) Activity.OrphanedSplash where
  launching _ _ _ _ _ _ _ := rfl
  running _ _ _ _ splash := nomatch splash
  bindWindow _ _ _ splash := nomatch splash
  withArea former _ := former
  withAllocation former _ := former
  withFullscreen former _ := former
  showing former _ := former
  awaiting {activity} former request :=
    Activity.of_outline_eq Activity.orphanedSplash_outline (activity.outline_awaiting request) former
  receive {activity} former request :=
    Activity.of_outline_eq Activity.orphanedSplash_outline (activity.outline_receive request) former

/-- The window of a child has the card between `front` and `back`, which either knows the application of the
parent or knows no parent. The group of the parent ends behind the card if the card belongs to it, and
otherwise only if a card further behind does. Later children of the parent are put behind the card in these
cases, and if the group has no card in front of it either. -/
structure SeatsChild (window parent : Window) (knowing : Prop) (front : List (Handle × Activity))
    (handle : Handle) (card : Activity) (back : List (Handle × Activity)) (after : Switcher) : Prop where
  entries : after.carousel.entries = front ++ (handle, card) :: back
  shows : card.window? = some window.id
  knows : knowing → card.parentAppId = some parent.appId
  ignorant : ¬knowing → card.parentAppId = none
  groupEnd : (∃ place, after.carousel.groupEnd? parent.appId = some place ∧ front.length < place) ↔
    knowing ∨ window.appId = parent.appId ∨
      ∃ entry ∈ back, Carousel.inGroup parent.appId entry.2 = true
  later : ∀ child : Activity, child.parentAppId = some parent.appId →
    (front.length < after.placeOf child ↔
      (knowing ∨ window.appId = parent.appId ∨
        ∃ entry ∈ back, Carousel.inGroup parent.appId entry.2 = true) ∨
        ∀ entry ∈ front, Carousel.inGroup parent.appId entry.2 = false)

variable {front back : List (Handle × Activity)} {handle : Handle} {card : Activity}
  {window parent : Window} {after : Switcher} {knowing : Prop}

/-- Where the card of a child stands, and where its group ends, follows from what it knows of its parent. -/
theorem seatsChild (valid : after.carousel.Valid)
    (entries : after.carousel.entries = front ++ (handle, card) :: back)
    (appId : card.appId = some window.appId) (shows : card.window? = some window.id)
    (knows : knowing → card.parentAppId = some parent.appId)
    (ignorant : ¬knowing → card.parentAppId = none) :
    SeatsChild window parent knowing front handle card back after := by
  have known : card.parentAppId = some parent.appId ↔ knowing := by
    refine ⟨fun told => ?_, knows⟩
    by_contra untold
    cases told.symm.trans (ignorant untold)
  -- Whether this card or one behind it is of the group of the parent.
  have members : (∃ entry ∈ (handle, card) :: back, Carousel.inGroup parent.appId entry.2 = true) ↔
      knowing ∨ window.appId = parent.appId ∨
        ∃ entry ∈ back, Carousel.inGroup parent.appId entry.2 = true := by
    rw [List.exists_mem_cons_iff, Carousel.inGroup_iff, known, appId, Option.some.injEq, or_assoc,
      or_left_comm]
  refine ⟨entries, shows, knows, ignorant, ?_, fun child isChild => ?_⟩
  · rw [valid.groupEnd?_beyond_iff entries, members]
  · rw [placeOf, isChild, Option.bind_some, valid.lt_getD_groupEnd?_iff entries, members]

/-- A child that gets a new card knows its parent; one that takes over a splash does not. -/
theorem Reachable.seatsChild_placeWindow (reachable : switcher.Reachable)
    (registered : switcher.registry.parent? window = some parent)
    (valid : (switcher.placeWindow window).carousel.Valid) :
    ∃ front handle card back,
      SeatsChild window parent (switcher.splashFor? (switcher.apps.resolve window.appId) = none)
        front handle card back (switcher.placeWindow window) := by
  unfold placeWindow at valid ⊢
  cases chosen : switcher.splashFor? (switcher.apps.resolve window.appId) with
  | some handle =>
      rw [chosen] at valid
      obtain ⟨known, front, splash, back, -, first, waiting⟩ :=
        (splashFor?_eq_some_iff reachable.valid).1 chosen
      have takesOver :
          switcher.TakesOver window front handle splash back
            ((switcher.upgradeSplash handle window).focusIfActive window handle) :=
        takesOver_upgradeSplash reachable.valid first.split
      have orphaned : splash.parentAppId = none := by
        refine (reachable.every_card lasting_orphans).cards handle splash
          (reachable.valid.get?_of_split first.split) ?_
        simpa [Activity.isRunning] using waiting
      exact ⟨front, handle, _, back, seatsChild valid takesOver.entries rfl rfl
        (fun unchosen => absurd unchosen (Option.some_ne_none handle)) fun _ => orphaned⟩
  | none =>
      rw [chosen] at valid
      obtain ⟨front, back, getsCard⟩ := getsCard_addCard reachable.valid reachable.settled window
      have told : switcher.parentAppId? window = some parent.appId := by
        rw [parentAppId?, registered, Option.map_some]
      exact ⟨front, switcher.carousel.nextHandle, _, back, seatsChild valid getsCard.entries rfl rfl
        (fun _ => told) fun untold => (untold rfl).elim⟩

/-- A child learns of its parent exactly if it gets a new card: then the card knows the application of the
parent, the group of the parent ends behind the card, and so every later child of the parent is put behind it.
A child that takes over the splash of a launch is not told. Its card counts with the group of the parent only
if it is of the same application; later children may be put in front of it. -/
theorem Reachable.child_learns_parent_iff (reachable : switcher.Reachable) (now : Nat)
    (unshown : window.id ∉ switcher.carousel.windows)
    (registered : switcher.registry.parent? window = some parent) :
    ∃ front handle card back after,
      switcher.handle now (.window (.added window)) = (after, .ok ()) ∧
      SeatsChild window parent (switcher.splashFor? (switcher.apps.resolve window.appId) = none)
        front handle card back after := by
  have added : switcher.windowAdded window = switcher.placeWindow window := by
    rw [windowAdded, (Carousel.findByWindow?_eq_none_iff ..).2 unshown]
  have handled : switcher.handle now (.window (.added window)) =
      (switcher.windowAdded window, .ok ()) := rfl
  have valid := valid_handle reachable.valid now (.window (.added window))
  rw [handled, added] at valid
  obtain ⟨front, handle, card, back, seats⟩ := reachable.seatsChild_placeWindow registered valid
  exact ⟨front, handle, card, back, _, added ▸ handled, seats⟩

/-- A panel of the settings gets a new card behind the settings and learns of them. If the panel has been
launched, it takes over the splash and does not. -/
theorem panel_learns_parent_unless_launched :
    let panel : Window := { id := ⟨4⟩, appId := "org.gnome.Settings.Panel", parent := some ⟨2⟩ }
    let started := (assemble {} true [Scenario.settingsWindow, Scenario.callsWindow] none).start
    let launched := (started.handle 0 (.launch ⟨.started, panel.appId, ⟨"panel"⟩⟩)).1
    (∃ front handle card back after,
      started.handle 0 (.window (.added panel)) = (after, .ok ()) ∧
      SeatsChild panel Scenario.settingsWindow True front handle card back after) ∧
    ∃ front handle card back after,
      launched.handle 0 (.window (.added panel)) = (after, .ok ()) ∧
      SeatsChild panel Scenario.settingsWindow False front handle card back after := by
  intro panel started launched
  have reachable : started.Reachable := .start rfl rfl
  have launches : launched.Reachable :=
    .handle reachable 0 (.launch ⟨.started, panel.appId, ⟨"panel"⟩⟩)
  constructor
  · have unannounced : (started.splashFor? (started.apps.resolve panel.appId) = none) = True :=
      eq_true (by decide +kernel)
    rw [← unannounced]
    exact reachable.child_learns_parent_iff 0 (by decide +kernel) (by decide +kernel)
  · have announced : (launched.splashFor? (launched.apps.resolve panel.appId) = none) = False :=
      eq_false (by decide +kernel)
    rw [← announced]
    exact launches.child_learns_parent_iff 0 (by decide +kernel) (by decide +kernel)

/-- A panel that takes over its splash stands behind the group of its parent, and the next child of the parent
is put in front of it. -/
theorem launched_panel_forgets_parent :
    let panel : Window := { id := ⟨4⟩, appId := "org.gnome.Settings.Panel", parent := some ⟨2⟩ }
    let other : Window := { id := ⟨5⟩, appId := "org.gnome.Settings.Other", parent := some ⟨2⟩ }
    let started := (assemble {} true [Scenario.settingsWindow, Scenario.callsWindow] none).start
    let launched := (started.handle 0 (.launch ⟨.started, panel.appId, ⟨"panel"⟩⟩)).1
    let placed := (launched.handle 0 (.window (.added panel))).1
    launched.Reachable ∧ panel.id ∉ launched.carousel.windows ∧
      launched.registry.parent? panel = some Scenario.settingsWindow ∧
      (placed.carousel.get? ⟨3, 1⟩).map Activity.window? = some (some panel.id) ∧
      (placed.carousel.get? ⟨3, 1⟩).map Activity.parentAppId = some none ∧
      placed.carousel.order = [⟨1, 1⟩, ⟨2, 1⟩, ⟨3, 1⟩] ∧
      placed.carousel.groupEnd? Scenario.settingsWindow.appId = some 1 ∧
      (placed.handle 0 (.window (.added other))).1.carousel.windows = [⟨2⟩, ⟨5⟩, ⟨1⟩, ⟨4⟩] := by
  intro panel other started launched placed
  refine ⟨.handle (.start rfl rfl) 0 (.launch ⟨.started, panel.appId, ⟨"panel"⟩⟩), ?_⟩
  decide +kernel

end Switcher

end TaskSwitcher
