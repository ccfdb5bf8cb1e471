import TaskSwitcher.Proofs.Session.InStep

/-!
# Where the focus goes

The focus follows a window that is opened as the active one and a window that becomes active, and leaves a
window that is closed. Reports of changes do not move it, nor do reports of windows that are shown already.
`finalFocus` is where a list of events leads the focus, if certain windows are shown at first.
-/

namespace TaskSwitcher

/-- The window in focus after a piece of news. -/
def focusAfter (shown : Finset WindowId) (focus : Option WindowId) : Event → Option WindowId
  | .window (.added window) =>
      if window.activated ∧ window.id ∉ shown then some window.id else focus
  | .window (.activatedChanged window) => if window.activated then some window.id else focus
  | .window (.closed id) => if focus = some id then none else focus
  | _ => focus

/-- The window in focus after all of the news, if the windows `shown` are shown at first. -/
def finalFocus : Finset WindowId → Option WindowId → List Event → Option WindowId
  | _, focus, [] => focus
  | shown, focus, event :: rest =>
      finalFocus (shownAfter shown event) (focusAfter shown focus event) rest

variable {shown less more final : Finset WindowId} {focus other : Option WindowId}
  {id : WindowId}

/-- Events that lead somewhere show the windows there in the end. -/
theorem Leads.foldl_shownAfter {events : List Event} (leads : Leads final shown events) :
    events.foldl shownAfter shown = final := by
  induction events generalizing shown with
  | nil => exact leads
  | cons event rest inductionHypothesis => exact inductionHypothesis leads.2

/-- Further news move the focus that the earlier ones lead to. -/
theorem finalFocus_append (shown : Finset WindowId) (focus : Option WindowId)
    (events further : List Event) :
    finalFocus shown focus (events ++ further) =
      finalFocus (events.foldl shownAfter shown) (finalFocus shown focus events) further := by
  induction events generalizing shown focus with
  | nil => rfl
  | cons event rest inductionHypothesis => exact inductionHypothesis ..

/-! ### Windows that are shown too early -/

/-- Where more is shown, more is shown after the same news. -/
theorem shownAfter_subset (subset : less ⊆ more) (event : Event) :
    shownAfter less event ⊆ shownAfter more event := by
  unfold shownAfter
  split
  · exact Finset.insert_subset_insert _ subset
  · exact Finset.erase_subset_erase _ subset
  · exact subset

/-- Whether a window is shown after some news depends on whether it was, not on the other windows. -/
theorem mem_shownAfter_congr (agree : id ∈ less ↔ id ∈ more) (event : Event) :
    id ∈ shownAfter less event ↔ id ∈ shownAfter more event := by
  unfold shownAfter
  split
  · rw [Finset.mem_insert, Finset.mem_insert, agree]
  · rw [Finset.mem_erase, Finset.mem_erase, agree]
  · exact agree

/-- News that move the focus to a window do so as well where other windows are shown besides. -/
theorem focusAfter_mono (subset : less ⊆ more) (agree : id ∈ less ↔ id ∈ more)
    (kept : focus = some id → other = some id) (event : Event)
    (focused : focusAfter less focus event = some id) : focusAfter more other event = some id := by
  unfold focusAfter at focused ⊢
  split at focused
  · next window =>
      split at focused
      · next opens =>
          obtain ⟨active, unseen⟩ := opens
          have same : window.id = id := Option.some.inj focused
          subst same
          rw [if_pos ⟨active, mt agree.2 unseen⟩]
      · next stays =>
          -- A window that is shown in the one case is shown in the other.
          have seen : ¬ (window.activated = true ∧ window.id ∉ more) := fun opens =>
            stays ⟨opens.1, mt (@subset window.id) opens.2⟩
          rw [if_neg seen, kept focused]
  · split at focused
    · next active => rw [if_pos active, focused]
    · next inactive => rw [if_neg inactive, kept focused]
  · split at focused
    · cases focused
    · next apart =>
        rw [kept focused]
        rw [focused] at apart
        rw [if_neg apart]
  · exact kept focused

/-- If some windows are shown earlier than the news tell of them, a window of which this does not hold
is in focus in the end as it would be anyway. -/
theorem finalFocus_mono (subset : less ⊆ more) (agree : id ∈ less ↔ id ∈ more)
    (kept : focus = some id → other = some id) {events : List Event}
    (focused : finalFocus less focus events = some id) :
    finalFocus more other events = some id := by
  induction events generalizing less more focus other with
  | nil => exact kept focused
  | cons event rest inductionHypothesis =>
      exact inductionHypothesis (shownAfter_subset subset event)
        (mem_shownAfter_congr agree event) (focusAfter_mono subset agree kept event) focused

/-! ### Lists of reports -/

/-- Reports of changes do not move the focus. -/
theorem finalFocus_changed (shown : Finset WindowId) (focus : Option WindowId)
    (windows : List Window) :
    finalFocus shown focus (windows.map fun window => .window (.changed window)) = focus := by
  induction windows with
  | nil => rfl
  | cons first rest inductionHypothesis => exact inductionHypothesis

/-- Of news that one window became active and others inactive, the first moves the focus. -/
theorem finalFocus_activatedAt (shown : Finset WindowId) (focus : Option WindowId) (id : WindowId)
    (windows : List Window) (told : focus = some id ∨ ∃ window ∈ windows, window.id = id) :
    finalFocus shown focus (windows.map fun window =>
      .window (.activatedChanged (Registry.activatedAt id window))) = some id := by
  induction windows generalizing focus with
  | nil =>
      rcases told with already | ⟨window, none, -⟩
      · exact already
      · cases none
  | cons first rest inductionHypothesis =>
      refine inductionHypothesis (focusAfter shown focus _) ?_
      by_cases same : first.id = id
      · left
        exact (if_pos (decide_eq_true same)).trans (congrArg some same)
      · have stays : focusAfter shown focus
            (.window (.activatedChanged (Registry.activatedAt id first))) = focus :=
          if_neg (by simp [Registry.activatedAt, same])
        rw [stays]
        rcases told with already | ⟨window, member, named⟩
        · exact .inl already
        · rcases List.mem_cons.1 member with rfl | later
          · exact absurd named same
          · exact .inr ⟨window, later, named⟩

/-- Reports of opened windows do not move the focus if those that are active are shown already. -/
theorem finalFocus_added_of_shown {windows : List Window}
    (seen : ∀ window ∈ windows, window.activated = true → window.id ∈ shown) :
    finalFocus shown focus (windows.map fun window => .window (.added window)) = focus := by
  induction windows generalizing shown with
  | nil => rfl
  | cons first rest inductionHypothesis =>
      have stays : focusAfter shown focus (.window (.added first)) = focus :=
        if_neg fun opens => opens.2 (seen first List.mem_cons_self opens.1)
      have later := inductionHypothesis fun window member active =>
        Finset.mem_insert_of_mem (a := window.id) (b := first.id)
          (seen window (List.mem_cons_of_mem first member) active)
      rw [List.map_cons, finalFocus, stays]
      exact later

/-- Of reports of different windows that were opened, that of the only active one moves the focus. -/
theorem finalFocus_added {windows : List Window} (distinct : (windows.map (·.id)).Nodup)
    (unseen : ∀ window ∈ windows, window.id ∉ shown) {window : Window} (member : window ∈ windows)
    (active : window.activated = true)
    (alone : ∀ other ∈ windows, other.activated = true → other.id = window.id) :
    finalFocus shown focus (windows.map fun window => .window (.added window)) =
      some window.id := by
  induction windows generalizing shown focus with
  | nil => cases member
  | cons first rest inductionHypothesis =>
      rw [List.map_cons, List.nodup_cons] at distinct
      rw [List.map_cons, finalFocus]
      rcases List.mem_cons.1 member with rfl | later
      · have opens : focusAfter shown focus (.window (.added window)) = some window.id :=
          if_pos ⟨active, unseen window List.mem_cons_self⟩
        rw [opens]
        refine finalFocus_added_of_shown fun other within alsoActive => ?_
        have same := alone other (List.mem_cons_of_mem window within) alsoActive
        exact absurd (List.mem_map.2 ⟨other, within, same⟩) distinct.1
      · refine inductionHypothesis distinct.2 (fun other within shownFirst => ?_) later
          fun other within => alone other (List.mem_cons_of_mem first within)
        rcases Finset.mem_insert.1 shownFirst with same | early
        · exact distinct.1 (List.mem_map.2 ⟨other, within, same⟩)
        · exact unseen other (List.mem_cons_of_mem first within) early

end TaskSwitcher
