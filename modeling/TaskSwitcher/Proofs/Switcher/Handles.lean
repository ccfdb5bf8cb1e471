import TaskSwitcher.Proofs.Switcher.Happenings
import TaskSwitcher.Proofs.Switcher.Refusal

/-!
# A handle dies with its card

In a run that makes fewer than 2^31 cards the arena remembers every handle that it has handed out. A new
card therefore gets a handle that no card had before, and the handle of a card that is gone leads nowhere
for the rest of the run, even when its slot is in use again.
-/

namespace TaskSwitcher

/-- The address of the card that an action speaks of, if it speaks of one. -/
def UiEvent.reference? : UiEvent → Option ActivityRef
  | clicked activity => some activity
  | closeRequested activity => some activity
  | fullscreenRequested activity _ => some activity
  | resized activity _ _ => some activity
  | focusChanged activity _ => some activity
  | pageChanged index => index.map .page
  | _ => none

namespace Switcher

/-- The handles that were handed out between two situations, if no card was made and removed again in
between. -/
def arrivals (before after : Switcher) : List Handle :=
  after.carousel.order.diff before.carousel.order

/-- The handles that are handed out in a run. No happening removes a card that it has made. -/
def issued (switcher : Switcher) : List Happening → List Handle
  | [] => []
  | first :: rest =>
      switcher.arrivals (switcher.undergo first) ++ (switcher.undergo first).issued rest

variable {switcher before middle after : Switcher}

/-- The handles of a run are those of its start and those of the rest. -/
theorem issued_append (switcher : Switcher) (earlier later : List Happening) :
    switcher.issued (earlier ++ later) =
      switcher.issued earlier ++ (switcher.undergoAll earlier).issued later := by
  induction earlier generalizing switcher with
  | nil => rfl
  | cons first rest inductionHypothesis =>
      rw [List.cons_append, issued, issued, inductionHypothesis, List.append_assoc, undergoAll_cons]

/-! ### Making cards -/

/-- Cards were made under the handles `created`, one after the other, and none was removed. -/
structure Makes (created : List Handle) (before after : Switcher) : Prop where
  order : after.carousel.order.Perm (created ++ before.carousel.order)
  remembers : ∀ issued, before.carousel.arena.Remembers issued →
    2 * (issued ++ created).length < UInt32.size → after.carousel.arena.Remembers (issued ++ created)

namespace Makes

/-- Where no card comes or goes, no handle is handed out. -/
theorem nothing (order : after.carousel.order = before.carousel.order)
    (shapes : after.carousel.arena.shapes = before.carousel.arena.shapes) :
    Makes [] before after where
  order := by rw [order, List.nil_append]
  remembers issued remembers few := by
    rw [List.append_nil]
    exact remembers.of_shapes_eq shapes

/-- A new card is made under the handle that is handed out next. -/
theorem create (valid : before.carousel.Valid) (activity : Activity) :
    Makes [before.carousel.nextHandle] before (before.createActivity activity) where
  order := Carousel.order_insert_perm (before.placeOf activity) activity
  remembers issued remembers few := by
    change (before.carousel.insert (before.placeOf activity) activity).arena.Remembers _
    rw [Carousel.arena_insert]
    rw [List.length_append, List.length_singleton] at few
    exact remembers.insert valid.arena few activity

/-- Cards that are made one time and cards that are made another time have been made. -/
theorem trans {created more : List Handle} (first : Makes created before middle)
    (second : Makes more middle after) : Makes (created ++ more) before after where
  order := by
    refine second.order.trans ?_
    rw [List.append_assoc]
    exact (first.order.append_left more).trans (List.perm_append_comm_assoc ..)
  remembers issued remembers few := by
    rw [← List.append_assoc] at few ⊢
    refine second.remembers _ (first.remembers issued remembers ?_) few
    rw [List.length_append] at few
    omega

/-- The handles of the new cards are those that were not on the strip before. -/
theorem arrivals {created : List Handle} (makes : Makes created before after) :
    (before.arrivals after).Perm created := by
  have kept : before.carousel.order.Subperm after.carousel.order :=
    (List.sublist_append_right created _).subperm.trans makes.order.symm.subperm
  have complete : (before.carousel.order ++ before.arrivals after).Perm after.carousel.order :=
    List.subperm_append_diff_self_of_count_le (List.subperm_ext_iff.1 kept)
  exact (List.perm_append_left_iff _).1
    ((complete.trans makes.order).trans List.perm_append_comm)

end Makes

/-- A deed makes cards and removes none. -/
theorem Deed.makes (deed : Deed before after) (valid : before.carousel.Valid) :
    ∃ created, Makes created before after := by
  rcases deed.keepsStrip_or with keeps | ⟨activity, rfl⟩ | rfl
  · exact ⟨[], .nothing keeps.strip.order keeps.strip.shapes⟩
  · exact ⟨_, .create valid activity⟩
  · exact ⟨[], .nothing rfl rfl⟩

/-- Deeds make cards and remove none. -/
theorem Deeds.makes (deeds : Deeds before after) (valid : before.carousel.Valid) :
    ∃ created, Makes created before after := by
  refine deeds.lift (fun _ => ⟨[], .nothing rfl rfl⟩) ?_ (fun valid deed => deed.makes valid) valid
  rintro before middle after ⟨created, makes⟩ ⟨more, makesMore⟩
  exact ⟨created ++ more, makes.trans makesMore⟩

/-! ### Removing cards -/

/-- Cards were removed, and none was made. -/
structure Drops (before after : Switcher) : Prop where
  order : after.carousel.order.Sublist before.carousel.order
  remembers : ∀ issued, 2 * issued.length < UInt32.size →
    before.carousel.arena.Remembers issued → after.carousel.arena.Remembers issued

namespace Drops

/-- Removing nothing makes nothing. -/
theorem refl : Drops before before where
  order := .refl _
  remembers _ _ remembers := remembers

/-- Removals one after the other make nothing. -/
theorem trans (first : Drops before middle) (second : Drops middle after) : Drops before after where
  order := second.order.trans first.order
  remembers issued few remembers := second.remembers issued few (first.remembers issued few remembers)

/-- Erasing makes no card: the handle leaves the order, and its slot remembers it. -/
theorem erase {handle : Handle} (order : after.carousel.order = (before.carousel.erase handle).order)
    (arena : after.carousel.arena = (before.carousel.erase handle).arena) : Drops before after where
  order := by
    rw [order]
    unfold Carousel.erase
    split
    · rw [Carousel.order_noteOccupancy]
      exact List.filter_sublist
    · exact .refl _
  remembers issued few remembers := by
    rw [arena]
    unfold Carousel.erase
    split
    · rw [Carousel.arena_noteOccupancy]
      exact remembers.remove few handle
    · exact remembers

/-- The removal of a card makes none. -/
theorem destroyActivity (handle : Handle) : Drops before (before.destroyActivity handle) := by
  rcases before.carousel_destroyActivity handle with same | drained
  · exact erase (by rw [same]) (by rw [same])
  · exact erase (by rw [drained]; rfl) (by rw [drained]; rfl)

end Drops

/-- Removals make nothing. -/
theorem Clears.drops (clears : Clears before after) : Drops before after :=
  clears.lift (fun _ => .refl) (fun first second => first.trans second) fun _ => .destroyActivity

/-! ### Handles that are remembered -/

/-- Whatever handles were remembered before, they and those of the new cards are remembered after. -/
def RemembersArrivals (before after : Switcher) : Prop :=
  ∀ issued, before.carousel.arena.Remembers issued →
    2 * (issued ++ before.arrivals after).length < UInt32.size →
    after.carousel.arena.Remembers (issued ++ before.arrivals after)

/-- The handles under which cards are made are those that arrive. -/
theorem Makes.remembersArrivals {created : List Handle} (makes : Makes created before after) :
    RemembersArrivals before after := by
  intro issued remembers few
  have same : (issued ++ before.arrivals after).Perm (issued ++ created) :=
    makes.arrivals.append_left issued
  rw [same.length_eq] at few
  exact (makes.remembers issued remembers few).perm same.symm

/-- Deeds remember the handles of the cards that they make. -/
theorem Deeds.remembersArrivals (deeds : Deeds before after) (valid : before.carousel.Valid) :
    RemembersArrivals before after := by
  obtain ⟨created, makes⟩ := deeds.makes valid
  exact makes.remembersArrivals

/-- Removals bring no new handles. -/
theorem Drops.remembersArrivals (drops : Drops before after) (valid : before.carousel.Valid) :
    RemembersArrivals before after := by
  have none : before.arrivals after = [] := by
    refine List.eq_nil_iff_forall_not_mem.2 fun handle new => ?_
    rw [arrivals, (valid.order_nodup.sublist drops.order).mem_sdiff_iff] at new
    exact new.2 (drops.order.subset new.1)
  intro issued remembers few
  rw [none, List.append_nil] at few ⊢
  exact drops.remembers issued few remembers

/-- An event makes cards or removes some, not both, so the new handles can be told. -/
theorem remembersArrivals_handle (valid : switcher.carousel.Valid) (now : Nat) (event : Event) :
    RemembersArrivals switcher (switcher.handle now event).1 := by
  rcases switcher.handle_cases now event with ⟨handle, request, rfl⟩ | deeds | clears
  · have shapes := Arena.shapes_modify switcher.carousel.arena handle (·.receive request)
    exact Makes.remembersArrivals (.nothing rfl shapes)
  · exact deeds.remembersArrivals valid
  · exact clears.drops.remembersArrivals valid

/-! ### Along a run -/

/-- Each happening remembers the handles that it hands out. -/
theorem remembersArrivals_undergo (valid : switcher.carousel.Valid) (happening : Happening) :
    RemembersArrivals switcher (switcher.undergo happening) := by
  have unchanged : RemembersArrivals switcher switcher :=
    Makes.remembersArrivals (.nothing rfl rfl)
  cases happening with
  | event now event => exact remembersArrivals_handle valid now event
  | next now =>
      rcases switcher.undergo_next_cases now with same | ⟨event, -, handled⟩
      · rwa [same]
      · rw [handled]
        have validTaken : switcher.taken.carousel.Valid := valid
        exact remembersArrivals_handle validTaken now event
  | sync => exact Deeds.remembersArrivals switcher.deeds_syncWindows valid
  | collect => exact unchanged
  | device device => exact unchanged

/-- A run remembers all handles that were ever handed out, unless there are too many of them. -/
theorem remembers_undergoAll {handles : List Handle} (valid : switcher.carousel.Valid)
    (remembers : switcher.carousel.arena.Remembers handles) (happenings : List Happening)
    (few : 2 * (handles ++ switcher.issued happenings).length < UInt32.size) :
    (switcher.undergoAll happenings).carousel.Valid ∧
      (switcher.undergoAll happenings).carousel.arena.Remembers
        (handles ++ switcher.issued happenings) := by
  induction happenings generalizing switcher handles with
  | nil =>
      rw [issued, List.append_nil]
      exact ⟨valid, remembers⟩
  | cons first rest inductionHypothesis =>
      rw [issued, ← List.append_assoc] at few ⊢
      refine inductionHypothesis (valid_undergo valid first) ?_ few
      refine remembersArrivals_undergo valid first handles remembers ?_
      rw [List.length_append] at few
      omega

/-- A handle that was handed out and finds no card finds none after a happening either: it is not handed
out again. -/
theorem absent_undergo {handles : List Handle} (valid : switcher.carousel.Valid)
    (happening : Happening)
    (distinct : (handles ++ switcher.arrivals (switcher.undergo happening)).Nodup)
    {handle : Handle} (old : handle ∈ handles) (gone : switcher.carousel.contains handle = false) :
    (switcher.undergo happening).carousel.contains handle = false := by
  rw [← Bool.not_eq_true, ← (valid_undergo valid happening).mem_order_iff]
  rw [← Bool.not_eq_true, ← valid.mem_order_iff] at gone
  intro present
  have new : handle ∈ switcher.arrivals (switcher.undergo happening) :=
    List.mem_diff_of_mem present gone
  exact (List.disjoint_of_nodup_append distinct) old new

/-- Where handles are handed out once only, a card that is gone does not come back. -/
theorem absent_undergoAll {handles : List Handle} (valid : switcher.carousel.Valid)
    (happenings : List Happening) (distinct : (handles ++ switcher.issued happenings).Nodup)
    {handle : Handle} (old : handle ∈ handles) (gone : switcher.carousel.contains handle = false) :
    (switcher.undergoAll happenings).carousel.contains handle = false := by
  induction happenings generalizing switcher handles with
  | nil => exact gone
  | cons first rest inductionHypothesis =>
      rw [issued, ← List.append_assoc] at distinct
      have gone := absent_undergo valid first distinct.of_append_left old gone
      exact inductionHypothesis (valid_undergo valid first) distinct (List.mem_append_left _ old) gone

/-! ### Handles without a card -/

/-- An action on a card that is gone cannot be served. -/
theorem refuses_of_gone {handle : Handle} {event : UiEvent}
    (gone : switcher.carousel.contains handle = false)
    (addressed : event.reference? = some (.id handle)) :
    switcher.Refuses (.ui event) (.activityNotFound (ActivityRef.id handle).text) := by
  cases event with
  | clicked reference => cases addressed; exact .clicked gone
  | closeRequested reference => cases addressed; exact .closeRequested gone
  | fullscreenRequested reference fullscreen => cases addressed; exact .fullscreenRequested gone
  | resized reference width height => cases addressed; exact .resized gone
  | focusChanged reference hasFocus => cases addressed; exact .focusChanged gone
  | pageChanged index => cases index <;> cases addressed
  | appLaunched appId => cases addressed
  | selectionAborted => cases addressed
  | usableAreaChanged width height => cases addressed
  | refresh => cases addressed
  | reset => cases addressed
  | focusAppSearch => cases addressed
  | search input => cases addressed

/-- A picture for a card that is gone is ignored. -/
theorem thumbnailReady_of_gone {handle : Handle}
    (gone : switcher.carousel.contains handle = false) (request : ThumbnailRequest) :
    switcher.thumbnailReady handle request = switcher := by
  rw [Carousel.contains_eq_false_iff] at gone
  rw [thumbnailReady, mapCarousel, Carousel.modify, Arena.modify_of_get?_eq_none gone]

/-- In a run that makes fewer than 2^31 cards, each card gets a handle of its own. Once a card is gone its
handle finds no card for the rest of the run: actions addressed by it fail and change nothing, and pictures
sent to it are ignored. -/
theorem handle_dies_with_card (noCards : switcher.carousel = {}) (earlier later : List Happening)
    (few : 2 * (switcher.issued (earlier ++ later)).length < UInt32.size) :
    let before := switcher.undergoAll earlier
    let after := switcher.undergoAll (earlier ++ later)
    (switcher.issued (earlier ++ later)).Nodup ∧
      ∀ handle ∈ switcher.issued earlier, before.carousel.contains handle = false →
        after.carousel.contains handle = false ∧
          (∀ now event, event.reference? = some (.id handle) →
            after.handle now (.ui event) =
              (after, .error (.activityNotFound (ActivityRef.id handle).text))) ∧
          ∀ now request, after.handle now (.thumbnailReady handle request) = (after, .ok ()) := by
  intro before after
  have valid : switcher.carousel.Valid := noCards ▸ Carousel.valid_empty
  have remembers : switcher.carousel.arena.Remembers [] := noCards ▸ Arena.remembers_empty
  have distinct : (switcher.issued (earlier ++ later)).Nodup :=
    (remembers_undergoAll valid remembers (earlier ++ later) few).2.distinct
  have validBefore : before.carousel.Valid := by
    refine (remembers_undergoAll valid remembers earlier ?_).1
    rw [issued_append, List.length_append] at few
    rw [List.nil_append]
    omega
  refine ⟨distinct, fun handle old gone => ?_⟩
  rw [issued_append] at distinct
  have goneAfter : after.carousel.contains handle = false := by
    change (switcher.undergoAll (earlier ++ later)).carousel.contains handle = false
    rw [undergoAll_append]
    exact absent_undergoAll validBefore later distinct old gone
  refine ⟨goneAfter, fun now event addressed => ?_, fun now request => ?_⟩
  · exact (refuses_of_gone goneAfter addressed).handle_eq now
  · change (after.thumbnailReady handle request, _) = _
    rw [thumbnailReady_of_gone goneAfter]

/-- A window is opened and closed, and another window is opened, whose card gets the slot of the first. A
click on the card of the closed window fails all the same. -/
theorem click_on_closed_card_fails :
    let parts := assemble {} true [] none
    let earlier := [Happening.event 0 (.window (.added Scenario.callsWindow)),
      .event 0 (.window (.closed ⟨1⟩))]
    let later := [Happening.event 0 (.window (.added Scenario.settingsWindow))]
    let before := parts.undergoAll earlier
    let after := parts.undergoAll (earlier ++ later)
    parts.carousel = {} ∧ 2 * (parts.issued (earlier ++ later)).length < UInt32.size ∧
      ⟨1, 1⟩ ∈ parts.issued earlier ∧ before.carousel.contains ⟨1, 1⟩ = false ∧
      after.carousel.contains ⟨1, 3⟩ = true ∧
      after.handle 0 (.ui (.clicked (.id ⟨1, 1⟩))) =
        (after, .error (.activityNotFound "ActivityId(1v1)")) := by
  intro parts earlier later before after
  have few : 2 * (parts.issued (earlier ++ later)).length < UInt32.size := by decide +kernel
  have old : ⟨1, 1⟩ ∈ parts.issued earlier := by decide +kernel
  have gone : before.carousel.contains ⟨1, 1⟩ = false := by decide +kernel
  obtain ⟨-, dead⟩ := handle_dies_with_card rfl earlier later few
  obtain ⟨-, fails, -⟩ := dead ⟨1, 1⟩ old gone
  have text : (ActivityRef.id ⟨1, 1⟩).text = "ActivityId(1v1)" := by decide +kernel
  exact ⟨rfl, few, old, gone, by decide +kernel, text ▸ fails 0 (.clicked (.id ⟨1, 1⟩)) rfl⟩

end Switcher

end TaskSwitcher
