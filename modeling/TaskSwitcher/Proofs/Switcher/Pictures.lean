import TaskSwitcher.Proofs.Carousel.Pictures
import TaskSwitcher.Proofs.Switcher.Strip

/-!
# Requests for pictures and their answers

The maker of pictures puts the answer to a request into the mailbox before the card learns that it waits
for it. From then on the answer waits at least as long as the card does: deeds only add to the mailbox, a
new request brings its own answer, and a card stops waiting when it is removed or its answer is handled.
-/

namespace TaskSwitcher.Switcher

variable {switcher before middle after : Switcher}

/-! ### What each deed does -/

/-- No picture is asked for, answered or withdrawn, and no event gets lost. The pictures stay as they are, except
that a card may get a window whose picture was not asked for yet. -/
structure LeavesPictures (before after : Switcher) : Prop where
  pictures : ∀ handle, after.carousel.pictureOf? handle = before.carousel.pictureOf? handle ∨
    before.carousel.pictureOf? handle = none ∧
      ∀ picture, after.carousel.pictureOf? handle = some picture → picture.pending = none
  thumbnailer : after.thumbnailer = before.thumbnailer
  isOpen : after.mailbox.isOpen = before.mailbox.isOpen
  waiting : before.mailbox.waiting <+: after.mailbox.waiting
  answers : ∀ handle request, .thumbnailReady handle request ∈ after.mailbox.waiting →
    .thumbnailReady handle request ∈ before.mailbox.waiting
  journal : ∃ calls, after.calls = before.calls ++ calls ∧ ∀ call ∈ calls, ¬ call.AboutPicture

namespace LeavesPictures

/-- Only the cards and the announcements change, and the cards keep their pictures. -/
theorem own (same : after = before.withOwn after.carousel after.signals)
    (pictures : ∀ handle, after.carousel.pictureOf? handle = before.carousel.pictureOf? handle ∨
      before.carousel.pictureOf? handle = none ∧
        ∀ picture, after.carousel.pictureOf? handle = some picture → picture.pending = none) :
    LeavesPictures before after where
  pictures := pictures
  thumbnailer := by rw [same]; rfl
  isOpen := by rw [same]; rfl
  waiting := by rw [same]; exact List.prefix_rfl
  answers _ _ given := by rwa [same] at given
  journal := ⟨[], by rw [same]; exact (List.append_nil _).symm, fun _ none => nomatch none⟩

/-- Cards are changed in a way that keeps their pictures. -/
theorem keeping {carousel : Carousel}
    (pictures : ∀ handle, carousel.pictureOf? handle = before.carousel.pictureOf? handle) :
    LeavesPictures before { before with carousel } :=
  own rfl fun handle => .inl (pictures handle)

/-- The cards stay as they are while one command about something else is given. -/
theorem noting {call : Call} (journal : after.calls = before.calls ++ [call])
    (other : ¬ call.AboutPicture) (carousel : after.carousel = before.carousel)
    (thumbnailer : after.thumbnailer = before.thumbnailer)
    (isOpen : after.mailbox.isOpen = before.mailbox.isOpen)
    (waiting : before.mailbox.waiting <+: after.mailbox.waiting)
    (answers : ∀ handle request, .thumbnailReady handle request ∈ after.mailbox.waiting →
      .thumbnailReady handle request ∈ before.mailbox.waiting) : LeavesPictures before after where
  pictures handle := .inl (by rw [carousel])
  thumbnailer := thumbnailer
  isOpen := isOpen
  waiting := waiting
  answers := answers
  journal := ⟨[call], journal, fun _ given => List.mem_singleton.1 given ▸ other⟩

/-- A command that is not about pictures leaves them alone. -/
theorem command (call : Call) (other : ¬ call.AboutPicture) :
    LeavesPictures before (before.obey call) := by
  cases call with
  | window command =>
      have isOpen := before.mailbox.isOpen_postAll
        ((before.registry.perform command).2.map .window)
      have waiting := before.mailbox.waiting_prefix_postAll
        ((before.registry.perform command).2.map .window)
      refine noting rfl other rfl rfl isOpen waiting fun handle request given => ?_
      refine (Mailbox.mem_waiting_postAll given).resolve_right fun echoed => ?_
      obtain ⟨report, -, same⟩ := List.mem_map.1 echoed
      cases same
  | thumbnailRequest request activity window size => exact absurd trivial other
  | thumbnailCancel request => exact absurd trivial other
  | _ => exact noting rfl not_false rfl rfl rfl List.prefix_rfl fun _ _ given => given

/-- A new card whose picture was not asked for yet. -/
theorem create (valid : before.carousel.Valid) (activity : Activity)
    (fresh : ∀ picture, activity.picture = some picture → picture.pending = none) :
    LeavesPictures before (before.createActivity activity) := by
  refine own rfl fun handle => ?_
  have made : (before.createActivity activity).carousel.pictureOf? handle =
      if handle = before.carousel.nextHandle then activity.picture
      else before.carousel.pictureOf? handle :=
    valid.viewOf?_insert Activity.picture handle (before.placeOf activity) activity
  rw [made]
  split
  · next new =>
      subst new
      exact .inr ⟨valid.viewOf?_nextHandle Activity.picture, fresh⟩
  · exact .inl rfl

end LeavesPictures

/-- Asking for a picture does nothing for a splash; a card that shows a window waits for the picture from
then on, and an earlier request of it is withdrawn. -/
theorem requestThumbnail_cases (switcher : Switcher) (handle : Handle) :
    switcher.requestThumbnail handle = switcher ∨
      ∃ picture window size, switcher.carousel.pictureOf? handle = some picture ∧
        switcher.requestThumbnail handle =
          ((switcher.askThumbnail handle window size).mapCarousel
              (·.modify handle (·.awaiting (some switcher.thumbnailer.next)))).cancelThumbnail
            picture.pending := by
  unfold requestThumbnail
  split
  · exact .inl rfl
  · next activity found =>
      split
      · exact .inl rfl
      · next window shows =>
          have known : switcher.carousel.pictureOf? handle =
              some ⟨activity.hasThumbnail, activity.pending?⟩ := by
            rw [Carousel.viewOf?_eq_some_iff]
            exact ⟨activity, found, by rw [Activity.picture, shows, Option.map_some]⟩
          refine .inr ⟨_, window, activity.thumbnailSize.scaled switcher.pictureScale, known, ?_⟩
          rw [activity.superseded_eq_pending? shows]

/-- Each deed leaves the pictures alone or asks for one. -/
theorem Deed.pictures (deed : Deed before after) (valid : before.carousel.Valid) :
    LeavesPictures before after ∨ ∃ handle, after = before.requestThumbnail handle := by
  cases deed with
  | touch touch =>
      cases touch with
      | request handle => exact .inr ⟨handle, rfl⟩
      | allocate handle size drawable =>
          exact .inl (.keeping fun _ => Carousel.viewOf?_modify_of_keeps _ _ _ _ fun _ => rfl)
      | area area => exact .inl (.keeping fun _ => Carousel.viewOf?_mapActivities _ _ _ fun _ => rfl)
      | scroll handle =>
          exact .inl (.keeping fun _ =>
            Carousel.viewOf?_eq_of_same_arena _ _ (before.carousel.arena_scrollOnly handle))
      | grab handle =>
          exact .inl (.keeping fun _ =>
            Carousel.viewOf?_eq_of_same_arena _ _ (before.carousel.arena_grabFocus handle))
      | command call other => exact .inl (.command call other)
      | emit signal other => exact .inl (.own rfl fun _ => .inl rfl)
  | launch appId appInfo startupId now recognised =>
      refine .inl (.create valid _ fun picture splash => ?_)
      cases splash
  | add window =>
      refine .inl (.create valid _ fun picture shows => ?_)
      cases shows
      rfl
  | bind handle window activity found splash =>
      -- A splash has no picture, and the window that takes it over has not asked for one yet.
      refine .inl (.own rfl fun other => ?_)
      have bound : (before.carousel.modify handle
          (·.bindWindow window before.shell.usableArea)).pictureOf? other =
          if other = handle then some ⟨activity.hasThumbnail, none⟩
          else before.carousel.pictureOf? other := by
        rw [Carousel.pictureOf?, Carousel.viewOf?_modify, found]
        rfl
      rw [mapCarousel, bound]
      split
      · next same =>
          right
          constructor
          · rw [same, Carousel.pictureOf?, Carousel.viewOf?, found, Option.bind_some,
              Activity.picture, splash, Option.map_none]
          · intro picture given
            cases given
            rfl
      · exact .inl rfl
  | «show» handle window =>
      exact .inl (.keeping fun _ => Carousel.viewOf?_modify_of_keeps _ _ _ _ fun _ => rfl)
  | fullscreen handle fullscreen =>
      exact .inl (.keeping fun _ => Carousel.viewOf?_modify_of_keeps _ _ _ _ fun _ => rfl)
  | focus handle =>
      exact .inl (.keeping fun _ =>
        Carousel.viewOf?_eq_of_same_arena _ _ (before.arena_focusActivity handle))
  | announce => exact .inl (.own rfl fun _ => .inl rfl)

/-- A deed keeps the strip valid. -/
theorem Deed.valid (deed : Deed before after) (valid : before.carousel.Valid) :
    after.carousel.Valid := by
  cases deed with
  | touch touch =>
      cases touch with
      | request handle => exact (before.steady_requestThumbnail handle).valid valid
      | allocate handle size drawable => exact valid.modify ..
      | area area => exact valid.mapActivities _
      | scroll handle => exact valid.scrollOnly handle
      | grab handle => exact valid.grabFocus handle
      | command call other => cases call <;> exact valid
      | emit signal other => exact valid
  | launch appId appInfo startupId now recognised => exact (valid.insert ..).drain
  | add window => exact (valid.insert ..).drain
  | bind handle window activity found splash => exact valid.modify ..
  | «show» handle window => exact valid.modify ..
  | fullscreen handle fullscreen => exact valid.modify ..
  | focus handle => exact (valid.focus handle).scrollTo handle
  | announce => exact valid.drain

/-- A relation that goes on from one situation to the next, and that holds along each step from a valid
situation, holds along all steps, if these keep the situation valid. -/
theorem lift_of_valid {step motive : Switcher → Switcher → Prop}
    (keeps : ∀ {before after}, step before after → before.carousel.Valid → after.carousel.Valid)
    (refl : ∀ switcher, motive switcher switcher)
    (trans : ∀ {before middle after}, motive before middle → motive middle after →
      motive before after)
    (each : ∀ {before after}, before.carousel.Valid → step before after → motive before after)
    (valid : before.carousel.Valid) (steps : Relation.ReflTransGen step before after) :
    motive before after := by
  have both : after.carousel.Valid ∧ motive before after := by
    induction steps with
    | refl => exact ⟨valid, refl before⟩
    | tail _ last inductionHypothesis =>
        obtain ⟨validMiddle, earlier⟩ := inductionHypothesis
        exact ⟨keeps last validMiddle, trans earlier (each validMiddle last)⟩
  exact both.2

/-- What holds of each deed on a valid strip, and of one thing after the other, holds of deeds. -/
theorem Deeds.lift {motive : Switcher → Switcher → Prop} (refl : ∀ switcher, motive switcher switcher)
    (trans : ∀ {before middle after}, motive before middle → motive middle after →
      motive before after)
    (deed : ∀ {before after}, before.carousel.Valid → Deed before after → motive before after)
    (valid : before.carousel.Valid) (deeds : Deeds before after) : motive before after :=
  lift_of_valid Deed.valid refl trans deed valid deeds

/-- What holds of each chore on a valid strip, and of one thing after the other, holds of chores. -/
theorem Chores.lift {motive : Switcher → Switcher → Prop} (refl : ∀ switcher, motive switcher switcher)
    (trans : ∀ {before middle after}, motive before middle → motive middle after →
      motive before after)
    (chore : ∀ {before after}, before.carousel.Valid → Chore before after → motive before after)
    (valid : before.carousel.Valid) (chores : Chores before after) : motive before after :=
  lift_of_valid (fun last => last.deed.valid) refl trans chore valid chores

/-! ### Withdrawn requests -/

@[simp] theorem mailbox_cancelThumbnail (request : Option ThumbnailRequest) :
    (switcher.cancelThumbnail request).mailbox = switcher.mailbox := by
  cases request <;> rfl

@[simp] theorem calls_cancelThumbnail (request : Option ThumbnailRequest) :
    (switcher.cancelThumbnail request).calls =
      switcher.calls ++ (request.map Call.thumbnailCancel).toList := by
  cases request with
  | none => exact (List.append_nil _).symm
  | some request => rfl

@[simp] theorem answering_cancelThumbnail (request : Option ThumbnailRequest) :
    (switcher.cancelThumbnail request).thumbnailer.answering = switcher.thumbnailer.answering := by
  cases request <;> rfl

/-- Where no request is kept, a withdrawal leaves none. -/
theorem pending_cancelThumbnail (settled : switcher.thumbnailer.pending = [])
    (request : Option ThumbnailRequest) :
    (switcher.cancelThumbnail request).thumbnailer.pending = [] := by
  cases request with
  | none => exact settled
  | some request => simp [cancelThumbnail, Thumbnailer.cancel, settled]

/-- Removing a card sends no events, and the only command it may lead to withdraws the request of the
card. -/
theorem destroyActivity_parts (switcher : Switcher) (handle : Handle) :
    let withdrawn := switcher.cancelThumbnail (switcher.carousel.awaited? handle)
    (switcher.destroyActivity handle).mailbox = switcher.mailbox ∧
      (switcher.destroyActivity handle).thumbnailer = withdrawn.thumbnailer ∧
      (switcher.destroyActivity handle).calls = withdrawn.calls := by
  unfold destroyActivity Carousel.awaited? Carousel.viewOf?
  cases switcher.carousel.get? handle with
  | none => exact ⟨rfl, rfl, rfl⟩
  | some activity =>
      simp only [Option.bind_some]
      cases activity.pending? <;> exact ⟨rfl, rfl, rfl⟩

/-- The removal of a card forgets its picture and no other. -/
theorem pictureOf?_destroyActivity (switcher : Switcher) (handle other : Handle) :
    (switcher.destroyActivity handle).carousel.pictureOf? other =
      if other = handle then none else switcher.carousel.pictureOf? other :=
  switcher.viewOf?_destroyActivity handle Activity.picture other

/-! ### Answers that wait -/

/-- The maker of pictures answers into an open mailbox and has no request left unanswered. The answer that
a card waits for is among the events that were `taken` from the mailbox and still have to be handled, or
it waits in the mailbox. -/
structure Answered (taken : List Event) (switcher : Switcher) : Prop where
  valid : switcher.carousel.Valid
  isOpen : switcher.mailbox.isOpen = true
  answering : switcher.thumbnailer.answering = true
  settled : switcher.thumbnailer.pending = []
  awaited : ∀ handle picture request, switcher.carousel.pictureOf? handle = some picture →
    picture.pending = some request →
    .thumbnailReady handle request ∈ taken ++ switcher.mailbox.waiting

namespace Answered

variable {taken : List Event}

/-- What asks for no picture leaves every answer that is waited for under way. -/
theorem leaves (answered : before.Answered taken) (leaves : LeavesPictures before after)
    (valid : after.carousel.Valid) : after.Answered taken where
  valid := valid
  isOpen := leaves.isOpen.trans answered.isOpen
  answering := by rw [leaves.thumbnailer, answered.answering]
  settled := by rw [leaves.thumbnailer, answered.settled]
  awaited handle picture request known waits := by
    rcases leaves.pictures handle with same | ⟨-, unasked⟩
    · rw [same] at known
      rcases List.mem_append.1 (answered.awaited handle picture request known waits) with
        early | late
      · exact List.mem_append_left _ early
      · exact List.mem_append_right _ (leaves.waiting.subset late)
    · rw [unasked picture known] at waits
      cases waits

variable (answered : switcher.Answered taken)

include answered

/-- A new request brings its own answer. -/
theorem requestThumbnail (handle : Handle) : (switcher.requestThumbnail handle).Answered taken := by
  have valid := (switcher.steady_requestThumbnail handle).valid answered.valid
  rcases switcher.requestThumbnail_cases handle with
    unchanged | ⟨former, window, size, known, requested⟩
  · rwa [unchanged]
  · have answer : (switcher.thumbnailer.answer switcher.mailbox handle).waiting =
        switcher.mailbox.waiting ++ [.thumbnailReady handle switcher.thumbnailer.next] := by
      rw [Thumbnailer.answer, if_pos answered.answering, Mailbox.post, if_pos answered.isOpen]
    rw [requested] at valid ⊢
    refine ⟨valid, ?_, ?_, ?_, fun other picture request waiting waits => ?_⟩
    · rw [mailbox_cancelThumbnail]
      change (switcher.thumbnailer.answer switcher.mailbox handle).isOpen = true
      rw [Thumbnailer.answer, if_pos answered.answering, Mailbox.post, if_pos answered.isOpen]
      exact answered.isOpen
    · rw [answering_cancelThumbnail]
      exact answered.answering
    · apply pending_cancelThumbnail
      -- The answer went into the open mailbox, so the request need not be kept.
      have delivers : switcher.thumbnailer.delivers switcher.mailbox = true := by
        rw [Thumbnailer.delivers, answered.answering, answered.isOpen, Bool.and_self]
      change (switcher.thumbnailer.request switcher.mailbox).pending = []
      rw [Thumbnailer.request, if_pos delivers, answered.settled]
    · rw [carousel_cancelThumbnail] at waiting
      rw [mailbox_cancelThumbnail]
      change _ ∈ taken ++ (switcher.thumbnailer.answer switcher.mailbox handle).waiting
      change (switcher.carousel.modify handle _).pictureOf? other = some picture at waiting
      rw [Carousel.pictureOf?_awaiting, Option.map_eq_some_iff] at waiting
      obtain ⟨earlier, shown, rfl⟩ := waiting
      rw [answer, ← List.append_assoc]
      split at waits
      · next same =>
          cases waits
          rw [same]
          exact List.mem_append_right _ (List.mem_singleton.2 rfl)
      · exact List.mem_append_left _ (answered.awaited other earlier request shown waits)

/-- An answer that was handled is not waited for any more; the others are where they were. -/
theorem thumbnailReady (handle : Handle) (request : ThumbnailRequest) :
    (switcher.thumbnailReady handle request).Answered
      (taken.filter fun event => event ≠ .thumbnailReady handle request) where
  valid := answered.valid.modify ..
  isOpen := answered.isOpen
  answering := answered.answering
  settled := answered.settled
  awaited other picture waited known waits := by
    change (switcher.carousel.modify handle _).pictureOf? other = some picture at known
    rw [Carousel.pictureOf?_receive, Option.map_eq_some_iff] at known
    obtain ⟨earlier, shown, rfl⟩ := known
    have apart : earlier.pending = some waited ∧
        Event.thumbnailReady other waited ≠ .thumbnailReady handle request := by
      split at waits
      · obtain ⟨waits, different⟩ := Picture.pending_receive request waited waits
        refine ⟨waits, fun same => ?_⟩
        cases same
        exact different rfl
      · next different =>
          refine ⟨waits, fun same => ?_⟩
          cases same
          exact different rfl
    rcases List.mem_append.1 (answered.awaited other earlier waited shown apart.1) with
      early | late
    · refine List.mem_append_left _ (List.mem_filter.2 ⟨early, ?_⟩)
      exact decide_eq_true apart.2
    · exact List.mem_append_right _ late

/-- No deed loses an answer. -/
theorem deed (deed : Deed switcher after) : after.Answered taken := by
  rcases deed.pictures answered.valid with leaves | ⟨handle, rfl⟩
  · exact answered.leaves leaves (deed.valid answered.valid)
  · exact answered.requestThumbnail handle

/-- Deeds have an answer under way for each picture that they ask for. -/
theorem deeds (deeds : Deeds switcher after) : after.Answered taken := by
  induction deeds with
  | refl => exact answered
  | tail _ last inductionHypothesis => exact inductionHypothesis.deed last

/-- A card that is removed waits for nothing; the others wait for what they waited for. -/
theorem destroyActivity (handle : Handle) : (switcher.destroyActivity handle).Answered taken := by
  obtain ⟨mailbox, thumbnailer, -⟩ := switcher.destroyActivity_parts handle
  refine ⟨?_, ?_, ?_, ?_, ?_⟩
  · exact (switcher.steady_destroyActivity handle).valid (answered.valid.erase handle)
  · rw [mailbox, answered.isOpen]
  · rw [thumbnailer, answering_cancelThumbnail, answered.answering]
  · rw [thumbnailer, pending_cancelThumbnail answered.settled]
  · intro other picture waited known waits
    rw [pictureOf?_destroyActivity, Option.ite_none_left_eq_some] at known
    rw [mailbox]
    exact answered.awaited other picture waited known.2 waits

/-- Removals leave every answer that is waited for under way. -/
theorem clears (clears : Clears switcher after) : after.Answered taken := by
  obtain ⟨handles, rfl⟩ := clears
  induction handles generalizing switcher with
  | nil => exact answered
  | cons first rest inductionHypothesis => exact inductionHypothesis (answered.destroyActivity first)

omit answered in
/-- Handling an event settles it, if it is an answer. -/
theorem handle {event : Event} (answered : switcher.Answered [event]) (now : Nat) :
    (switcher.handle now event).1.Answered [] := by
  by_cases answer : ∃ handle request, event = .thumbnailReady handle request
  · obtain ⟨handle, request, rfl⟩ := answer
    have settled := answered.thumbnailReady handle request
    rwa [List.filter_cons_of_neg (by simp), List.filter_nil] at settled
  · have aside : switcher.Answered [] := by
      refine { answered with awaited := fun handle picture request known waits => ?_ }
      rcases List.mem_cons.1 (answered.awaited handle picture request known waits) with
        same | waiting
      · exact absurd ⟨handle, request, same.symm⟩ answer
      · exact waiting
    rcases switcher.handle_cases now event with brought | deeds | clears
    · exact absurd brought answer
    · exact aside.deeds deeds
    · exact aside.clears clears

omit answered in
/-- More events may wait than those that answer. -/
theorem mono {more : List Event} (answered : switcher.Answered taken) (subset : taken ⊆ more) :
    switcher.Answered more :=
  { answered with
    awaited := fun handle picture request known waits => by
      rcases List.mem_append.1 (answered.awaited handle picture request known waits) with
        early | late
      · exact List.mem_append_left _ (subset early)
      · exact List.mem_append_right _ late }

end Answered

/-! ### Pictures that were asked for -/

/-- The card shows a window whose picture is there or was asked for. -/
def Pictured (switcher : Switcher) (handle : Handle) : Prop :=
  ∃ picture, switcher.carousel.pictureOf? handle = some picture ∧ picture.Expected

/-- Whoever expected a picture of a card still does, and so does whoever asked for one in between. -/
structure KeepsPromise (handle : Handle) (before after : Switcher) : Prop where
  kept : before.Pictured handle → after.Pictured handle
  made : ∃ calls, after.calls = before.calls ++ calls ∧ ∀ request window size,
    .thumbnailRequest request handle window size ∈ calls → after.Pictured handle

namespace KeepsPromise

variable {handle : Handle}

/-- Nothing done, no promise broken. -/
theorem refl : KeepsPromise handle switcher switcher where
  kept pictured := pictured
  made := ⟨[], (List.append_nil _).symm, fun _ _ _ none => nomatch none⟩

/-- Promises that are kept one time and then another are kept. -/
theorem trans (first : KeepsPromise handle before middle)
    (second : KeepsPromise handle middle after) : KeepsPromise handle before after where
  kept pictured := second.kept (first.kept pictured)
  made := by
    obtain ⟨calls, journal, asked⟩ := first.made
    obtain ⟨more, continues, alsoAsked⟩ := second.made
    refine ⟨calls ++ more, by rw [continues, journal, List.append_assoc], ?_⟩
    intro request window size given
    rcases List.mem_append.1 given with early | late
    · exact second.kept (asked request window size early)
    · exact alsoAsked request window size late

/-- What leaves pictures alone breaks no promise. -/
theorem leaves (leaves : LeavesPictures before after) : KeepsPromise handle before after where
  kept := by
    rintro ⟨picture, known, expected⟩
    rcases leaves.pictures handle with same | ⟨unknown, -⟩
    · exact ⟨picture, same.trans known, expected⟩
    · rw [unknown] at known
      cases known
  made := by
    obtain ⟨calls, journal, aside⟩ := leaves.journal
    exact ⟨calls, journal, fun request window size given => absurd trivial (aside _ given)⟩

/-- After a request its card waits for the picture. -/
theorem requestThumbnail (switcher : Switcher) (asking : Handle) :
    KeepsPromise handle switcher (switcher.requestThumbnail asking) := by
  rcases switcher.requestThumbnail_cases asking with
    unchanged | ⟨former, window, size, known, requested⟩
  · rw [unchanged]
    exact .refl
  · have pictures (other : Handle) :
        (switcher.requestThumbnail asking).carousel.pictureOf? other =
          (switcher.carousel.pictureOf? other).map fun picture =>
            if other = asking then { picture with pending := some switcher.thumbnailer.next }
            else picture := by
      rw [requested, carousel_cancelThumbnail]
      exact switcher.carousel.pictureOf?_awaiting ..
    have waits : (switcher.requestThumbnail asking).Pictured asking :=
      ⟨_, by rw [pictures, known, Option.map_some, if_pos rfl], .inr rfl⟩
    constructor
    · rintro ⟨picture, shown, expected⟩
      by_cases same : handle = asking
      · exact same ▸ waits
      · exact ⟨picture, by rw [pictures, shown, Option.map_some, if_neg same], expected⟩
    -- The journal names no other card: besides the request there is at most a withdrawal.
    · have journal : (switcher.requestThumbnail asking).calls = switcher.calls ++
          ([.thumbnailRequest switcher.thumbnailer.next asking window size] ++
            (former.pending.map Call.thumbnailCancel).toList) := by
        rw [requested, calls_cancelThumbnail, ← List.append_assoc]
        rfl
      refine ⟨_, journal, fun request shown drawn given => ?_⟩
      rcases List.mem_append.1 given with asked | withdrawn
      · cases List.mem_singleton.1 asked
        exact waits
      · cases pending : former.pending <;> simp [pending] at withdrawn

/-- A picture that comes breaks no promise, and for its card it keeps one. -/
theorem thumbnailReady (switcher : Switcher) (other : Handle) (request : ThumbnailRequest) :
    KeepsPromise handle switcher (switcher.thumbnailReady other request) where
  kept := by
    rintro ⟨picture, known, expected⟩
    have changed := switcher.carousel.pictureOf?_receive other handle request
    rw [known, Option.map_some] at changed
    refine ⟨_, changed, ?_⟩
    split
    · exact expected.receive request
    · exact expected
  made := ⟨[], (List.append_nil _).symm, fun _ _ _ none => nomatch none⟩

/-- A deed breaks no promise. -/
theorem deed (valid : before.carousel.Valid) (deed : Deed before after) :
    KeepsPromise handle before after := by
  rcases deed.pictures valid with leaves | ⟨asking, rfl⟩
  · exact .leaves leaves
  · exact .requestThumbnail before asking

/-- Deeds break no promise. -/
theorem deeds (valid : before.carousel.Valid) (deeds : Deeds before after) :
    KeepsPromise handle before after :=
  deeds.lift (fun _ => .refl) (fun first second => first.trans second) .deed valid

end KeepsPromise

/-- Removing a card asks for no picture, and the other cards keep theirs. -/
theorem KeepsPromise.destroyActivity {handle other : Handle} (stays : handle ≠ other) :
    KeepsPromise handle switcher (switcher.destroyActivity other) where
  kept := by
    rintro ⟨picture, known, expected⟩
    exact ⟨picture, by rw [pictureOf?_destroyActivity, if_neg stays, known], expected⟩
  made := by
    obtain ⟨-, -, journal⟩ := switcher.destroyActivity_parts other
    rw [calls_cancelThumbnail] at journal
    refine ⟨_, journal, fun _ _ _ given => ?_⟩
    cases waited : switcher.carousel.awaited? other <;> simp [waited] at given

/-- A card that is left when others were removed keeps its picture. -/
theorem KeepsPromise.clears {handle : Handle} (clears : Clears before after)
    (left : after.carousel.contains handle = true) : KeepsPromise handle before after := by
  obtain ⟨handles, rfl⟩ := clears
  have stays : handle ∉ handles := by
    intro member
    rw [Carousel.contains_iff] at left
    obtain ⟨activity, found⟩ := left
    rw [get?_destroyActivities, if_pos member] at found
    cases found
  induction handles generalizing before with
  | nil => exact .refl
  | cons first rest inductionHypothesis =>
      rw [List.mem_cons, not_or] at stays
      exact (KeepsPromise.destroyActivity stays.1).trans (inductionHypothesis left stays.2)

end TaskSwitcher.Switcher
