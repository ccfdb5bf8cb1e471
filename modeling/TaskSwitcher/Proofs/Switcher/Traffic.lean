import TaskSwitcher.Proofs.Switcher.Happenings
import TaskSwitcher.Proofs.Switcher.Outstanding
import TaskSwitcher.Scenario.Rehearsal
import TaskSwitcher.Service

/-!
# No request for a picture leaks

In a run in which all answers come from the maker of pictures, whether it is connected or not, and whenever
the mailbox is closed, the books on requests are balanced after every happening. The maker never keeps a
request that nobody waits for.
-/

namespace TaskSwitcher

namespace Switcher

/-- The answers among the events have arrived in the mailbox at some time. -/
def Genuine (arrived events : List Event) : Prop :=
  ∀ handle request, .thumbnailReady handle request ∈ events →
    .thumbnailReady handle request ∈ arrived

end Switcher

/-- No answer is handled or put into the mailbox that has not arrived there before. -/
def Happening.Genuine (arrived : List Event) : Happening → Prop
  | .event _ served => Switcher.Genuine arrived [served]
  | .device other => Switcher.Genuine arrived other.mailbox.waiting
  | _ => True

namespace Switcher

variable {switcher before after : Switcher} {arrived : List Event}

/-- The runs of an overview in which all answers come from the maker of pictures, each with the events that
waited in the mailbox after any of its happenings. The mailbox may be closed at any moment, and events in
it may get lost, be handled twice or in another order. -/
inductive Traffic : List Event → Switcher → Prop where
  | start {parts : Switcher} (noCards : parts.carousel = {}) (noCalls : parts.calls = [])
      (fresh : parts.thumbnailer = { answering := parts.thumbnailer.answering })
      (noAnswers : Genuine [] parts.mailbox.waiting) : Traffic [] parts
  | step {arrived : List Event} {switcher : Switcher} (traffic : Traffic arrived switcher)
      (happening : Happening) (genuine : happening.Genuine arrived) :
      Traffic (arrived ++ (switcher.undergo happening).mailbox.waiting)
        (switcher.undergo happening)

namespace Accounted

variable (accounted : switcher.Accounted arrived)

include accounted

/-- The mailbox may lose answers and get back those that it had. -/
theorem device (known : Genuine arrived switcher.mailbox.waiting) (device : Device)
    (genuine : Genuine arrived device.mailbox.waiting) :
    { switcher with toDevice := device }.Accounted arrived where
  valid := accounted.valid
  upcoming := accounted.upcoming
  balanced := by
    refine accounted.balanced.of_iff fun request => exists_congr fun handle => ?_
    rw [List.mem_append, List.mem_append, or_iff_left_of_imp (genuine handle request),
      or_iff_left_of_imp (known handle request)]

/-- A genuine event leaves the books balanced while no number is used twice. -/
theorem handle (now : Nat) {event : Event} (genuine : Genuine arrived [event])
    (few : (switcher.handle now event).1.requestCount < UInt64.size) :
    (switcher.handle now event).1.Accounted arrived := by
  rcases switcher.handle_cases now event with ⟨handle, request, rfl⟩ | deeds | clears
  · exact accounted.thumbnailReady (genuine handle request (List.mem_singleton.2 rfl))
  · exact accounted.deeds deeds few
  · exact accounted.clears clears

/-- Whatever happens leaves the books balanced if its answers are genuine. -/
theorem undergo (known : Genuine arrived switcher.mailbox.waiting) {happening : Happening}
    (genuine : happening.Genuine arrived)
    (few : (switcher.undergo happening).requestCount < UInt64.size) :
    (switcher.undergo happening).Accounted arrived := by
  cases happening with
  | event now event => exact accounted.handle now genuine few
  | next now =>
      rcases switcher.undergo_next_cases now with unchanged | ⟨event, waits, handled⟩
      · rwa [unchanged]
      · rw [handled] at few ⊢
        have taken : switcher.taken.Accounted arrived :=
          accounted.device known _ fun handle request left =>
            known handle request (List.mem_of_mem_tail left)
        refine taken.handle now (fun handle request same => ?_) few
        exact known handle request (List.mem_singleton.1 same ▸ waits)
  | sync => exact accounted.deeds switcher.deeds_syncWindows few
  | collect => exact { accounted with }
  | device device => exact accounted.device known device genuine

end Accounted

/-- An event leaves no request open but those that are waited for. -/
theorem endsRequests_handle (valid : switcher.carousel.Valid) (now : Nat) {event : Event}
    (genuine : Genuine arrived [event]) :
    EndsRequests arrived switcher (switcher.handle now event).1 := by
  rcases switcher.handle_cases now event with ⟨handle, request, rfl⟩ | deeds | clears
  · exact endsRequests_thumbnailReady (genuine handle request (List.mem_singleton.2 rfl))
  · exact (Withdraws.deeds valid deeds).endsRequests
  · exact (Withdraws.clears clears).endsRequests

/-- Whatever happens leaves no request open but those that are waited for. -/
theorem endsRequests_undergo (valid : switcher.carousel.Valid)
    (known : Genuine arrived switcher.mailbox.waiting) {happening : Happening}
    (genuine : happening.Genuine arrived) :
    EndsRequests arrived switcher (switcher.undergo happening) := by
  cases happening with
  | event now event => exact endsRequests_handle valid now genuine
  | next now =>
      rcases switcher.undergo_next_cases now with unchanged | ⟨event, waits, handled⟩
      · rw [unchanged]
        exact Withdraws.refl.endsRequests
      · rw [handled]
        have validTaken : switcher.taken.carousel.Valid := valid
        refine endsRequests_handle validTaken now fun handle request same => ?_
        exact known handle request (List.mem_singleton.1 same ▸ waits)
  | sync => exact (Withdraws.deeds valid switcher.deeds_syncWindows).endsRequests
  | collect => exact Withdraws.refl.endsRequests
  | device device => exact Withdraws.refl.endsRequests

namespace Traffic

/-- In such a run all answers that wait have arrived. -/
theorem known (traffic : Traffic arrived switcher) : Genuine arrived switcher.mailbox.waiting := by
  cases traffic with
  | start _ _ _ noAnswers => exact noAnswers
  | step => exact fun handle request waits => List.mem_append_right _ waits

/-- In such a run the strip is valid. -/
theorem valid (traffic : Traffic arrived switcher) : switcher.carousel.Valid := by
  induction traffic with
  | start noCards _ _ _ => exact noCards ▸ Carousel.valid_empty
  | step _ happening _ inductionHypothesis => exact valid_undergo inductionHypothesis happening

/-- In such a run the books are balanced while no number is used twice. -/
theorem accounted (traffic : Traffic arrived switcher) (few : switcher.requestCount < UInt64.size) :
    switcher.Accounted arrived := by
  induction traffic with
  | @start parts noCards noCalls fresh noAnswers =>
      have count : parts.requestCount = 0 := by rw [requestCount, noCalls]; rfl
      have idle (handle : Handle) : parts.carousel.awaited? handle = none := by
        rw [noCards, Carousel.awaited?, Carousel.viewOf?, Carousel.get?_empty]
        rfl
      have unanswered (request : ThumbnailRequest) :
          ¬ Delivered ([] ++ parts.mailbox.waiting) request := by
        rintro ⟨handle, waits⟩
        cases noAnswers handle request waits
      refine ⟨noCards ▸ Carousel.valid_empty, ?_, ?_⟩
      · rw [fresh, count]
        rfl
      · rw [fresh, count]
        exact .nothing idle unanswered
  | @step arrived before traffic happening genuine inductionHypothesis =>
      have ends := endsRequests_undergo traffic.valid traffic.known genuine
      have fewBefore := Nat.lt_of_le_of_lt ends.requestCount_le few
      have after := (inductionHypothesis fewBefore).undergo traffic.known genuine few
      refine { after with balanced := after.balanced.of_iff fun request => ?_ }
      exact exists_congr fun handle => by simp

/-- The maker of pictures keeps exactly the requests that a card waits for and whose answer did not reach
the mailbox, at most one for each card. Whatever happens next, a request that its card does not wait for
any more has been withdrawn, unless the card got the picture. -/
theorem no_request_leaks (traffic : Traffic arrived switcher) (few : switcher.requestCount < UInt64.size) :
    (∀ request, request ∈ switcher.thumbnailer.pending ↔
        (∃ handle, switcher.carousel.awaited? handle = some request) ∧
          ∀ handle, .thumbnailReady handle request ∉ arrived) ∧
      (∀ first second request, switcher.carousel.awaited? first = some request →
        switcher.carousel.awaited? second = some request → first = second) ∧
      switcher.thumbnailer.pending.length ≤ switcher.carousel.length ∧
      ∀ happening, happening.Genuine arrived →
        EndsRequests arrived switcher (switcher.undergo happening) := by
  have accounted := traffic.accounted few
  have balanced := accounted.balanced
  refine ⟨fun request => ?_, balanced.alone, balanced.length_kept_le fun handle request waits => ?_,
    fun happening genuine => endsRequests_undergo traffic.valid traffic.known genuine⟩
  · rw [balanced.mem_kept_iff, Delivered, not_exists]
    refine and_congr_right' (forall_congr' fun handle => not_congr ?_)
    rw [List.mem_append, or_iff_left_of_imp (traffic.known handle request)]
  · obtain ⟨activity, found, -⟩ := (Carousel.viewOf?_eq_some_iff ..).1 waits
    exact traffic.valid.mem_order_of_get? handle activity found

/-- The first picture of a card is on its way when the mailbox is closed, so the request for a second one
is kept. It is withdrawn together with the card. -/
theorem closing_withdraws_request :
    let resized (width height : Int32) :=
      Happening.event 0 (.ui (.resized (.page 0) width height))
    let closing := Happening.event 0 (.window (.closed ⟨1⟩))
    let parts := assemble {} true [Scenario.callsWindow] none
    let asked := parts.undergoAll [.sync, resized 90 160]
    let shut := { asked.toDevice with mailbox := asked.mailbox.close }
    let again := asked.undergoAll [.device shut, resized 180 320]
    ∃ arrived, Traffic arrived again ∧ again.requestCount < UInt64.size ∧ closing.Genuine arrived ∧
      again.thumbnailer.pending = [⟨2⟩] ∧ again.thumbnailer.pending.length ≤ again.carousel.length ∧
      .thumbnailCancel ⟨2⟩ ∈ (again.undergo closing).calls := by
  intro resized closing parts asked shut again
  have fresh : Traffic [] parts := .start rfl rfl rfl fun _ _ waits => nomatch waits
  have genuine (width height : Int32) (arrived : List Event) :
      (resized width height).Genuine arrived := fun _ _ same => nomatch List.mem_singleton.1 same
  have known (arrived : List Event) :
      (Happening.device shut).Genuine (arrived ++ asked.mailbox.waiting) :=
    fun _ _ waits => List.mem_append_right arrived waits
  obtain ⟨arrived, traffic⟩ : ∃ arrived, Traffic arrived again :=
    ⟨_, (((fresh.step .sync trivial).step (resized 90 160) (genuine 90 160 _)).step
      (.device shut) (known _)).step (resized 180 320) (genuine 180 320 _)⟩
  have few : again.requestCount < UInt64.size := by decide +kernel
  have closingGenuine : closing.Genuine arrived :=
    fun _ _ same => nomatch List.mem_singleton.1 same
  obtain ⟨-, -, bounded, ends⟩ := traffic.no_request_leaks few
  obtain ⟨calls, journal, settled⟩ := ends closing closingGenuine
  have waits : again.carousel.awaited? ⟨1, 1⟩ = some ⟨2⟩ := by decide +kernel
  have waitsNoMore : (again.undergo closing).carousel.awaited? ⟨1, 1⟩ ≠ some ⟨2⟩ := by
    decide +kernel
  have gone : (again.undergo closing).carousel.contains ⟨1, 1⟩ = false := by decide +kernel
  refine ⟨arrived, traffic, few, closingGenuine, by decide +kernel, bounded, ?_⟩
  rcases settled ⟨1, 1⟩ ⟨2⟩ (.inl waits) with still | withdrawn | ⟨-, left, -⟩
  · exact absurd still waitsNoMore
  · rw [journal]
    exact List.mem_append_right _ withdrawn
  · exact absurd (gone.symm.trans left) Bool.false_ne_true

end Traffic

end Switcher

end TaskSwitcher
