import TaskSwitcher.Proofs.Switcher.Withdrawals

/-!
# Requests for pictures that are outstanding

The maker of pictures keeps each request whose answer it could not deliver. Nobody reminds it of such a
request but the overview, which has to withdraw it as soon as no card waits for it any more. The books on
requests stay balanced as long as a card that stops waiting for a request either got the answer or has the
request withdrawn.
-/

namespace TaskSwitcher

/-- The books on requests for pictures: which request each card waits for, which requests are kept because
no answer could be delivered, which were answered, and how many were made. A request is kept exactly while
a card waits for it that it was not answered for, and no two cards wait for the same request. -/
structure Balanced (awaited : Handle → Option ThumbnailRequest) (kept : List ThumbnailRequest)
    (answered : ThumbnailRequest → Prop) (count : Nat) : Prop where
  distinct : kept.Nodup
  mem_kept_iff : ∀ request, request ∈ kept ↔
    (∃ handle, awaited handle = some request) ∧ ¬ answered request
  alone : ∀ first second request, awaited first = some request → awaited second = some request →
    first = second
  made : ∀ handle request, awaited handle = some request → request.number.toNat ≤ count
  madeAnswered : ∀ request, answered request → request.number.toNat ≤ count

namespace Balanced

variable {awaited : Handle → Option ThumbnailRequest} {kept left : List ThumbnailRequest}
  {answered answeredLater : ThumbnailRequest → Prop} {count : Nat}

/-- At first nobody waits for anything. -/
theorem nothing (idle : ∀ handle, awaited handle = none)
    (unanswered : ∀ request, ¬ answered request) : Balanced awaited [] answered 0 where
  distinct := List.nodup_nil
  mem_kept_iff request := by simp [idle]
  alone first second request waits := by simp [idle] at waits
  made handle request waits := by simp [idle] at waits
  madeAnswered request was := absurd was (unanswered request)

variable (balanced : Balanced awaited kept answered count)

include balanced

/-- Only what was answered counts, not how it is described. -/
theorem of_iff (same : ∀ request, answeredLater request ↔ answered request) :
    Balanced awaited kept answeredLater count where
  distinct := balanced.distinct
  mem_kept_iff request := by rw [balanced.mem_kept_iff, same]
  alone := balanced.alone
  made := balanced.made
  madeAnswered request was := balanced.madeAnswered request ((same request).1 was)

/-- A card stops waiting, and its request is kept no longer, if it was kept at all. -/
theorem release {handle : Handle} (distinct : left.Nodup)
    (mem_left_iff : ∀ request, request ∈ left ↔ request ∈ kept ∧ awaited handle ≠ some request) :
    Balanced (Function.update awaited handle none) left answered count where
  distinct := distinct
  mem_kept_iff request := by
    have others : (∃ other, Function.update awaited handle none other = some request) ↔
        (∃ other, awaited other = some request) ∧ awaited handle ≠ some request := by
      constructor
      · rintro ⟨other, waits⟩
        rw [Function.update_apply, Option.ite_none_left_eq_some] at waits
        refine ⟨⟨other, waits.2⟩, fun released => waits.1 ?_⟩
        exact balanced.alone other handle request waits.2 released
      · rintro ⟨⟨other, waits⟩, apart⟩
        refine ⟨other, ?_⟩
        have different : other ≠ handle := fun same => apart (same ▸ waits)
        rwa [Function.update_of_ne different]
    rw [mem_left_iff, balanced.mem_kept_iff, others]
    tauto
  alone first second request firstWaits secondWaits := by
    rw [Function.update_apply, Option.ite_none_left_eq_some] at firstWaits secondWaits
    exact balanced.alone first second request firstWaits.2 secondWaits.2
  made other request waits := by
    rw [Function.update_apply, Option.ite_none_left_eq_some] at waits
    exact balanced.made other request waits.2
  madeAnswered := balanced.madeAnswered

/-- A card that waits for nothing makes a new request, which is answered or kept. -/
theorem ask {handle : Handle} {fresh : ThumbnailRequest} {delivered : Prop}
    (idle : awaited handle = none) (new : fresh.number.toNat = count + 1) (distinct : left.Nodup)
    (mem_left_iff : ∀ request, request ∈ left ↔ request ∈ kept ∨ request = fresh ∧ ¬ delivered)
    (answeredLater_iff : ∀ request,
      answeredLater request ↔ answered request ∨ request = fresh ∧ delivered) :
    Balanced (Function.update awaited handle (some fresh)) left answeredLater (count + 1) := by
  -- All requests made so far have lower numbers, so no card waits for the new one and nobody answered it.
  have unasked (other : Handle) : awaited other ≠ some fresh := by
    intro waits
    have old := balanced.made other fresh waits
    omega
  have unanswered : ¬ answered fresh := by
    intro was
    have old := balanced.madeAnswered fresh was
    omega
  have waits_iff (other : Handle) (request : ThumbnailRequest) :
      Function.update awaited handle (some fresh) other = some request ↔
        other = handle ∧ request = fresh ∨ awaited other = some request := by
    by_cases same : other = handle
    · simp [same, idle, eq_comm]
    · simp [same]
  refine ⟨distinct, fun request => ?_, fun first second request firstWaits secondWaits => ?_,
    fun other request waits => ?_, fun request was => ?_⟩
  · simp only [waits_iff, exists_or, exists_and_right, mem_left_iff,
      balanced.mem_kept_iff, answeredLater_iff]
    by_cases same : request = fresh
    · simp [same, unasked, unanswered]
    · simp [same]
  · rw [waits_iff] at firstWaits secondWaits
    rcases firstWaits with ⟨rfl, rfl⟩ | firstWaits
    · rcases secondWaits with ⟨rfl, -⟩ | secondWaits
      · rfl
      · exact absurd secondWaits (unasked second)
    · rcases secondWaits with ⟨-, rfl⟩ | secondWaits
      · exact absurd firstWaits (unasked first)
      · exact balanced.alone first second request firstWaits secondWaits
  · rcases (waits_iff other request).1 waits with ⟨-, rfl⟩ | waits
    · omega
    · have old := balanced.made other request waits
      omega
  · rcases (answeredLater_iff request).1 was with was | ⟨rfl, -⟩
    · have old := balanced.madeAnswered request was
      omega
    · omega

/-- A card makes a new request, which is answered or kept, and its earlier request is kept no longer. -/
theorem renew {handle : Handle} {fresh : ThumbnailRequest} (delivered : Prop)
    (new : fresh.number.toNat = count + 1) (distinct : left.Nodup)
    (mem_left_iff : ∀ request, request ∈ left ↔
      (request ∈ kept ∨ request = fresh ∧ ¬ delivered) ∧ awaited handle ≠ some request)
    (answeredLater_iff : ∀ request,
      answeredLater request ↔ answered request ∨ request = fresh ∧ delivered) :
    Balanced (Function.update awaited handle (some fresh)) left answeredLater (count + 1) := by
  have released : Balanced (Function.update awaited handle none)
      (kept.filter fun request => awaited handle ≠ some request) answered count :=
    balanced.release (balanced.distinct.filter _) (by simp)
  have unasked : awaited handle ≠ some fresh := by
    intro waits
    have old := balanced.made handle fresh waits
    omega
  have merged : Function.update (Function.update awaited handle none) handle (some fresh) =
      Function.update awaited handle (some fresh) := Function.update_idem ..
  rw [← merged]
  refine released.ask (Function.update_self ..) new distinct (fun request => ?_) answeredLater_iff
  rw [mem_left_iff, List.mem_filter, decide_eq_true_eq]
  by_cases same : request = fresh
  · simp [same, unasked]
  · simp [same]

/-- What is kept is waited for by one of the cards on the strip each, so it is not more than there are
cards. -/
theorem length_kept_le {order : List Handle}
    (present : ∀ handle request, awaited handle = some request → handle ∈ order) :
    kept.length ≤ order.length := by
  have within : kept ⊆ order.filterMap awaited := by
    intro request member
    obtain ⟨⟨handle, waits⟩, -⟩ := (balanced.mem_kept_iff request).1 member
    exact List.mem_filterMap.2 ⟨handle, present handle request waits, waits⟩
  calc
    kept.length ≤ (order.filterMap awaited).length :=
      (List.subperm_of_subset balanced.distinct within).length_le
    _ ≤ order.length := List.length_filterMap_le ..

end Balanced

/-- The command asks for a picture. -/
def Call.asksPicture : Call → Bool
  | .thumbnailRequest .. => true
  | _ => false

namespace Switcher

/-- The number of requests for pictures made so far. -/
def requestCount (switcher : Switcher) : Nat :=
  switcher.calls.countP Call.asksPicture

/-- An answer to the request is among the events. -/
def Delivered (events : List Event) (request : ThumbnailRequest) : Prop :=
  ∃ handle, .thumbnailReady handle request ∈ events

/-- The maker of pictures numbers its requests one after the other, and the books on them are balanced.
`arrived` are the events that waited in the mailbox at some time before. -/
structure Accounted (arrived : List Event) (switcher : Switcher) : Prop where
  valid : switcher.carousel.Valid
  upcoming : switcher.thumbnailer.upcoming = .ofNat (switcher.requestCount + 1)
  balanced : Balanced switcher.carousel.awaited? switcher.thumbnailer.pending
    (Delivered (arrived ++ switcher.mailbox.waiting)) switcher.requestCount

variable {switcher before after : Switcher} {arrived : List Event}

/-- The requests among further commands are counted on top. -/
theorem requestCount_append {calls : List Call} (journal : after.calls = before.calls ++ calls) :
    after.requestCount = before.requestCount + calls.countP Call.asksPicture := by
  rw [requestCount, journal, List.countP_append]
  rfl

/-- Requests that were made are not forgotten, however they end. -/
theorem EndsRequests.requestCount_le (ends : EndsRequests arrived before after) :
    before.requestCount ≤ after.requestCount := by
  obtain ⟨calls, journal, -⟩ := ends
  rw [requestCount_append journal]
  exact Nat.le_add_right ..

/-- What asks for no picture leaves the count of requests. -/
theorem LeavesPictures.requestCount_eq (leaves : LeavesPictures before after) :
    after.requestCount = before.requestCount := by
  obtain ⟨calls, journal, aside⟩ := leaves.journal
  have none : calls.countP Call.asksPicture = 0 := by
    refine List.countP_eq_zero.2 fun call given asks => aside call given ?_
    cases call with
    | thumbnailRequest request activity window size => trivial
    | _ => cases asks
  rw [requestCount_append journal, none, Nat.add_zero]

/-! ### What requests and withdrawals do to the maker of pictures -/

@[simp] theorem upcoming_cancelThumbnail (request : Option ThumbnailRequest) :
    (switcher.cancelThumbnail request).thumbnailer.upcoming = switcher.thumbnailer.upcoming := by
  cases request <;> rfl

/-- A withdrawal takes its own request from those that are kept and no other. -/
theorem mem_pending_cancelThumbnail (withdrawn : Option ThumbnailRequest)
    (request : ThumbnailRequest) :
    request ∈ (switcher.cancelThumbnail withdrawn).thumbnailer.pending ↔
      request ∈ switcher.thumbnailer.pending ∧ withdrawn ≠ some request := by
  cases withdrawn with
  | none => simp [cancelThumbnail]
  | some former =>
      rw [cancelThumbnail, Thumbnailer.mem_pending_cancel, ne_eq, ne_eq, Option.some_inj, eq_comm]

/-- A withdrawal keeps no request twice. -/
theorem nodup_pending_cancelThumbnail (withdrawn : Option ThumbnailRequest)
    (distinct : switcher.thumbnailer.pending.Nodup) :
    (switcher.cancelThumbnail withdrawn).thumbnailer.pending.Nodup := by
  cases withdrawn with
  | none => exact distinct
  | some former => exact switcher.thumbnailer.nodup_pending_cancel former distinct

/-- The answer to a new request is the only one that may come. -/
theorem delivered_answer (switcher : Switcher) (arrived : List Event) (handle : Handle)
    (request : ThumbnailRequest) :
    Delivered (arrived ++ (switcher.thumbnailer.answer switcher.mailbox handle).waiting) request ↔
      Delivered (arrived ++ switcher.mailbox.waiting) request ∨
        request = switcher.thumbnailer.next ∧
          switcher.thumbnailer.delivers switcher.mailbox = true := by
  simp only [Delivered, List.mem_append, Thumbnailer.mem_waiting_answer, Event.thumbnailReady.injEq]
  constructor
  · rintro ⟨other, early | waits | ⟨⟨rfl, rfl⟩, delivers⟩⟩
    · exact .inl ⟨other, .inl early⟩
    · exact .inl ⟨other, .inr waits⟩
    · exact .inr ⟨rfl, delivers⟩
  · rintro (⟨other, early | waits⟩ | ⟨rfl, delivers⟩)
    · exact ⟨other, .inl early⟩
    · exact ⟨other, .inr (.inl waits)⟩
    · exact ⟨handle, .inr (.inr ⟨⟨rfl, rfl⟩, delivers⟩)⟩

/-! ### The books stay balanced -/

namespace Accounted

/-- What asks for no picture leaves the books balanced. -/
theorem leaves (accounted : before.Accounted arrived) (leaves : LeavesPictures before after)
    (valid : after.carousel.Valid) : after.Accounted arrived where
  valid := valid
  upcoming := by rw [leaves.thumbnailer, leaves.requestCount_eq, accounted.upcoming]
  balanced := by
    rw [leaves.awaited?_eq, leaves.thumbnailer, leaves.requestCount_eq]
    refine accounted.balanced.of_iff fun request => exists_congr fun handle => ?_
    rw [List.mem_append, List.mem_append]
    have same := Iff.intro (leaves.answers handle request) fun given => leaves.waiting.subset given
    rw [same]

variable (accounted : switcher.Accounted arrived)

include accounted

/-- A card that makes a new request has its earlier one withdrawn. -/
theorem requestThumbnail (handle : Handle)
    (few : (switcher.requestThumbnail handle).requestCount < UInt64.size) :
    (switcher.requestThumbnail handle).Accounted arrived := by
  have valid := (switcher.steady_requestThumbnail handle).valid accounted.valid
  rcases switcher.requestThumbnail_parts handle with
    unchanged | ⟨window, size, awaited, mailbox, thumbnailer, journal⟩
  · rwa [unchanged]
  · have count : (switcher.requestThumbnail handle).requestCount = switcher.requestCount + 1 := by
      rw [requestCount, journal, calls_cancelThumbnail, List.countP_append]
      have withdrawn : ((switcher.carousel.awaited? handle).map
          Call.thumbnailCancel).toList.countP Call.asksPicture = 0 := by
        cases switcher.carousel.awaited? handle <;> rfl
      rw [withdrawn, Nat.add_zero]
      exact List.countP_append
    -- Below the end of the range the counter has not wrapped around.
    have new : switcher.thumbnailer.next.number.toNat = switcher.requestCount + 1 := by
      rw [Thumbnailer.next, accounted.upcoming]
      exact UInt64.toNat_ofNat_of_lt (count ▸ few)
    refine ⟨valid, ?_, ?_⟩
    · rw [thumbnailer, upcoming_cancelThumbnail, count]
      change switcher.thumbnailer.upcoming + 1 = _
      rw [accounted.upcoming]
      exact (UInt64.ofNat_add (switcher.requestCount + 1) 1).symm
    · rw [awaited, thumbnailer, mailbox, count]
      refine accounted.balanced.renew (switcher.thumbnailer.delivers switcher.mailbox) new ?_
        (fun request => ?_) fun request => ?_
      · exact nodup_pending_cancelThumbnail _
          (switcher.thumbnailer.nodup_pending_request _ accounted.balanced.distinct)
      · rw [mem_pending_cancelThumbnail]
        exact and_congr_left' (switcher.thumbnailer.mem_pending_request switcher.mailbox request)
      · exact switcher.delivered_answer arrived handle request

/-- The request of a card that goes is withdrawn, so the books stay balanced. -/
theorem destroyActivity (handle : Handle) : (switcher.destroyActivity handle).Accounted arrived := by
  obtain ⟨mailbox, thumbnailer, journal⟩ := switcher.destroyActivity_parts handle
  have count : (switcher.destroyActivity handle).requestCount = switcher.requestCount := by
    rw [requestCount, journal, calls_cancelThumbnail, List.countP_append]
    cases switcher.carousel.awaited? handle <;> rfl
  refine ⟨?_, ?_, ?_⟩
  · exact (switcher.steady_destroyActivity handle).valid (accounted.valid.erase handle)
  · rw [thumbnailer, upcoming_cancelThumbnail, count, accounted.upcoming]
  · rw [awaited?_destroyActivity, thumbnailer, mailbox, count]
    exact accounted.balanced.release (nodup_pending_cancelThumbnail _ accounted.balanced.distinct)
      (mem_pending_cancelThumbnail _)

/-- An answer that arrived is for a request that is not kept, so a card may get it any number of times. -/
theorem thumbnailReady {handle : Handle} {request : ThumbnailRequest}
    (came : .thumbnailReady handle request ∈ arrived) :
    (switcher.thumbnailReady handle request).Accounted arrived where
  valid := accounted.valid.modify ..
  upcoming := accounted.upcoming
  balanced := by
    change Balanced (switcher.carousel.modify handle (·.receive request)).awaited? _ _ _
    by_cases wanted : switcher.carousel.awaited? handle = some request
    · rw [Carousel.awaited?_receive _ _ wanted]
      refine accounted.balanced.release accounted.balanced.distinct fun other => ?_
      refine (and_iff_left_of_imp fun kept same => ?_).symm
      rw [wanted, Option.some_inj] at same
      subst same
      have unanswered := ((accounted.balanced.mem_kept_iff request).1 kept).2
      exact unanswered ⟨handle, List.mem_append_left _ came⟩
    · rw [Carousel.awaited?_receive_of_ne _ _ wanted]
      exact accounted.balanced

omit accounted in
/-- Deeds leave the books balanced while no number is used twice. -/
theorem deeds (accounted : before.Accounted arrived) (deeds : Deeds before after)
    (few : after.requestCount < UInt64.size) : after.Accounted arrived := by
  -- The count only grows, so there were few enough requests at every moment before the end.
  refine And.right (deeds.lift (motive := fun before after =>
    before.requestCount ≤ after.requestCount ∧
      (after.requestCount < UInt64.size → before.Accounted arrived → after.Accounted arrived))
    (fun _ => ⟨Nat.le_refl _, fun _ => id⟩) ?_ ?_ accounted.valid) few accounted
  · rintro before middle after ⟨fewer, first⟩ ⟨more, second⟩
    exact ⟨Nat.le_trans fewer more, fun few accounted => second few (first (by omega) accounted)⟩
  · intro before after valid deed
    have ends : EndsRequests [] before after := (Withdraws.deed valid deed).endsRequests
    refine ⟨ends.requestCount_le, fun few accounted => ?_⟩
    rcases deed.pictures valid with leaves | ⟨handle, rfl⟩
    · exact accounted.leaves leaves (deed.valid valid)
    · exact accounted.requestThumbnail handle few

/-- Removals leave the books balanced. -/
theorem clears (clears : Clears switcher after) : after.Accounted arrived := by
  obtain ⟨handles, rfl⟩ := clears
  induction handles generalizing switcher with
  | nil => exact accounted
  | cons first rest inductionHypothesis => exact inductionHypothesis (accounted.destroyActivity first)

end Accounted

end Switcher

end TaskSwitcher
