import TaskSwitcher.Proofs.Switcher.Pictures

/-!
# Requests for pictures that end

A request ends when its card gets the picture, asks for a new one, or is removed. In the last two cases the
request is withdrawn, whatever has become of it in the meantime. So no request that was made just ceases to
be waited for.
-/

namespace TaskSwitcher.Switcher

variable {switcher before middle after : Switcher} {arrived : List Event}

/-! ### What the cards wait for -/

/-- What leaves pictures alone leaves the cards waiting as they did. -/
theorem LeavesPictures.awaited?_eq (leaves : LeavesPictures before after) :
    after.carousel.awaited? = before.carousel.awaited? := by
  funext handle
  rw [Carousel.awaited?_eq, Carousel.awaited?_eq]
  rcases leaves.pictures handle with same | ⟨unknown, unasked⟩
  · rw [same]
  · rw [unknown, Option.bind_none, Option.bind_eq_none_iff]
    exact unasked

/-- Asking for a picture does nothing, or it makes one request, which the card waits for from then on, and
withdraws the one that the card waited for. -/
theorem requestThumbnail_parts (switcher : Switcher) (handle : Handle) :
    switcher.requestThumbnail handle = switcher ∨
      ∃ window size,
        let asked := switcher.askThumbnail handle window size
        let former := switcher.carousel.awaited? handle
        (switcher.requestThumbnail handle).carousel.awaited? =
            Function.update switcher.carousel.awaited? handle (some switcher.thumbnailer.next) ∧
          (switcher.requestThumbnail handle).mailbox = asked.mailbox ∧
          (switcher.requestThumbnail handle).thumbnailer =
            (asked.cancelThumbnail former).thumbnailer ∧
          (switcher.requestThumbnail handle).calls = (asked.cancelThumbnail former).calls := by
  rcases switcher.requestThumbnail_cases handle with
    unchanged | ⟨picture, window, size, shown, requested⟩
  · exact .inl unchanged
  · refine .inr ⟨window, size, ?_⟩
    have former : switcher.carousel.awaited? handle = picture.pending := by
      rw [Carousel.awaited?_eq, shown, Option.bind_some]
    rw [former, requested]
    refine ⟨?_, mailbox_cancelThumbnail _, ?_, ?_⟩
    · rw [carousel_cancelThumbnail]
      exact switcher.carousel.awaited?_awaiting handle shown _
    · cases picture.pending <;> rfl
    · cases picture.pending <;> rfl

/-- A card that is gone waits for nothing, and the others wait as they did. -/
theorem awaited?_destroyActivity (switcher : Switcher) (handle : Handle) :
    (switcher.destroyActivity handle).carousel.awaited? =
      Function.update switcher.carousel.awaited? handle none := by
  funext other
  rw [Function.update_apply]
  exact switcher.viewOf?_destroyActivity handle Activity.pending? other

/-! ### Withdrawing what is not waited for any more -/

/-- The request was made for the card by one of the commands. -/
def MadeFor (handle : Handle) (request : ThumbnailRequest) (calls : List Call) : Prop :=
  ∃ window size, .thumbnailRequest request handle window size ∈ calls

/-- Each request that a card waited for, or that was made for it in between, is waited for by it still or
was withdrawn. -/
def Withdraws (before after : Switcher) : Prop :=
  ∃ calls, after.calls = before.calls ++ calls ∧
    ∀ handle request,
      before.carousel.awaited? handle = some request ∨ MadeFor handle request calls →
      after.carousel.awaited? handle = some request ∨ .thumbnailCancel request ∈ calls

namespace Withdraws

/-- Nothing asked for, nothing to withdraw. -/
theorem refl : Withdraws switcher switcher := by
  refine ⟨[], (List.append_nil _).symm, ?_⟩
  rintro handle request (waits | ⟨window, size, made⟩)
  · exact .inl waits
  · cases made

/-- What is withdrawn in one part or in the other is withdrawn. -/
theorem trans (first : Withdraws before middle) (second : Withdraws middle after) :
    Withdraws before after := by
  obtain ⟨calls, journal, ends⟩ := first
  obtain ⟨more, continues, endsLater⟩ := second
  refine ⟨calls ++ more, by rw [continues, journal, List.append_assoc], ?_⟩
  -- Whoever waits in the middle goes on waiting or has the request withdrawn by the second part.
  have later {handle : Handle} {request : ThumbnailRequest}
      (unsettled : middle.carousel.awaited? handle = some request ∨ MadeFor handle request more) :
      after.carousel.awaited? handle = some request ∨ .thumbnailCancel request ∈ calls ++ more :=
    (endsLater handle request unsettled).imp_right (List.mem_append_right calls)
  have earlier {handle : Handle} {request : ThumbnailRequest}
      (unsettled : before.carousel.awaited? handle = some request ∨ MadeFor handle request calls) :
      after.carousel.awaited? handle = some request ∨ .thumbnailCancel request ∈ calls ++ more := by
    rcases ends handle request unsettled with waits | withdrawn
    · exact later (.inl waits)
    · exact .inr (List.mem_append_left more withdrawn)
  rintro handle request (waits | ⟨window, size, made⟩)
  · exact earlier (.inl waits)
  · rcases List.mem_append.1 made with early | late
    · exact earlier (.inr ⟨window, size, early⟩)
    · exact later (.inr ⟨window, size, late⟩)

/-- What leaves pictures alone has nothing to withdraw. -/
theorem leaves (leaves : LeavesPictures before after) : Withdraws before after := by
  obtain ⟨calls, journal, aside⟩ := leaves.journal
  refine ⟨calls, journal, ?_⟩
  rintro handle request (waits | ⟨window, size, made⟩)
  · exact .inl (by rw [leaves.awaited?_eq, waits])
  · exact absurd trivial (aside _ made)

/-- A card that asks for another picture withdraws the request that it waits for. -/
theorem requestThumbnail (handle : Handle) : Withdraws before (before.requestThumbnail handle) := by
  rcases before.requestThumbnail_parts handle with
    unchanged | ⟨window, size, awaited, -, -, journal⟩
  · rw [unchanged]
    exact .refl
  · rw [calls_cancelThumbnail] at journal
    refine ⟨_, journal.trans (List.append_assoc ..), ?_⟩
    rw [awaited]
    rintro other request (waits | ⟨shown, drawn, made⟩)
    · by_cases same : other = handle
      · subst same
        rw [waits]
        exact .inr (List.mem_append_right _ (List.mem_singleton.2 rfl))
      · exact .inl (by rwa [Function.update_of_ne same])
    · rcases List.mem_append.1 made with new | withdrawn
      · cases List.mem_singleton.1 new
        exact .inl (Function.update_self ..)
      · cases former : before.carousel.awaited? handle <;> simp [former] at withdrawn

/-- A card that goes withdraws the request that it waits for. -/
theorem destroyActivity (handle : Handle) : Withdraws before (before.destroyActivity handle) := by
  obtain ⟨-, -, journal⟩ := before.destroyActivity_parts handle
  rw [calls_cancelThumbnail] at journal
  refine ⟨_, journal, ?_⟩
  rw [awaited?_destroyActivity]
  rintro other request (waits | ⟨shown, drawn, made⟩)
  · by_cases same : other = handle
    · subst same
      rw [waits]
      exact .inr (List.mem_singleton.2 rfl)
    · exact .inl (by rwa [Function.update_of_ne same])
  · cases former : before.carousel.awaited? handle <;> simp [former] at made

/-- A deed withdraws each request that is not waited for any longer. -/
theorem deed (valid : before.carousel.Valid) (deed : Deed before after) :
    Withdraws before after := by
  rcases deed.pictures valid with leaves | ⟨asking, rfl⟩
  · exact .leaves leaves
  · exact .requestThumbnail asking

/-- Deeds withdraw each request that is not waited for any longer. -/
theorem deeds (valid : before.carousel.Valid) (deeds : Deeds before after) :
    Withdraws before after :=
  deeds.lift (fun _ => .refl) (fun first second => first.trans second) .deed valid

/-- Removals withdraw each request that is not waited for any longer. -/
theorem clears (clears : Clears before after) : Withdraws before after :=
  clears.lift (fun _ => .refl) (fun first second => first.trans second) fun _ => .destroyActivity

end Withdraws

/-! ### Requests that are answered -/

/-- Each request that a card waited for, or that was made for it in between, is waited for by it still, or
was withdrawn, or its answer came and the card waits for nothing now. -/
def EndsRequests (arrived : List Event) (before after : Switcher) : Prop :=
  ∃ calls, after.calls = before.calls ++ calls ∧
    ∀ handle request,
      before.carousel.awaited? handle = some request ∨ MadeFor handle request calls →
      after.carousel.awaited? handle = some request ∨ .thumbnailCancel request ∈ calls ∨
        .thumbnailReady handle request ∈ arrived ∧ after.carousel.contains handle = true ∧
          after.carousel.awaited? handle = none

/-- Where all that is not waited for is withdrawn, no answer is needed to end a request. -/
theorem Withdraws.endsRequests (withdraws : Withdraws before after) :
    EndsRequests arrived before after := by
  obtain ⟨calls, journal, ends⟩ := withdraws
  refine ⟨calls, journal, fun handle request unsettled => ?_⟩
  exact (ends handle request unsettled).imp_right .inl

/-- A picture that comes ends the request of its card, and it ends no other. -/
theorem endsRequests_thumbnailReady {handle : Handle} {request : ThumbnailRequest}
    (came : .thumbnailReady handle request ∈ arrived) :
    EndsRequests arrived switcher (switcher.thumbnailReady handle request) := by
  refine ⟨[], (List.append_nil _).symm, ?_⟩
  rintro other former (waits | ⟨window, size, made⟩)
  · change (switcher.carousel.modify handle (·.receive request)).awaited? other = some former ∨ _ ∨
      _ ∧ (switcher.carousel.modify handle (·.receive request)).contains other = true ∧
        (switcher.carousel.modify handle (·.receive request)).awaited? other = none
    by_cases wanted : switcher.carousel.awaited? handle = some request
    · rw [Carousel.awaited?_receive _ _ wanted]
      by_cases same : other = handle
      · subst same
        obtain rfl := Option.some.inj (wanted.symm.trans waits)
        obtain ⟨activity, found, -⟩ := (Carousel.viewOf?_eq_some_iff ..).1 waits
        refine .inr (.inr ⟨came, ?_, Function.update_self ..⟩)
        rw [Carousel.contains_modify]
        exact (Carousel.contains_iff ..).2 ⟨activity, found⟩
      · exact .inl (by rwa [Function.update_of_ne same])
    · rw [Carousel.awaited?_receive_of_ne _ _ wanted]
      exact .inl waits
  · cases made

end TaskSwitcher.Switcher
