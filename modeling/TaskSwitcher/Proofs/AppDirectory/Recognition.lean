import TaskSwitcher.Carousel.Lemmas
import TaskSwitcher.Service

/-!
# Which applications are recognised

A reported id is cleaned before it is looked up, that is freed of outer blanks and then of one ending of
desktop entries; a listed id is freed of the ending alone. So the directory recognises what differs from an
entry in blanks around it, in the ending or in case. The entry itself is recognised unless it has blanks
around it or is nothing but the ending, although sound settings may list such entries.
-/

namespace TaskSwitcher

/-! ### Removing an ending -/

/-- Taking an ending off leaves nothing only of the empty text and of the ending itself. -/
theorem Text.withoutEnding_eq_nil_iff {ending text : List Char} :
    withoutEnding ending text = [] ↔ text = [] ∨ text = ending := by
  unfold withoutEnding
  split
  · next ends =>
      obtain ⟨front, rfl⟩ := List.isSuffixOf_iff_suffix.1 ends
      rw [List.length_append, Nat.add_sub_cancel, List.take_left]
      constructor
      · rintro rfl
        exact .inr (List.nil_append ending)
      · rintro (none | same)
        · exact (List.append_eq_nil_iff.1 none).1
        · exact List.append_left_eq_self.1 same
  · next other =>
      refine (or_iff_left fun same => other ?_).symm
      rw [same]
      exact List.isSuffixOf_iff_suffix.2 (List.suffix_refl ending)

namespace AppDirectory

/-- An entry has an empty name if it is empty or nothing but the ending of desktop entries. -/
theorem stem_eq_empty_iff (id : String) : stem id = "" ↔ id = "" ∨ id.toList = desktopEnding := by
  rw [stem, ← String.toList_eq_nil_iff, String.toList_ofList, Text.withoutEnding_eq_nil_iff,
    String.toList_eq_nil_iff]

/-- Nothing is left of an id if there is nothing but blanks, or the ending among blanks. -/
theorem cleaned_eq_empty_iff (id : String) :
    cleaned id = "" ↔ Text.trim id.toList = [] ∨ Text.trim id.toList = desktopEnding := by
  rw [cleaned, stem_eq_empty_iff, ← String.toList_eq_nil_iff, String.toList_ofList]

/-- Where there are no blanks around it an id is only freed of its ending. -/
theorem cleaned_eq_stem {id : String} (trimmed : Text.trim id.toList = id.toList) :
    cleaned id = stem id := by
  rw [cleaned, trimmed, String.ofList_toList]

/-! ### Looking applications up -/

variable {directory : AppDirectory} {id : String}

/-- An empty directory finds everything, and any other one what it lists, in whatever case. -/
theorem lookup_isSome_iff :
    (directory.lookup id).isSome = true ↔
      directory.known = [] ∨ ∃ entry ∈ directory.known, folded entry = folded id := by
  unfold lookup
  split
  · next known =>
      rw [Bool.or_eq_true, List.isEmpty_iff, List.contains_iff_mem] at known
      simp only [Option.isSome_some, true_iff]
      exact known.imp_right fun member => ⟨id, member, rfl⟩
  · next unknown =>
      rw [Bool.or_eq_true, List.isEmpty_iff, not_or] at unknown
      simp [List.find?_isSome, unknown.1]

/-- A name that is listed as it is does not depend on what else is listed. -/
theorem lookup_of_mem (member : id ∈ directory.known) : directory.lookup id = some id := by
  simp [lookup, member]

/-- An id is recognised if there is something left of it when it is cleaned, and the directory is empty or has
an entry that differs from the rest in case at most. -/
theorem resolve_isSome_iff :
    (directory.resolve id).isSome = true ↔
      cleaned id ≠ "" ∧
        (directory.known = [] ∨ ∃ entry ∈ directory.known, folded entry = folded (cleaned id)) := by
  rw [← lookup_isSome_iff, resolve]
  split
  · next empty => simp [empty]
  · next rest => simp [rest]

/-- An id whose rest is listed as it is resolves to the entry of that rest. -/
theorem resolve_of_mem (rest : cleaned id ≠ "") (member : cleaned id ∈ directory.known) :
    directory.resolve id = some ⟨cleaned id ++ String.ofList desktopEnding⟩ := by
  rw [resolve, if_neg rest, lookup_of_mem member, Option.map_some]

/-- A directory made of a list knows the names of its entries and no others. -/
theorem mem_known_ofList {entries : List String} :
    id ∈ (ofList entries).known ↔ ∃ entry ∈ entries, stem entry = id :=
  List.mem_map

end AppDirectory

/-! ### Listed applications -/

/-- Sound settings list no blank application. -/
theorem Settings.trim_ne_nil_of_sound {settings : Settings} (sound : settings.fault? = none)
    {entry : String} (listed : entry ∈ settings.apps.known) : Text.trim entry.toList ≠ [] := by
  have noBlank : settings.apps.known.findIdx? isBlankApp = none := by
    simp only [fault?, faults, List.findSome?_eq_none_iff, id_eq] at sound
    simpa using sound _ (List.mem_of_getElem? (i := 8) rfl)
  have visible := List.findIdx?_eq_none_iff.1 noBlank entry listed
  intro blank
  rw [isBlankApp, blank] at visible
  cases visible

namespace Switcher

variable {switcher : Switcher}

/-- A new card makes the strip longer by one. -/
theorem length_createActivity (switcher : Switcher) (activity : Activity) :
    (switcher.createActivity activity).carousel.length = switcher.carousel.length + 1 := by
  have order : (switcher.createActivity activity).carousel.order =
      (switcher.carousel.insert (switcher.placeOf activity) activity).order := rfl
  rw [Carousel.length, order, Carousel.order_insert, List.length_append, List.length_cons,
    ← Nat.add_assoc, ← List.length_append, List.take_append_drop]
  rfl

/-- The launch of a recognised application is shown, and that of another one is ignored. -/
theorem length_launchStarted (switcher : Switcher) (appId : String) (startupId : StartupId)
    (now : Nat) :
    (switcher.launchStarted appId startupId now).carousel.length =
      switcher.carousel.length + if (switcher.apps.resolve appId).isSome then 1 else 0 := by
  unfold launchStarted
  cases switcher.apps.resolve appId with
  | none => rfl
  | some appInfo => exact switcher.length_createActivity _

end Switcher

namespace AppDirectory

/-- An application that sound settings list is recognised by its own entry if the entry is not only the ending
and some entry differs from what is left of it in case at most. An entry without blanks around it is such an
entry itself, and is recognised under its own name. The launch of a listed application is shown if it is
recognised, and ignored if not. -/
theorem listed_recognised_iff {settings : Settings} (sound : settings.fault? = none) {entry : String}
    (listed : entry ∈ settings.apps.known) :
    (((ofList settings.apps.known).resolve entry).isSome = true ↔
      Text.trim entry.toList ≠ desktopEnding ∧
        ∃ other ∈ settings.apps.known, folded (stem other) = folded (cleaned entry)) ∧
    (Text.trim entry.toList = entry.toList → entry.toList ≠ desktopEnding →
      (ofList settings.apps.known).resolve entry =
        some ⟨stem entry ++ String.ofList desktopEnding⟩) ∧
    ∀ switcher : Switcher, switcher.apps = ofList settings.apps.known → ∀ now startupId,
      (switcher.handle now (.launch ⟨.started, entry, startupId⟩)).1.carousel.length =
        switcher.carousel.length +
          if ((ofList settings.apps.known).resolve entry).isSome then 1 else 0 := by
  have visible := settings.trim_ne_nil_of_sound sound listed
  have notEmpty : (ofList settings.apps.known).known ≠ [] :=
    List.ne_nil_of_mem (mem_known_ofList.2 ⟨entry, listed, rfl⟩)
  have rest_iff : cleaned entry ≠ "" ↔ Text.trim entry.toList ≠ desktopEnding := by
    rw [Ne, cleaned_eq_empty_iff, not_or]
    exact and_iff_right visible
  refine ⟨?_, fun trimmed more => ?_, fun switcher apps now startupId => ?_⟩
  · rw [resolve_isSome_iff, rest_iff, or_iff_right notEmpty]
    refine and_congr_right fun _ => ?_
    constructor
    · rintro ⟨known, member, same⟩
      obtain ⟨other, listedToo, rfl⟩ := mem_known_ofList.1 member
      exact ⟨other, listedToo, same⟩
    · rintro ⟨other, listedToo, same⟩
      exact ⟨stem other, mem_known_ofList.2 ⟨other, listedToo, rfl⟩, same⟩
  · have rest : cleaned entry ≠ "" := by
      rw [rest_iff, trimmed]
      exact more
    have member : cleaned entry ∈ (ofList settings.apps.known).known :=
      mem_known_ofList.2 ⟨entry, listed, (cleaned_eq_stem trimmed).symm⟩
    rw [resolve_of_mem rest member, cleaned_eq_stem trimmed]
  · rw [← apps]
    exact switcher.length_launchStarted entry startupId now

/-- An entry may have the ending of desktop entries, and it may occur in two spellings. Both are recognised,
each under its own name. -/
theorem maps_recognised_in_both_spellings :
    let settings : Settings :=
      { apps := { known := ["org.gnome.Maps.desktop", "ORG.GNOME.MAPS"] } }
    settings.fault? = none ∧
      (ofList settings.apps.known).resolve "org.gnome.Maps.desktop" =
        some ⟨"org.gnome.Maps.desktop"⟩ ∧
      (ofList settings.apps.known).resolve "ORG.GNOME.MAPS" = some ⟨"ORG.GNOME.MAPS.desktop"⟩ := by
  intro settings
  have sound : settings.fault? = none := by decide +kernel
  have first : "org.gnome.Maps.desktop" ∈ settings.apps.known := .head _
  have second : "ORG.GNOME.MAPS" ∈ settings.apps.known := .tail _ (.head _)
  refine ⟨sound, ?_, ?_⟩
  · refine ((listed_recognised_iff sound first).2.1 ?_ ?_).trans ?_ <;> decide +kernel
  · refine ((listed_recognised_iff sound second).2.1 ?_ ?_).trans ?_ <;> decide +kernel

/-- Sound settings may list an application with a blank behind it, and the ending alone. Neither entry is
recognised. -/
theorem maps_before_blank_not_recognised :
    let settings : Settings := { apps := { known := ["org.gnome.Maps ", ".desktop"] } }
    settings.fault? = none ∧ ∀ entry ∈ settings.apps.known,
      (ofList settings.apps.known).resolve entry = none := by
  decide +kernel

end AppDirectory

end TaskSwitcher
