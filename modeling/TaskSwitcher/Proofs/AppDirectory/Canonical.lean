import Mathlib.Logic.Basic
import TaskSwitcher.Proofs.AppDirectory.Recognition
import TaskSwitcher.Proofs.Text.Blank

/-!
# Desktop entries as canonical ids

However an id is spelled, the desktop entry that it is resolved to resolves to itself. Its name is that of a
listed application, or the cleaned id where the directory is empty, with one ending of desktop entries. A
cleaned id has no blank in front, nor has a listed name that differs from it in case only, so cleaning the
entry takes the ending off again and nothing else.
-/

namespace TaskSwitcher.AppDirectory

variable {directory : AppDirectory} {id name : String} {app : AppInfo}

/-! ### Cleaning -/

/-- Cleaning trims first, so no blank is left in front, whatever ending is taken off then. -/
theorem startsBlank_cleaned (id : String) : Text.startsBlank (cleaned id).toList = false := by
  rw [cleaned, stem, String.toList_ofList, String.toList_ofList]
  exact Text.startsBlank_of_isPrefix (Text.withoutEnding_isPrefix ..) (Text.startsBlank_trim _)

/-- Cleaning the desktop entry of a name without a blank in front gives the name back. -/
theorem cleaned_append_ending (plain : Text.startsBlank name.toList = false) :
    cleaned (name ++ String.ofList desktopEnding) = name := by
  have spelled : (name ++ String.ofList desktopEnding).toList = name.toList ++ desktopEnding := by
    rw [String.toList_append, String.toList_ofList]
  have plainFront : Text.startsBlank (name.toList ++ desktopEnding) = false :=
    Text.startsBlank_append plain rfl
  have plainEnd : Text.startsBlank (name.toList ++ desktopEnding).reverse = false := by
    rw [List.reverse_append]
    rfl
  have trimmed := Text.trim_eq_self plainFront plainEnd
  rw [← spelled] at trimmed
  rw [cleaned_eq_stem trimmed, stem, spelled, Text.withoutEnding_append, String.ofList_toList]

/-! ### Names that differ in case only -/

/-- Names that differ in case only agree on whether they start with a blank. -/
theorem startsBlank_eq_of_folded_eq (same : folded name = folded id) :
    Text.startsBlank name.toList = Text.startsBlank id.toList := by
  rw [← Text.startsBlank_lowercase, ← Text.startsBlank_lowercase id.toList]
  exact congrArg Text.startsBlank same

/-- Nothing but the empty name is empty in lowercase. -/
theorem folded_eq_nil_iff : folded id = [] ↔ id = "" := by
  rw [folded, Text.lowercase_eq_nil_iff, String.toList_eq_nil_iff]

/-! ### Looking up what was found -/

/-- An id is found under itself if the directory is empty or has it, and otherwise under a listed name that
differs from it in case only. -/
theorem lookup_eq_some (found : directory.lookup id = some name) :
    (directory.known = [] ∨ id ∈ directory.known) ∧ name = id ∨
      ¬(directory.known = [] ∨ id ∈ directory.known) ∧ name ∈ directory.known ∧
        folded name = folded id := by
  unfold lookup at found
  split at found
  · next known =>
      rw [Bool.or_eq_true, List.isEmpty_iff, List.contains_iff_mem] at known
      exact .inl ⟨known, (Option.some.inj found).symm⟩
  · next unknown =>
      rw [Bool.or_eq_true, List.isEmpty_iff, List.contains_iff_mem] at unknown
      exact .inr ⟨unknown, List.mem_of_find?_eq_some found, by simpa using List.find?_some found⟩

/-- Whatever name an id is found under, it differs from the id in case at most. -/
theorem folded_of_lookup (found : directory.lookup id = some name) : folded name = folded id := by
  rcases lookup_eq_some found with ⟨-, rfl⟩ | ⟨-, -, same⟩
  · rfl
  · exact same

/-- What is found is found under itself. -/
theorem lookup_lookup (found : directory.lookup id = some name) :
    directory.lookup name = some name := by
  rcases lookup_eq_some found with ⟨-, rfl⟩ | ⟨-, listed, -⟩
  · exact found
  · exact lookup_of_mem listed

/-! ### Resolving what was resolved -/

/-- An id is resolved if something is left of it and found, and then to the desktop entry of what was
found. -/
theorem resolve_eq_some_iff :
    directory.resolve id = some app ↔
      cleaned id ≠ "" ∧ ∃ name, directory.lookup (cleaned id) = some name ∧
        app = ⟨name ++ String.ofList desktopEnding⟩ := by
  rw [resolve]
  split
  · next empty => simp [empty]
  · next rest =>
      rw [Option.map_eq_some_iff, and_iff_right rest]
      exact exists_congr fun name => and_congr_right fun _ => eq_comm

/-- A desktop entry that an id was resolved to resolves to itself. -/
theorem resolve_desktopId (resolved : directory.resolve id = some app) :
    directory.resolve app.desktopId = some app := by
  obtain ⟨rest, name, found, rfl⟩ := resolve_eq_some_iff.1 resolved
  have same := folded_of_lookup found
  have plain : Text.startsBlank name.toList = false :=
    (startsBlank_eq_of_folded_eq same).trans (startsBlank_cleaned id)
  have again := cleaned_append_ending plain
  refine resolve_eq_some_iff.2 ⟨?_, name, ?_, rfl⟩
  · rwa [again, Ne, ← folded_eq_nil_iff, same, folded_eq_nil_iff]
  · rw [again]
    exact lookup_lookup found

/-- In whatever order a directory has the listed applications, it recognises an id if something is left of the
id when it is cleaned, and no application is listed or some listed name differs from the rest in case at most.
The desktop entry that the id is resolved to is that of the rest, if no application is listed or the rest is
listed as it is, and otherwise that of a listed name which differs from it in case. Either way the entry
resolves to itself. -/
theorem ids_resolve_canonically {entries : List String}
    (lists : ∀ name, name ∈ directory.known ↔ name ∈ (ofList entries).known) (id : String) :
    ((directory.resolve id).isSome = true ↔
      cleaned id ≠ "" ∧
        (entries = [] ∨ ∃ entry ∈ entries, folded (stem entry) = folded (cleaned id))) ∧
    ∀ app, directory.resolve id = some app →
      ((entries = [] ∨ ∃ entry ∈ entries, stem entry = cleaned id) →
        app.desktopId = cleaned id ++ String.ofList desktopEnding) ∧
      (¬(entries = [] ∨ ∃ entry ∈ entries, stem entry = cleaned id) →
        ∃ entry ∈ entries, folded (stem entry) = folded (cleaned id) ∧
          app.desktopId = stem entry ++ String.ofList desktopEnding) ∧
      directory.resolve app.desktopId = some app := by
  have listed name : name ∈ directory.known ↔ ∃ entry ∈ entries, stem entry = name :=
    (lists name).trans mem_known_ofList
  have emptyToo : directory.known = [] ↔ entries = [] := by
    rw [List.eq_nil_iff_forall_not_mem, ← List.map_eq_nil_iff (f := stem),
      List.eq_nil_iff_forall_not_mem]
    exact forall_congr' fun name => not_congr (lists name)
  refine ⟨?_, fun app resolved => ?_⟩
  · rw [resolve_isSome_iff, emptyToo]
    simp only [listed, exists_exists_and_eq_and]
  · obtain ⟨-, name, found, rfl⟩ := resolve_eq_some_iff.1 resolved
    have spelled := lookup_eq_some found
    rw [emptyToo, listed, listed] at spelled
    refine ⟨fun asItIs => ?_, fun otherwise => ?_, resolve_desktopId resolved⟩
    · rcases spelled with ⟨-, rfl⟩ | ⟨otherwise, -⟩
      · rfl
      · exact absurd asItIs otherwise
    · rcases spelled with ⟨asItIs, -⟩ | ⟨-, ⟨entry, member, rfl⟩, same⟩
      · exact absurd asItIs otherwise
      · exact ⟨entry, member, same, rfl⟩

/-- A shouted id with blanks around it and with the ending is resolved to the entry of the listed application,
which resolves to itself. The directory may have the applications in another order than the list. -/
theorem shouted_chatty_resolves_to_entry :
    let entries := ["org.gnome.Maps.desktop", "sm.puri.Chatty"]
    let directory : AppDirectory := ⟨["sm.puri.Chatty", "org.gnome.Maps"]⟩
    (∀ name, name ∈ directory.known ↔ name ∈ (ofList entries).known) ∧
      directory.resolve " SM.PURI.CHATTY.desktop " = some ⟨"sm.puri.Chatty.desktop"⟩ ∧
      (∃ entry ∈ entries, folded (stem entry) = folded (cleaned " SM.PURI.CHATTY.desktop ") ∧
        "sm.puri.Chatty.desktop" = stem entry ++ String.ofList desktopEnding) ∧
      directory.resolve "sm.puri.Chatty.desktop" = some ⟨"sm.puri.Chatty.desktop"⟩ := by
  intro entries directory
  have known : (ofList entries).known = ["org.gnome.Maps", "sm.puri.Chatty"] := by decide +kernel
  have lists name : name ∈ directory.known ↔ name ∈ (ofList entries).known := by
    rw [known]
    exact (List.Perm.swap ..).mem_iff
  have resolved : directory.resolve " SM.PURI.CHATTY.desktop " = some ⟨"sm.puri.Chatty.desktop"⟩ := by
    decide +kernel
  obtain ⟨-, canonical⟩ := ids_resolve_canonically lists " SM.PURI.CHATTY.desktop "
  obtain ⟨-, otherSpelling, again⟩ := canonical _ resolved
  exact ⟨lists, resolved, otherSpelling (by decide +kernel), again⟩

end TaskSwitcher.AppDirectory
