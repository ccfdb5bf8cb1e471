import Mathlib.Logic.Basic
import TaskSwitcher.Proofs.AppDirectory.Recognition

/-!
# The order in which a directory is searched

A directory is the set of the listed applications, searched in some order. An application that is listed
under the reported id is found in any order. Another spelling of the id is looked for, and of several listed
names that differ from the id in case only the first one is found, so the order decides between them.
-/

namespace TaskSwitcher.AppDirectory

variable {directory first second : AppDirectory} {entries : List String} {id one other : String}

/-- The directory has the listed applications, each once, in whatever order. -/
structure Enumerates (directory : AppDirectory) (entries : List String) : Prop where
  distinct : directory.known.Nodup
  mem_iff : ∀ id, id ∈ directory.known ↔ id ∈ (ofList entries).known

/-- At most one name competes for the id, if the directory does not have the id itself and something is left
of it when it is cleaned. -/
def Unambiguous (directory : AppDirectory) (id : String) : Prop :=
  cleaned id = "" ∨ cleaned id ∈ directory.known ∨
    ∀ one ∈ directory.known, ∀ other ∈ directory.known,
      folded one = folded (cleaned id) → folded other = folded (cleaned id) → one = other

instance decidableUnambiguous (directory : AppDirectory) : DecidablePred directory.Unambiguous :=
  fun id => inferInstanceAs (Decidable (cleaned id = "" ∨ cleaned id ∈ directory.known ∨
    ∀ one ∈ directory.known, ∀ other ∈ directory.known,
      folded one = folded (cleaned id) → folded other = folded (cleaned id) → one = other))

/-- Where no two names differ in case only, no id is ambiguous. -/
theorem unambiguous_of_injOn
    (apart : ∀ one ∈ directory.known, ∀ other ∈ directory.known, folded one = folded other → one = other)
    (id : String) : directory.Unambiguous id :=
  .inr (.inr fun one listed other listedToo sameOne sameOther =>
    apart one listed other listedToo (sameOne.trans sameOther.symm))

/-! ### Orders that cannot be told apart -/

/-- Where only one name is wanted, the search finds that name, in whatever order it looks. -/
theorem find?_eq_some_iff_of_unique {names : List String} {wanted : String → Bool}
    (unique : ∀ one ∈ names, ∀ other ∈ names, wanted one → wanted other → one = other) :
    names.find? wanted = some id ↔ id ∈ names ∧ wanted id := by
  constructor
  · exact fun found => ⟨List.mem_of_find?_eq_some found, List.find?_some found⟩
  · rintro ⟨member, fits⟩
    obtain ⟨hit, found⟩ := Option.isSome_iff_exists.1 (List.find?_isSome.2 ⟨id, member, fits⟩)
    rw [found, unique hit (List.mem_of_find?_eq_some found) id member (List.find?_some found) fits]

/-- Directories that have the same names resolve an id alike if it is unambiguous. -/
theorem resolve_eq_of_unambiguous (same : ∀ name, name ∈ first.known ↔ name ∈ second.known)
    (clear : first.Unambiguous id) : first.resolve id = second.resolve id := by
  by_cases rest : cleaned id = ""
  · simp only [resolve, rest, if_true]
  by_cases listed : cleaned id ∈ first.known
  · rw [resolve_of_mem rest listed, resolve_of_mem rest ((same _).1 listed)]
  have unique := (clear.resolve_left rest).resolve_left listed
  have uniqueToo : ∀ one ∈ second.known, ∀ other ∈ second.known,
      folded one = folded (cleaned id) → folded other = folded (cleaned id) → one = other := by
    intro one member other memberToo
    exact unique one ((same one).2 member) other ((same other).2 memberToo)
  have found : first.known.find? (fun name => folded name = folded (cleaned id)) =
      second.known.find? fun name => folded name = folded (cleaned id) := by
    ext hit
    rw [find?_eq_some_iff_of_unique (by simpa using unique),
      find?_eq_some_iff_of_unique (by simpa using uniqueToo), same hit]
  have emptyToo : first.known = [] ↔ second.known = [] := by
    simp only [List.eq_nil_iff_forall_not_mem, same]
  have unlisted : cleaned id ∉ second.known := fun member => listed ((same _).2 member)
  simp [resolve, lookup, rest, listed, unlisted, found, emptyToo]

/-! ### Orders -/

/-- Leaving out what occurred before makes no difference for a search. -/
theorem exists_nodup_find?_eq (names : List String) :
    ∃ distinct : List String, distinct.Nodup ∧ (∀ name, name ∈ distinct ↔ name ∈ names) ∧
      ∀ wanted : String → Bool, distinct.find? wanted = names.find? wanted := by
  induction names with
  | nil => exact ⟨[], .nil, fun _ => .rfl, fun _ => rfl⟩
  | cons name rest inductionHypothesis =>
      obtain ⟨distinct, nodup, mem_iff, found⟩ := inductionHypothesis
      refine ⟨name :: distinct.filter (· ≠ name), ?_, fun other => ?_, fun wanted => ?_⟩
      · exact List.nodup_cons.2 ⟨by simp, nodup.filter _⟩
      · by_cases same : other = name <;> simp [same, mem_iff]
      · cases fits : wanted name with
        | true => rw [List.find?_cons_of_pos fits, List.find?_cons_of_pos fits]
        | false =>
            rw [List.find?_cons_of_neg (by simp [fits]), List.find?_cons_of_neg (by simp [fits]),
              List.find?_filter, ← found]
            congr 1
            funext other
            by_cases same : other = name <;> simp [same, fits]

/-- Searching in the order of the list is one of the ways. -/
theorem exists_enumerates_resolve_eq (entries : List String) :
    ∃ directory : AppDirectory, directory.Enumerates entries ∧
      directory.resolve = (ofList entries).resolve := by
  obtain ⟨distinct, nodup, mem_iff, found⟩ := exists_nodup_find?_eq (ofList entries).known
  refine ⟨⟨distinct⟩, ⟨nodup, mem_iff⟩, funext fun id => ?_⟩
  have emptyToo : distinct = [] ↔ (ofList entries).known = [] := by
    simp only [List.eq_nil_iff_forall_not_mem, mem_iff]
  simp [resolve, lookup, mem_iff, found, emptyToo]

/-- A directory made of a list enumerates the names of the list. -/
theorem enumerates_ofList (distinct : (ofList entries).known.Nodup) :
    (ofList entries).Enumerates entries :=
  ⟨distinct, fun _ => .rfl⟩

/-- Enumerating the same names in another order is as good. -/
theorem Enumerates.of_perm (enumerates : first.Enumerates entries)
    (reordered : first.known.Perm second.known) : second.Enumerates entries where
  distinct := reordered.nodup_iff.1 enumerates.distinct
  mem_iff id := reordered.symm.mem_iff.trans (enumerates.mem_iff id)

/-- Any listed name may come first. -/
theorem exists_enumerates_first (listed : one ∈ (ofList entries).known) :
    ∃ rest : List String, Enumerates ⟨one :: rest⟩ entries := by
  obtain ⟨directory, enumerates, -⟩ := exists_enumerates_resolve_eq entries
  have member : one ∈ directory.known := (enumerates.mem_iff one).2 listed
  exact ⟨directory.known.erase one, enumerates.of_perm (List.perm_cons_erase member)⟩

/-! ### Orders that make a difference -/

/-- The first name is found if it is wanted and the id itself is not listed. -/
theorem resolve_of_first {rest : List String} (left : cleaned id ≠ "")
    (unlisted : cleaned id ∉ one :: rest) (wanted : folded one = folded (cleaned id)) :
    resolve ⟨one :: rest⟩ id = some ⟨one ++ String.ofList desktopEnding⟩ := by
  have found : lookup ⟨one :: rest⟩ (cleaned id) = some one := by
    simp [lookup, unlisted, wanted]
  rw [resolve, if_neg left, found, Option.map_some]

/-- Where an id is ambiguous, two directories of the same entries resolve it differently. -/
theorem exists_resolve_ne (ambiguous : ¬ (ofList entries).Unambiguous id) :
    ∃ first second : AppDirectory, first.Enumerates entries ∧ second.Enumerates entries ∧
      first.resolve id ≠ second.resolve id := by
  simp only [Unambiguous, not_or, not_forall] at ambiguous
  obtain ⟨left, unlisted, one, listed, other, listedToo, wanted, wantedToo, apart⟩ := ambiguous
  obtain ⟨rest, enumerates⟩ := exists_enumerates_first listed
  obtain ⟨restToo, enumeratesToo⟩ := exists_enumerates_first listedToo
  refine ⟨_, _, enumerates, enumeratesToo, ?_⟩
  rw [resolve_of_first left (fun member => unlisted ((enumerates.mem_iff _).1 member)) wanted,
    resolve_of_first left (fun member => unlisted ((enumeratesToo.mem_iff _).1 member)) wantedToo]
  intro same
  exact apart ((String.append_left_inj _).1 (AppInfo.mk.inj (Option.some.inj same)))

/-- Whatever the order of the search, an id is resolved alike if it is unambiguous, and only then. -/
theorem resolve_eq_iff_unambiguous (entries : List String) (id : String) :
    (∀ first second : AppDirectory, first.Enumerates entries → second.Enumerates entries →
      first.resolve id = second.resolve id) ↔ (ofList entries).Unambiguous id := by
  constructor
  · intro alike
    refine Decidable.byContradiction fun ambiguous => ?_
    obtain ⟨first, second, enumerates, enumeratesToo, differs⟩ := exists_resolve_ne ambiguous
    exact differs (alike first second enumerates enumeratesToo)
  · intro clear first second enumerates enumeratesToo
    have inOrder {directory : AppDirectory} (enumerates : directory.Enumerates entries) :
        (ofList entries).resolve id = directory.resolve id :=
      resolve_eq_of_unambiguous (fun name => (enumerates.mem_iff name).symm) clear
    exact (inOrder enumerates).symm.trans (inOrder enumeratesToo)

end TaskSwitcher.AppDirectory
