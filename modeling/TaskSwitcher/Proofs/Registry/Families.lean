import TaskSwitcher.Proofs.Registry.Order

/-!
# Families of windows

A window without a parent is the head of a family, and the windows that name it as their parent are its
children. A line-up of windows puts every child behind its head. How a line-up grows with one more window is
told in terms of kin, which is all that the place of a card depends on.
-/

namespace TaskSwitcher

/-- Windows that come in families. -/
@[mk_iff] structure Families (windows : List Window) : Prop where
  distinct : (windows.map (·.id)).Nodup
  /-- A parent came earlier and has no parent itself. -/
  parents : ∀ index (inside : index < windows.length), ∀ id ∈ windows[index].parent,
    ∃ parent ∈ windows.take index, parent.id = id ∧ parent.parent = none
  /-- Windows without a parent are of different applications. -/
  heads : ((windows.filter (·.parent = none)).map (·.appId)).Nodup
  /-- A child is of the application of its parent, or of one that no window without a parent is of. -/
  children : ∀ child ∈ windows, ∀ parent ∈ windows, child.parent = some parent.id →
    child.appId = parent.appId ∨
      ∀ head ∈ windows, head.parent = none → head.appId ≠ child.appId

/-- The windows without a parent in the order in which they came, and behind each of them its children in the
order in which they came. -/
def lineUp (windows : List Window) : List Window :=
  (windows.filter (·.parent = none)).flatMap fun head =>
    head :: windows.filter (·.parent = some head.id)

/-- What a card shows, and which groups it belongs to. -/
structure Kin where
  window : Option WindowId
  appId : Option String
  parentAppId : Option String

/-- Whether it belongs to the group of an application. -/
def Kin.inGroup (appId : String) (kin : Kin) : Bool :=
  kin.appId = some appId || kin.parentAppId = some appId

/-- The kin of a window whose parent is of the application `parentAppId`. -/
def Window.kin (window : Window) (parentAppId : Option String) : Kin :=
  ⟨some window.id, some window.appId, parentAppId⟩

/-- A window without a parent, and its children behind it. -/
def familyOf (windows : List Window) (head : Window) : List Kin :=
  head.kin none :: (windows.filter (·.parent = some head.id)).map (·.kin (some head.appId))

/-- The line-up of the windows as kin. -/
def kinship (windows : List Window) : List Kin :=
  (windows.filter (·.parent = none)).flatMap (familyOf windows)

/-- Kin stand where their windows stand in the line-up. -/
theorem map_window_kinship (windows : List Window) :
    (kinship windows).map (·.window) = (lineUp windows).map (some ·.id) := by
  simp only [kinship, lineUp, List.map_flatMap, familyOf, List.map_cons, List.map_map]
  rfl

/-- All kin are kin of the windows. -/
theorem exists_of_mem_kinship {windows : List Window} {kin : Kin} (member : kin ∈ kinship windows) :
    ∃ window ∈ windows, kin.window = some window.id := by
  obtain ⟨head, isHead, within⟩ := List.mem_flatMap.1 member
  rcases List.mem_cons.1 within with rfl | isChild
  · exact ⟨head, List.mem_of_mem_filter isHead, rfl⟩
  · obtain ⟨child, among, rfl⟩ := List.mem_map.1 isChild
    exact ⟨child, List.mem_of_mem_filter among, rfl⟩

/-- The whole family belongs to the group of its head. -/
theorem inGroup_of_mem_familyOf {windows : List Window} {head : Window} {kin : Kin}
    (member : kin ∈ familyOf windows head) : kin.inGroup head.appId = true := by
  rcases List.mem_cons.1 member with rfl | isChild
  · simp [Window.kin, Kin.inGroup]
  · obtain ⟨child, -, rfl⟩ := List.mem_map.1 isChild
    simp [Window.kin, Kin.inGroup]

section

variable {windows : List Window} {window head : Window}

/-- A window that is no child of `head` does not belong to its family. -/
theorem familyOf_append_of_ne (other : window.parent ≠ some head.id) :
    familyOf (windows ++ [window]) head = familyOf windows head := by
  rw [familyOf, List.filter_append, List.filter_cons_of_neg (by simpa using other),
    List.filter_nil, List.append_nil, familyOf]

/-- A further child comes last in its family. -/
theorem familyOf_append_child (named : window.parent = some head.id) :
    familyOf (windows ++ [window]) head =
      familyOf windows head ++ [window.kin (some head.appId)] := by
  rw [familyOf, List.filter_append, List.filter_cons_of_pos (by simpa using named),
    List.filter_nil, List.map_append, familyOf, List.cons_append, List.map_singleton]

end

namespace Families

variable {windows : List Window} {window : Window}

/-- Every parent is among the windows. -/
theorem exists_parent_of_mem (families : Families windows) {child : Window}
    (member : child ∈ windows) {id : WindowId} (named : child.parent = some id) :
    ∃ parent ∈ windows, parent.id = id ∧ parent.parent = none := by
  obtain ⟨index, inside, rfl⟩ := List.getElem_of_mem member
  obtain ⟨parent, earlier, isParent⟩ := families.parents index inside id named
  exact ⟨parent, List.mem_of_mem_take earlier, isParent⟩

/-- The other windows without a parent are of other applications than a given one. -/
theorem exists_split_heads (families : Families windows) {parent : Window}
    (isParent : parent ∈ windows) (isHead : parent.parent = none) :
    ∃ earlier later, windows.filter (·.parent = none) = earlier ++ parent :: later ∧
      ∀ head ∈ earlier ++ later, head ∈ windows ∧ head.appId ≠ parent.appId := by
  have among : parent ∈ windows.filter (·.parent = none) :=
    List.mem_filter.2 ⟨isParent, by simpa using isHead⟩
  obtain ⟨earlier, later, split⟩ := List.append_of_mem among
  have apps := families.heads
  rw [split, List.map_append, List.map_cons, List.nodup_middle, List.nodup_cons,
    ← List.map_append] at apps
  refine ⟨earlier, later, split, fun head member => ⟨?_, fun same => apps.1 ?_⟩⟩
  · have within : head ∈ windows.filter (·.parent = none) := by
      rw [split]
      exact ((List.sublist_cons_self ..).append_left earlier).subset member
    exact List.mem_of_mem_filter within
  · exact same ▸ List.mem_map_of_mem member

/-- Nobody in another family belongs to the group of a window without a parent. -/
theorem inGroup_of_mem_other_family (families : Families windows) {parent head : Window} {kin : Kin}
    (isParent : parent ∈ windows) (isHead : parent.parent = none) (present : head ∈ windows)
    (other : head.appId ≠ parent.appId) (member : kin ∈ familyOf windows head) :
    kin.inGroup parent.appId = false := by
  rcases List.mem_cons.1 member with rfl | isChild
  · simpa [Window.kin, Kin.inGroup] using other
  · obtain ⟨child, among, rfl⟩ := List.mem_map.1 isChild
    obtain ⟨inside, named⟩ := List.mem_filter.1 among
    have apart : child.appId ≠ parent.appId := by
      rcases families.children child inside head present (of_decide_eq_true named) with
        same | unused
      · rwa [same]
      · exact (unused parent isParent isHead).symm
    simpa [Window.kin, Kin.inGroup] using ⟨apart, other⟩

/-! ### One more window -/

section

variable (families : Families (windows ++ [window]))

include families

/-- The earlier windows come in families, too. -/
theorem of_append : Families windows where
  distinct := by
    have distinct := families.distinct
    rw [List.map_append] at distinct
    exact distinct.of_append_left
  parents index inside id named := by
    have longer : index < (windows ++ [window]).length := by
      rw [List.length_append]
      omega
    have earlier := families.parents index longer id
    rw [List.getElem_append_left inside, List.take_append_of_le_length inside.le] at earlier
    exact earlier named
  heads := by
    have heads := families.heads
    rw [List.filter_append, List.map_append] at heads
    exact heads.of_append_left
  children child isChild parent isParent named := by
    have apps := families.children child (List.mem_append_left _ isChild) parent
      (List.mem_append_left _ isParent) named
    refine apps.imp_right fun unused head isHead => ?_
    exact unused head (List.mem_append_left _ isHead)

omit families in
/-- Windows that come in families have done so from the start. -/
theorem of_isPrefix {first : List Window} (families : Families windows)
    (isPrefix : first <+: windows) : Families first := by
  obtain ⟨rest, rfl⟩ := isPrefix
  induction rest using List.reverseRecOn with
  | nil => rwa [List.append_nil] at families
  | append_singleton earlier last inductionHypothesis =>
      rw [← List.append_assoc] at families
      exact inductionHypothesis families.of_append

/-- No earlier window has the number of the last one. -/
theorem id_ne_of_mem {earlier : Window} (member : earlier ∈ windows) : earlier.id ≠ window.id := by
  have distinct := families.distinct
  rw [List.map_append, List.nodup_append] at distinct
  exact distinct.2.2 _ (List.mem_map_of_mem member) _ (by simp)

/-- The parent of the last window came before it and has no parent itself. -/
theorem exists_parent {id : WindowId} (named : window.parent = some id) :
    ∃ parent ∈ windows, parent.id = id ∧ parent.parent = none := by
  have inside : windows.length < (windows ++ [window]).length := by simp
  have earlier := families.parents windows.length inside id
  rw [List.getElem_concat_length rfl, List.take_left] at earlier
  exact earlier named

/-- A window without a parent comes last and begins a family. -/
theorem kinship_append_head (isHead : window.parent = none) :
    kinship (windows ++ [window]) = kinship windows ++ [window.kin none] := by
  -- A parent comes before its children, so nobody can have named the new window.
  have childless : windows.filter (·.parent = some window.id) = [] := by
    rw [List.filter_eq_nil_iff]
    intro child member named
    obtain ⟨parent, isParent, same, -⟩ :=
      families.of_append.exists_parent_of_mem member (of_decide_eq_true named)
    exact families.id_ne_of_mem isParent same
  have nobody (head : Window) : window.parent ≠ some head.id := by
    rw [isHead]
    exact fun named => nomatch named
  have alone : familyOf (windows ++ [window]) window = [window.kin none] := by
    rw [familyOf_append_of_ne (nobody window), familyOf, childless, List.map_nil]
  have earlier : familyOf (windows ++ [window]) = familyOf windows :=
    funext fun head => familyOf_append_of_ne (nobody head)
  rw [kinship, List.filter_append, List.filter_cons_of_pos (by simpa using isHead), List.filter_nil,
    List.flatMap_append, List.flatMap_singleton, alone, earlier, kinship]

/-- A child comes last in the family of its parent, and nobody behind this family belongs to the group of the
parent. -/
theorem kinship_append_child {id : WindowId} (named : window.parent = some id) :
    ∃ parent ∈ windows, parent.id = id ∧ ∃ front last back,
      kinship windows = front ++ last :: back ∧ last.inGroup parent.appId = true ∧
      (∀ kin ∈ back, kin.inGroup parent.appId = false) ∧
      kinship (windows ++ [window]) =
        (front ++ [last]) ++ window.kin (some parent.appId) :: back := by
  obtain ⟨parent, isParent, rfl, isHead⟩ := families.exists_parent named
  obtain ⟨earlier, later, split, others⟩ :=
    families.of_append.exists_split_heads isParent isHead
  -- Only the family of the parent grows.
  have unchanged (part : List Window) (within : part ⊆ earlier ++ later) :
      part.flatMap (familyOf (windows ++ [window])) = part.flatMap (familyOf windows) := by
    refine List.flatMap_congr fun head member => familyOf_append_of_ne ?_
    obtain ⟨present, other⟩ := others head (within member)
    rw [named]
    intro same
    have equal := List.inj_on_of_nodup_map families.of_append.distinct isParent present
      (Option.some.inj same)
    exact other (equal ▸ rfl)
  have grown : kinship (windows ++ [window]) = earlier.flatMap (familyOf windows) ++
      (familyOf windows parent ++ [window.kin (some parent.appId)]) ++
        later.flatMap (familyOf windows) := by
    have noHead : window.parent ≠ none := by
      rw [named]
      exact Option.some_ne_none _
    rw [kinship, List.filter_append, List.filter_cons_of_neg (by simpa using noHead),
      List.filter_nil, List.append_nil, split, List.flatMap_append, List.flatMap_cons,
      unchanged earlier (List.subset_append_left ..), unchanged later (List.subset_append_right ..),
      familyOf_append_child named, ← List.append_assoc]
  have nonempty : familyOf windows parent ≠ [] := List.cons_ne_nil _ _
  have family := List.dropLast_append_getLast nonempty
  refine ⟨parent, isParent, rfl, earlier.flatMap (familyOf windows) ++
    (familyOf windows parent).dropLast, (familyOf windows parent).getLast nonempty,
    later.flatMap (familyOf windows), ?_, ?_, ?_, ?_⟩
  · rw [kinship, split, List.flatMap_append, List.flatMap_cons, List.append_assoc,
      List.append_cons _ _ (List.flatMap ..), family]
  · exact inGroup_of_mem_familyOf (List.getLast_mem nonempty)
  · intro kin member
    obtain ⟨head, isLater, within⟩ := List.mem_flatMap.1 member
    obtain ⟨present, other⟩ := others head (List.mem_append_right _ isLater)
    exact families.of_append.inGroup_of_mem_other_family isParent isHead present other within
  · rw [grown, List.append_assoc _ (List.dropLast _), family]
    simp only [List.append_assoc, List.singleton_append]

end

end Families

/-! ### Families in the registry -/

/-- The window without its activation. -/
def Window.inactive (window : Window) : Window :=
  { window with activated := false }

@[simp] theorem Window.id_inactive (window : Window) : window.inactive.id = window.id := rfl

@[simp] theorem Window.appId_inactive (window : Window) : window.inactive.appId = window.appId := rfl

@[simp] theorem Window.parent_inactive (window : Window) : window.inactive.parent = window.parent := rfl

/-- What a snapshot takes from the others does not count. -/
@[simp] theorem Window.inactive_besides (snapshot other : Window) :
    (snapshot.besides other).inactive = other.inactive := by
  unfold besides
  split <;> rfl

/-- Whether windows come in families has nothing to do with which of them is active. -/
theorem families_map_inactive_iff {windows : List Window} :
    Families (windows.map Window.inactive) ↔ Families windows := by
  simp only [families_iff, List.map_map, List.filter_map, List.length_map, List.getElem_map,
    ← List.map_take, List.mem_map, exists_exists_and_eq_and, forall_exists_index, and_imp,
    forall_apply_eq_imp_iff₂, Function.comp_def, Window.id_inactive, Window.appId_inactive,
    Window.parent_inactive]
  rfl

/-- Which windows are active plays no part in the line-up. -/
theorem lineUp_map_inactive (windows : List Window) :
    lineUp (windows.map Window.inactive) = (lineUp windows).map Window.inactive := by
  simp only [lineUp, List.filter_map, List.flatMap_map, List.map_flatMap, List.map_cons,
    Function.comp_def, Window.id_inactive, Window.parent_inactive]
  rfl

/-- A line-up shows the same windows whichever of them is active. -/
theorem map_id_lineUp_congr {first second : List Window}
    (same : first.map Window.inactive = second.map Window.inactive) :
    (lineUp first).map (some ·.id) = (lineUp second).map (some ·.id) := by
  have inactive (windows : List Window) :
      (lineUp windows).map (some ·.id) =
        (lineUp (windows.map Window.inactive)).map (some ·.id) := by
    rw [lineUp_map_inactive, List.map_map]
    rfl
  rw [inactive first, same, ← inactive second]

namespace Registry

variable {registry : Registry} {windows : List Window} {window : Window}

/-- But for the activation, a new window is put behind all others and nothing else happens. -/
theorem map_inactive_put_of_not_mem (fresh : window.id ∉ registry.ids) :
    (registry.put window).windows.map Window.inactive =
      (registry.windows ++ [window]).map Window.inactive := by
  rw [windows_put_of_not_mem fresh, List.map_append, List.map_append, List.map_map]
  refine congrArg (· ++ _) (List.map_congr_left fun other _ => ?_)
  exact window.inactive_besides other

/-- New windows are put behind all others in the order in which they come. -/
theorem windows_foldl_put (distinct : (registry.ids ++ windows.map (·.id)).Nodup) :
    (windows.foldl put registry).windows.map Window.inactive =
      (registry.windows ++ windows).map Window.inactive := by
  induction windows generalizing registry with
  | nil => rw [List.foldl_nil, List.append_nil]
  | cons first rest inductionHypothesis =>
      rw [List.map_cons, List.append_cons] at distinct
      have fresh : first.id ∉ registry.ids := by
        have earlier := distinct.of_append_left
        rw [List.nodup_append_comm] at earlier
        exact (List.nodup_cons.1 earlier).1
      have ids : (registry.put first).ids = registry.ids ++ [first.id] := by
        rw [ids_put, if_neg fresh]
      rw [← ids] at distinct
      rw [List.foldl_cons, inductionHypothesis distinct, List.map_append, map_inactive_put_of_not_mem fresh,
        ← List.map_append, ← List.append_cons]

/-- The registry knows of which application each of the windows is. -/
def KnowsApps (registry : Registry) (windows : List Window) : Prop :=
  ∀ window ∈ windows, (registry.get? window.id).map (·.appId) = some window.appId

/-- The registry knows of which application its own windows are. -/
theorem knowsApps_windows (distinct : registry.ids.Nodup) : registry.KnowsApps registry.windows := by
  intro window member
  rw [registry.get?_of_mem distinct member, Option.map_some]

/-- A snapshot of a further window tells of which application that one is, and none of the others changes. -/
theorem KnowsApps.put (knows : registry.KnowsApps windows)
    (fresh : ∀ earlier ∈ windows, earlier.id ≠ window.id) :
    (registry.put window).KnowsApps (windows ++ [window]) := by
  intro known member
  rw [get?_put]
  rcases List.mem_append.1 member with earlier | last
  · rw [if_neg (fresh known earlier), Option.map_map, ← knows known earlier]
    refine Option.map_congr fun other _ => ?_
    split <;> rfl
  · obtain rfl := List.mem_singleton.1 last
    rw [if_pos rfl, Option.map_some]

end Registry

end TaskSwitcher
