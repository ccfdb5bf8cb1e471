import Mathlib.Logic.Function.Basic
import TaskSwitcher.Event
import TaskSwitcher.Proofs.Registry.Ids

/-!
# What the registry says of each window

A look is what a card copies from its window: the title and whether the window is maximized or fills the
screen. `looks` gives the look of each registered window. A report and the echo of a command, taken as
changes of looks, lead from the looks before them to those after them.
-/

namespace TaskSwitcher

/-- The title and state of a window, as far as cards show them. -/
structure Look where
  title : String
  maximized : Bool
  fullscreen : Bool
deriving DecidableEq

/-- The look with another assumption on whether the window fills the screen. -/
def Look.withFullscreen (look : Look) (fullscreen : Bool) : Look :=
  { look with fullscreen }

/-- The look that a snapshot reports. -/
def Window.look (window : Window) : Look :=
  ⟨window.title, window.maximized, window.fullscreen⟩

/-- The looks after a piece of news: a snapshot of an opened or changed window counts more than whatever
was known, and a closed window has no look. News about the activation speak of nothing else. -/
def looksAfter (looks : WindowId → Option Look) : Event → WindowId → Option Look
  | .window (.added window) => Function.update looks window.id (some window.look)
  | .window (.changed window) => Function.update looks window.id (some window.look)
  | .window (.closed id) => Function.update looks id none
  | _ => looks

/-- One piece of news either settles what is known of a window or leaves it as it was. -/
theorem looksAfter_apply (event : Event) (id : WindowId) :
    (∀ looks : WindowId → Option Look, looksAfter looks event id = looks id) ∨
      ∃ look, ∀ looks : WindowId → Option Look, looksAfter looks event id = look := by
  have updated (other : WindowId) (look : Option Look) :
      (∀ looks : WindowId → Option Look, Function.update looks other look id = looks id) ∨
        ∃ settled, ∀ looks : WindowId → Option Look,
          Function.update looks other look id = settled := by
    by_cases same : id = other
    · subst same
      exact .inr ⟨look, fun looks => Function.update_self ..⟩
    · exact .inl fun looks => Function.update_of_ne same ..
  unfold looksAfter
  split
  · exact updated ..
  · exact updated ..
  · exact updated ..
  · exact .inl fun looks => rfl

/-- A list of news either settles what is known of a window, by the last of them that speaks of it, or
leaves it as it was. -/
theorem foldl_looksAfter_apply (events : List Event) (id : WindowId) :
    (∀ looks : WindowId → Option Look, events.foldl looksAfter looks id = looks id) ∨
      ∃ look, ∀ looks : WindowId → Option Look, events.foldl looksAfter looks id = look := by
  induction events with
  | nil => exact .inl fun looks => rfl
  | cons event rest inductionHypothesis =>
      rcases inductionHypothesis with silent | ⟨look, settled⟩
      · -- The rest is silent about the window, so the first event decides.
        rcases looksAfter_apply event id with alsoSilent | ⟨look, settled⟩
        · left
          intro looks
          rw [List.foldl_cons, silent, alsoSilent]
        · right
          refine ⟨look, fun looks => ?_⟩
          rw [List.foldl_cons, silent, settled]
      · right
        exact ⟨look, fun looks => settled (looksAfter looks event)⟩

/-- Where the news lead to the look that is known already, it makes no difference what else was known. -/
theorem foldl_looksAfter_eq {events : List Event} {expected known final : WindowId → Option Look}
    (leads : events.foldl looksAfter expected = final)
    (agree : ∀ id, expected id = final id → known id = final id) :
    events.foldl looksAfter known = final := by
  funext id
  rcases foldl_looksAfter_apply events id with silent | ⟨look, settled⟩
  · rw [silent]
    apply agree
    rw [← leads, silent]
  · rw [settled, ← leads, settled]

/-- Reports of different windows that were opened settle the looks of these windows. -/
theorem foldl_looksAfter_added {windows : List Window} (distinct : (windows.map (·.id)).Nodup)
    (known : WindowId → Option Look) (id : WindowId) :
    windows.foldl (fun known window => looksAfter known (.window (.added window))) known id =
      ((windows.find? fun window => window.id = id).map Window.look).or (known id) := by
  induction windows generalizing known with
  | nil => rfl
  | cons first rest inductionHypothesis =>
      rw [List.map_cons, List.nodup_cons] at distinct
      rw [List.foldl_cons, inductionHypothesis distinct.2]
      by_cases same : first.id = id
      · subst same
        have absent : rest.find? (fun window => decide (window.id = first.id)) = none := by
          rw [List.find?_eq_none]
          intro window member
          have apart : window.id ≠ first.id := fun named =>
            distinct.1 (List.mem_map.2 ⟨window, member, named⟩)
          simpa using apart
        rw [absent, List.find?_cons_of_pos (by simp), looksAfter, Function.update_self,
          Option.map_none, Option.none_or, Option.map_some, Option.some_or]
      · rw [List.find?_cons_of_neg (by simpa using same), looksAfter,
          Function.update_of_ne (Ne.symm same)]

namespace Registry

/-- The look of each registered window. -/
def looks (registry : Registry) (id : WindowId) : Option Look :=
  (registry.get? id).map Window.look

variable (registry : Registry) (window : Window) (id : WindowId)

/-! ### Snapshots in place -/

/-- A window that was put in is found as it was put in; the others are found as before, less the
activation that an activated window takes from them. -/
theorem get?_put :
    (registry.put window).get? id =
      if id = window.id then some window
      else (registry.get? id).map fun other =>
        if window.activated then { other with activated := false } else other := by
  -- The list in which the window is looked for is the old one, less the activations that it takes.
  have others :
      (if window.activated then
        registry.windows.map fun other => { other with activated := false }
      else registry.windows).find? (fun other => other.id = id) =
        (registry.get? id).map fun other =>
          if window.activated then { other with activated := false } else other := by
    rw [get?]
    split
    · rw [List.find?_map]
      rfl
    · rw [Option.map_id']
  by_cases known : registry.has window.id = true
  · have same : (fun other : Window => decide (other.id = id)) ∘
        (fun other : Window => if other.id = window.id then window else other) =
        fun other => decide (other.id = id) := by
      funext other
      by_cases found : other.id = window.id <;> simp [found]
    rw [get?, put, if_pos known, List.find?_map, same, others]
    by_cases asked : id = window.id
    · subst asked
      obtain ⟨record, search⟩ := registry.exists_get?_of_has _ known
      have named := registry.id_of_get?_eq_some search
      simp [search, apply_ite Window.id, named]
    · rw [if_neg asked, Option.map_map]
      refine Option.map_congr fun other search => ?_
      have named := registry.id_of_get?_eq_some search
      by_cases taken : window.activated <;> simp [taken, named, asked]
  · have absent : registry.get? window.id = none := by
      simpa [has, get?] using known
    rw [get?, put, if_neg known, List.find?_append, others]
    by_cases asked : id = window.id
    · subst asked
      simp [absent]
    · simp [asked, Ne.symm asked]

/-- A window that is gone is not found any more, and all others are found as before. -/
theorem get?_remove (other : WindowId) :
    (registry.remove id).get? other = if other = id then none else registry.get? other := by
  rw [get?, remove, List.find?_filter, get?]
  split
  · next same => simp [same]
  · next apart =>
      congr 1
      funext window
      by_cases named : window.id = other <;> simp [named, apart]

/-! ### Reports -/

@[simp] theorem looks_put :
    (registry.put window).looks = Function.update registry.looks window.id (some window.look) := by
  funext id
  rw [looks, get?_put]
  by_cases asked : id = window.id
  · subst asked
    simp
  · rw [if_neg asked, Function.update_of_ne asked, looks, Option.map_map]
    refine Option.map_congr fun other _ => ?_
    by_cases taken : window.activated <;> simp [taken, Window.look]

@[simp] theorem looks_remove :
    (registry.remove id).looks = Function.update registry.looks id none := by
  funext other
  rw [looks, get?_remove]
  by_cases asked : other = id
  · subst asked
    simp
  · rw [if_neg asked, Function.update_of_ne asked, looks]

/-- A report leads from the looks before it to those after it, provided that news about the activation
repeat the look that the registry has. -/
theorem looks_learn {report : WindowEvent}
    (repeats : ∀ window, report = .activatedChanged window →
      registry.looks window.id = some window.look) :
    (registry.learn report).looks = looksAfter registry.looks (.window report) := by
  cases report with
  | added window => exact registry.looks_put window
  | changed window => exact registry.looks_put window
  | closed id => exact registry.looks_remove id
  | activatedChanged window =>
      have known := repeats window rfl
      rw [learn, looks_put, ← known, Function.update_eq_self]
      rfl

/-! ### Commands -/

/-- Activating an open window sets the activation of each window; one that is not open changes nothing. -/
theorem get?_activate (other : WindowId) :
    (registry.perform (.activate id)).1.get? other =
      if registry.has id then (registry.get? other).map (activatedAt id)
      else registry.get? other := by
  by_cases known : registry.has id = true
  · have changed : effect registry.windows (.activate id) = registry.windows.map (activatedAt id) :=
      if_pos known
    rw [if_pos known, get?, perform, changed, List.find?_map]
    rfl
  · have unchanged : effect registry.windows (.activate id) = registry.windows := if_neg known
    rw [if_neg known, get?, perform, unchanged]
    rfl

/-- Filling the screen changes the record of the window alone. -/
theorem get?_fullscreen (value : Bool) (other : WindowId) :
    (registry.perform (.fullscreen id value)).1.get? other =
      (registry.get? other).map fun window =>
        if other = id then { window with fullscreen := value } else window := by
  have same : (fun window : Window => decide (window.id = other)) ∘
      (fun window : Window =>
        if window.id = id then { window with fullscreen := value } else window) =
      fun window => decide (window.id = other) := by
    funext window
    by_cases named : window.id = id <;> simp [named]
  simp only [get?, perform, effect]
  rw [List.find?_map, same]
  refine Option.map_congr fun window search => ?_
  have named := registry.id_of_get?_eq_some search
  rw [named]

/-- What a command does to the looks: the activation does not show, a closed window loses its look. -/
theorem looks_perform (command : WindowCommand) :
    (registry.perform command).1.looks =
      match command with
      | .activate _ => registry.looks
      | .close id => Function.update registry.looks id none
      | .fullscreen id value =>
          Function.update registry.looks id ((registry.looks id).map (·.withFullscreen value)) := by
  funext other
  cases command with
  | activate id =>
      rw [looks, get?_activate]
      split
      · rw [Option.map_map]
        rfl
      · rfl
  | close id => exact congrFun (registry.looks_remove id) other
  | fullscreen id value =>
      rw [looks, get?_fullscreen, Option.map_map]
      by_cases asked : other = id
      · subst asked
        simp only [Function.update_self, if_true, looks, Option.map_map]
        rfl
      · simp only [Function.update_of_ne asked, asked, if_false, looks]
        rfl

/-- News about the activation alone leave all looks as they are. -/
theorem foldl_activatedChanged (windows : List Window) (looks : WindowId → Option Look) :
    (windows.map fun window => Event.window (.activatedChanged window)).foldl looksAfter looks =
      looks := by
  induction windows with
  | nil => rfl
  | cons first rest inductionHypothesis => exact inductionHypothesis

variable {registry} (distinct : registry.ids.Nodup)

include distinct

/-- At most one record is that of a given window. -/
theorem filter_id_eq :
    (registry.windows.filter fun window => window.id = id) = (registry.get? id).toList := by
  rw [ids] at distinct
  rw [get?]
  generalize registry.windows = windows at distinct
  induction windows with
  | nil => rfl
  | cons first rest inductionHypothesis =>
      rw [List.map_cons, List.nodup_cons] at distinct
      by_cases same : first.id = id
      · have none : rest.filter (fun window => decide (window.id = id)) = [] := by
          refine List.filter_eq_nil_iff.2 fun window member => ?_
          have apart : window.id ≠ id := fun named =>
            distinct.1 (List.mem_map.2 ⟨window, member, named.trans same.symm⟩)
          simpa using apart
        rw [List.filter_cons_of_pos (by simpa using same), none,
          List.find?_cons_of_pos (by simpa using same), Option.toList_some]
      · rw [List.filter_cons_of_neg (by simpa using same),
          List.find?_cons_of_neg (by simpa using same)]
        exact inductionHypothesis distinct.2

/-- At most one record is that of a given window in another full-screen state. -/
theorem filter_fullscreen_eq (value : Bool) :
    (registry.windows.filter fun window => window.id = id && window.fullscreen ≠ value) =
      (registry.get? id).toList.filter fun window => window.fullscreen ≠ value := by
  rw [← filter_id_eq id distinct, List.filter_filter]
  exact List.filter_congr fun window _ => Bool.and_comm ..

/-- Where no window is listed twice, a listed window is found under its number. -/
theorem get?_of_mem {window : Window} (member : window ∈ registry.windows) :
    registry.get? window.id = some window := by
  have chosen : window ∈ registry.windows.filter fun other => other.id = window.id :=
    List.mem_filter.2 ⟨member, by simp⟩
  rwa [filter_id_eq window.id distinct, Option.mem_toList] at chosen

/-- The echo of a command leads from the looks before it to those after it. -/
theorem foldl_echo (command : WindowCommand) :
    ((echo registry.windows command).map Event.window).foldl looksAfter registry.looks =
      (registry.perform command).1.looks := by
  rw [looks_perform]
  cases command with
  | activate id =>
      simp only [echo]
      split
      · rw [List.map_map]
        have folded := foldl_activatedChanged
          ((registry.windows.filter fun window =>
            window.activated ≠ decide (window.id = id)).map (activatedAt id)) registry.looks
        rw [List.map_map] at folded
        exact folded
      · rfl
  | close id =>
      simp only [echo]
      split
      · rfl
      · next unknown =>
          -- There is no echo, and there was no look to lose.
          have absent : registry.looks id = none := by
            simpa [looks, get?] using unknown
          rw [← absent, Function.update_eq_self]
          rfl
  | fullscreen id value =>
      simp only [echo, filter_fullscreen_eq id distinct value]
      cases search : registry.get? id with
      | none =>
          have absent : registry.looks id = none := by rw [looks, search, Option.map_none]
          rw [absent, Option.map_none, ← absent, Function.update_eq_self]
          rfl
      | some window =>
          have named := registry.id_of_get?_eq_some search
          have known : registry.looks id = some window.look := by
            rw [looks, search, Option.map_some]
          by_cases full : window.fullscreen = value
          -- The window fills the screen already, or does not, so nothing is echoed.
          · have same : window.look.withFullscreen value = window.look := by
              rw [← full]
              rfl
            rw [known, Option.map_some, same, ← known, Function.update_eq_self]
            simp [full]
          · rw [known]
            simp [full, looksAfter, named, Window.look, Look.withFullscreen]

end Registry

end TaskSwitcher
