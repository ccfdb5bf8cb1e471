import Mathlib.Data.List.Perm.Basic
import TaskSwitcher.Form.Basic

/-!
# Edits that readers overlook

The same thing can be written in many ways: the fields of a record come in any order, and fields that the
reader does not know may be added. An edit is one such change, at any depth of a written form. A shape says
which fields are known where, and so which edits there are; a reader overlooks them if it reads the edited
form as it read the form before.
-/

namespace TaskSwitcher.Form

/-- What is known of the parts of a written form. -/
inductive Shape where
  /-- Nothing: a text, a number or a truth value. -/
  | leaf
  | list (item : Shape)
  /-- A record with these fields, which may also be written as the list of their values. -/
  | record (parts : List (String × Shape))
  /-- A record with a kind, which tells what other fields there are. -/
  | tagged (parts : String → List (String × Shape))
  /-- A name alone, or a record with the name as its only field. -/
  | choice (payload : String → Shape)

/-- One change of a written form that means nothing. -/
inductive Edit : Shape → Value → Value → Prop where
  /-- The fields of a record come in another order. A name occurs once. -/
  | reorder {shape : Shape} {given edited : Fields} (distinct : (given.map (·.1)).Nodup)
      (perm : given.Perm edited) : Edit shape (.record given) (.record edited)
  /-- A field is added that is not known. -/
  | unknown {parts : List (String × Shape)} (before after : Fields) {name : String} (value : Value)
      (unknown : parts.lookup name = none) :
      Edit (.record parts) (.record (before ++ after)) (.record (before ++ (name, value) :: after))
  /-- A field that is not known gets another value. -/
  | ignored {parts : List (String × Shape)} (before after : Fields) {name : String}
      (value changed : Value) (unknown : parts.lookup name = none) :
      Edit (.record parts) (.record (before ++ (name, value) :: after))
        (.record (before ++ (name, changed) :: after))
  /-- The value of a known field is edited. -/
  | part {parts : List (String × Shape)} (before after : Fields) {name : String} {shape : Shape}
      {value changed : Value} (known : parts.lookup name = some shape)
      (edit : Edit shape value changed) :
      Edit (.record parts) (.record (before ++ (name, value) :: after))
        (.record (before ++ (name, changed) :: after))
  /-- The value of a known field is edited where the record is written as a list. -/
  | place {parts : List (String × Shape)} (before after : List Value) {name : String} {shape : Shape}
      {value changed : Value} (known : parts[before.length]? = some (name, shape))
      (edit : Edit shape value changed) :
      Edit (.record parts) (.list (before ++ value :: after)) (.list (before ++ changed :: after))
  | item {shape : Shape} (before after : List Value) {value changed : Value}
      (edit : Edit shape value changed) :
      Edit (.list shape) (.list (before ++ value :: after)) (.list (before ++ changed :: after))
  /-- A record with a kind is edited as one in which the kind is known as well. -/
  | kind {parts : String → List (String × Shape)} {kind : String} {given edited : Fields}
      (isKind : given.lookup "kind" = some (.text kind))
      (edit : Edit (.record (("kind", .leaf) :: parts kind)) (.record given) (.record edited)) :
      Edit (.tagged parts) (.record given) (.record edited)
  /-- Where it is written as a list, the kind comes first. -/
  | kindFirst {parts : String → List (String × Shape)} {kind : String} {values edited : List Value}
      (edit : Edit (.record (parts kind)) (.list values) (.list edited)) :
      Edit (.tagged parts) (.list (.text kind :: values)) (.list (.text kind :: edited))
  | payload {payload : String → Shape} {name : String} {value changed : Value}
      (edit : Edit (payload name) value changed) :
      Edit (.choice payload) (.record [(name, value)]) (.record [(name, changed)])

/-- The reader reads the same before and after an edit. -/
def Overlooks {α : Type} (shape : Shape) (read : Reader α) : Prop :=
  ∀ value edited, Edit shape value edited → read edited = read value

/-! ### Known fields of a record -/

/-- A field of another name in front of the others does not hide them. -/
theorem lookup_cons_of_ne {β : Type} {name other : String} (apart : name ≠ other) (value : β)
    (rest : List (String × β)) : ((other, value) :: rest).lookup name = rest.lookup name := by
  rw [List.lookup_cons, beq_false_of_ne apart]

/-- Where no name occurs twice, a field is found exactly when it is there. -/
theorem lookup_eq_some_iff_mem {fields : Fields} (distinct : (fields.map (·.1)).Nodup)
    (name : String) (value : Value) : fields.lookup name = some value ↔ (name, value) ∈ fields := by
  induction fields with
  | nil => simp
  | cons first rest inductionHypothesis =>
      obtain ⟨firstName, firstValue⟩ := first
      rw [List.map_cons, List.nodup_cons] at distinct
      by_cases same : name = firstName
      · subst same
        have absent : (name, value) ∉ rest := fun member =>
          distinct.1 (List.mem_map.2 ⟨_, member, rfl⟩)
        simp [absent, eq_comm]
      · rw [lookup_cons_of_ne same, inductionHypothesis distinct.2, List.mem_cons, Prod.mk.injEq]
        simp only [same, false_and, false_or]

/-- Where no name occurs twice, fields are found in any order. -/
theorem lookup_eq_of_perm {given edited : Fields} (distinct : (given.map (·.1)).Nodup)
    (perm : given.Perm edited) (name : String) : edited.lookup name = given.lookup name := by
  have alsoDistinct : (edited.map (·.1)).Nodup := (perm.map _).nodup_iff.1 distinct
  refine Option.ext fun value => ?_
  rw [lookup_eq_some_iff_mem alsoDistinct, lookup_eq_some_iff_mem distinct, perm.mem_iff]

/-- Dropping the fields of one name hides no field of another name. -/
theorem lookup_filter_of_ne (fields : Fields) {name other : String} (apart : name ≠ other) :
    (fields.filter (·.1 ≠ other)).lookup name = fields.lookup name := by
  induction fields with
  | nil => rfl
  | cons first rest inductionHypothesis =>
      obtain ⟨firstName, firstValue⟩ := first
      by_cases dropped : firstName = other
      · rw [List.filter_cons_of_neg (by simpa using dropped), inductionHypothesis,
          lookup_cons_of_ne (dropped ▸ apart)]
      · rw [List.filter_cons_of_pos (by simpa using dropped), List.lookup_cons, inductionHypothesis,
          List.lookup_cons]

/-- Whatever the value of one field is, a field with another name is found as before. -/
theorem lookup_append_cons_of_ne (before after : Fields) {name other : String}
    (apart : name ≠ other) (value : Value) :
    (before ++ (other, value) :: after).lookup name = (before ++ after).lookup name := by
  rw [List.lookup_append, lookup_cons_of_ne apart, List.lookup_append]

/-- Each known field has the same value on both sides, or on one side an edited one. -/
def Agree (parts : List (String × Shape)) (given edited : Fields) : Prop :=
  ∀ name shape, parts.lookup name = some shape →
    edited.lookup name = given.lookup name ∨
      ∃ value changed, given.lookup name = some value ∧ edited.lookup name = some changed ∧
        Edit shape value changed

section

variable {α : Type} {parts : List (String × Shape)} {given edited : Fields}

/-- Where one known field is edited, both sides agree. -/
theorem agree_of_part (before after : Fields) {name : String} {shape : Shape}
    {value changed : Value} (known : parts.lookup name = some shape)
    (edit : Edit shape value changed) :
    Agree parts (before ++ (name, value) :: after) (before ++ (name, changed) :: after) := by
  intro other otherShape otherKnown
  by_cases same : other = name
  · subst same
    rw [known] at otherKnown
    cases otherKnown
    rw [List.lookup_append, List.lookup_append, List.lookup_cons_self, List.lookup_cons_self]
    cases before.lookup other with
    | none => exact .inr ⟨value, changed, rfl, rfl, edit⟩
    | some found => exact .inl rfl
  · exact .inl (by rw [lookup_append_cons_of_ne _ _ same, lookup_append_cons_of_ne _ _ same])

/-- After an edit of a record the known fields agree. -/
theorem agree_of_edit (edit : Edit (.record parts) (.record given) (.record edited)) :
    Agree parts given edited := by
  have apart {name other : String} {shape : Shape} (known : parts.lookup name = some shape)
      (unknown : parts.lookup other = none) : name ≠ other := fun same => by
    rw [same, unknown] at known
    cases known
  cases edit with
  | reorder distinct perm => exact fun name _ _ => .inl (lookup_eq_of_perm distinct perm name)
  | unknown before after value unknown =>
      exact fun name _ known => .inl (lookup_append_cons_of_ne _ _ (apart known unknown) _)
  | ignored before after value changed unknown =>
      intro name shape known
      left
      rw [lookup_append_cons_of_ne _ _ (apart known unknown),
        lookup_append_cons_of_ne _ _ (apart known unknown)]
  | part before after known edit => exact agree_of_part before after known edit

/-- After an edit at one place of a list the fields that the list stands for agree. -/
theorem agree_of_place (distinct : (parts.map (·.1)).Nodup) (before after : List Value)
    {name : String} {shape : Shape} {value changed : Value}
    (known : parts[before.length]? = some (name, shape)) (edit : Edit shape value changed) :
    Agree parts ((parts.map (·.1)).zip (before ++ value :: after))
      ((parts.map (·.1)).zip (before ++ changed :: after)) := by
  obtain ⟨inside, atPlace⟩ := List.getElem?_eq_some_iff.1 known
  obtain ⟨earlier, later, divided, length⟩ : ∃ earlier later,
      parts = earlier ++ (name, shape) :: later ∧ earlier.length = before.length := by
    refine ⟨parts.take before.length, parts.drop (before.length + 1), ?_, ?_⟩
    · rw [← atPlace, List.getElem_cons_drop, List.take_append_drop]
    · exact List.length_take_of_le (Nat.le_of_lt inside)
  have zipped (here : Value) : (parts.map (·.1)).zip (before ++ here :: after) =
      (earlier.map (·.1)).zip before ++ (name, here) :: (later.map (·.1)).zip after := by
    rw [divided, List.map_append, List.zip_append (by simpa using length)]
    rfl
  have absent : earlier.lookup name = none := by
    rw [divided, List.map_append, List.map_cons] at distinct
    rw [List.lookup_eq_none_iff]
    intro entry member
    refine bne_iff_ne.2 fun same => ?_
    have apart := (List.nodup_append.1 distinct).2.2 _ (List.mem_map.2 ⟨entry, member, rfl⟩)
    exact apart name List.mem_cons_self same.symm
  have found : parts.lookup name = some shape := by
    rw [divided, List.lookup_append, absent, List.lookup_cons_self]
    rfl
  rw [zipped, zipped]
  exact agree_of_part _ _ found edit

namespace Agree

/-- What agrees with a kind among the known fields agrees without it. -/
theorem without_kind (unkinded : parts.lookup "kind" = none)
    (agree : Agree (("kind", .leaf) :: parts) given edited) :
    Agree parts (given.filter (·.1 ≠ "kind")) (edited.filter (·.1 ≠ "kind")) := by
  intro name shape known
  have apart : name ≠ "kind" := fun same => by
    rw [same, unkinded] at known
    cases known
  rw [lookup_filter_of_ne _ apart, lookup_filter_of_ne _ apart]
  exact agree name shape ((lookup_cons_of_ne apart _ _).trans known)

variable (agree : Agree parts given edited) (name : String) {shape : Shape} {read : Reader α}
  (known : parts.lookup name = some shape) (overlooks : Overlooks shape read)

include agree known overlooks

/-- Both sides agree on a field that has to be there. -/
theorem required : Form.required edited name read = Form.required given name read := by
  unfold Form.required
  rcases agree name shape known with same | ⟨value, changed, found, foundChanged, edit⟩
  · rw [same]
  · rw [found, foundChanged]
    exact overlooks value changed edit

/-- Both sides agree on a field that may be absent. -/
theorem fieldOr (absent : α) :
    Form.fieldOr edited name absent read = Form.fieldOr given name absent read := by
  unfold Form.fieldOr
  rcases agree name shape known with same | ⟨value, changed, found, foundChanged, edit⟩
  · rw [same]
  · rw [found, foundChanged]
    exact overlooks value changed edit

end Agree

end

/-! ### Readers of records -/

/-- The reader uses nothing of a record but these fields. -/
structure ReadsParts {α : Type} (parts : List (String × Shape)) (read : Reader α) : Prop where
  ofRecord : ∀ given edited, Agree parts given edited →
    read (.record edited) = read (.record given)
  ofList : ∀ before after name shape value changed, parts[before.length]? = some (name, shape) →
    Edit shape value changed → read (.list (before ++ changed :: after)) =
      read (.list (before ++ value :: after))

variable {α β : Type} {shape : Shape} {parts : List (String × Shape)} {read : Reader α}

/-- A reader that takes the fields of a record and goes on with them. -/
theorem ReadsParts.of_fields {surplus : Surplus} {body : Fields → Option α}
    (distinct : (parts.map (·.1)).Nodup)
    (respects : ∀ given edited, Agree parts given edited → body edited = body given) :
    ReadsParts parts fun value => (fields surplus (parts.map (·.1)) value).bind body where
  ofRecord := respects
  ofList before after name shape value changed known edit := by
    have sameLength : (before ++ changed :: after).length = (before ++ value :: after).length := by
      simp
    simp only [fields, sameLength]
    split
    · rfl
    · exact respects _ _ (agree_of_place distinct before after known edit)

/-- A reader that reads nothing. -/
theorem ReadsParts.nothing : ReadsParts parts fun _ => (none : Option α) :=
  ⟨fun _ _ _ => rfl, fun _ _ _ _ _ _ _ _ => rfl⟩

/-- What is made of the known fields depends on nothing else either. -/
theorem ReadsParts.map (reads : ReadsParts parts read) (make : α → β) :
    ReadsParts parts fun value => (read value).map make where
  ofRecord given edited agree := congrArg (Option.map make) (reads.ofRecord given edited agree)
  ofList before after name shape value changed known edit :=
    congrArg (Option.map make) (reads.ofList before after name shape value changed known edit)

namespace Overlooks

/-- A reader of texts, numbers or truth values. -/
theorem leaf (refuses : ∀ given, read (.record given) = none) : Overlooks .leaf read := by
  intro value edited edit
  cases edit with
  | reorder distinct perm => rw [refuses, refuses]

/-- What is made of the thing read overlooks the same edits. -/
theorem map (overlooks : Overlooks shape read) (make : α → β) :
    Overlooks shape fun value => (read value).map make :=
  fun value edited edit => congrArg (Option.map make) (overlooks value edited edit)

/-- Also where nothing may stand in the place of the thing, edits of it are overlooked. -/
theorem nullable (overlooks : Overlooks shape read) : Overlooks shape (readNullable read) := by
  intro value edited edit
  have same := congrArg (Option.map some) (overlooks value edited edit)
  -- Only records and lists are edited, and neither is null.
  cases edit <;> exact same

/-- A list overlooks the edits that its items overlook. -/
theorem list (overlooks : Overlooks shape read) : Overlooks (.list shape) (readList read) := by
  intro value edited edit
  cases edit with
  | reorder distinct perm => rfl
  | item before after edit =>
      rw [readList, readList]
      induction before with
      | nil =>
          rw [List.nil_append, List.nil_append, readItems, readItems, overlooks _ _ edit]
      | cons first rest inductionHypothesis =>
          rw [List.cons_append, List.cons_append, readItems, readItems, inductionHypothesis]

/-- A record read by its known fields overlooks all edits. -/
theorem record (reads : ReadsParts parts read) : Overlooks (.record parts) read := by
  intro value edited edit
  cases edit with
  | reorder distinct perm => exact reads.ofRecord _ _ (agree_of_edit (.reorder distinct perm))
  | unknown before after added unknown =>
      exact reads.ofRecord _ _ (agree_of_edit (.unknown before after added unknown))
  | ignored before after former changed unknown =>
      exact reads.ofRecord _ _ (agree_of_edit (.ignored before after former changed unknown))
  | part before after known edit => exact reads.ofRecord _ _ (agree_of_part before after known edit)
  | place before after known edit => exact reads.ofList _ _ _ _ _ _ known edit

/-- A reader that goes on with the kind and the rest of the record. -/
theorem tagged {parts : String → List (String × Shape)} {next : String × Value → Option α}
    (unkinded : ∀ kind, (parts kind).lookup "kind" = none)
    (reads : ∀ kind, ReadsParts (parts kind) fun rest => next (kind, rest)) :
    Overlooks (.tagged parts) fun value => (Form.tagged value).bind next := by
  have ofRecord {kind : String} {given edited : Fields}
      (isKind : given.lookup "kind" = some (.text kind))
      (agree : Agree (("kind", .leaf) :: parts kind) given edited) :
      (Form.tagged (.record edited)).bind next = (Form.tagged (.record given)).bind next := by
    -- The kind is a plain text, which no edit changes.
    have alsoKind : edited.lookup "kind" = some (.text kind) := by
      rcases agree "kind" .leaf (List.lookup_cons_self) with same | ⟨value, changed, found, -, edit⟩
      · rw [same, isKind]
      · rw [isKind] at found
        cases found
        cases edit
    simp only [Form.tagged, isKind, alsoKind]
    exact (reads kind).ofRecord _ _ (agree.without_kind (unkinded kind))
  intro value edited edit
  cases edit with
  | @reorder _ given edited distinct perm =>
      by_cases isKind : ∃ kind, given.lookup "kind" = some (.text kind)
      · obtain ⟨kind, isKind⟩ := isKind
        exact ofRecord isKind (agree_of_edit (.reorder distinct perm))
      · simp only [Form.tagged, lookup_eq_of_perm distinct perm]
        split
        · next kind found => exact absurd ⟨kind, found⟩ isKind
        · rfl
  | kind isKind edit => exact ofRecord isKind (agree_of_edit edit)
  | kindFirst edit =>
      cases edit with
      | place before after known edit => exact (reads _).ofList _ _ _ _ _ _ known edit

/-- A reader that goes on with the name of a choice and what comes with it. -/
theorem choice {payload : String → Shape} {next : String × Option Value → Option α}
    (reads : ∀ name value changed, Edit (payload name) value changed →
      next (name, some changed) = next (name, some value)) :
    Overlooks (.choice payload) fun value => (Form.choice value).bind next := by
  intro value edited edit
  cases edit with
  | @reorder _ given edited distinct perm =>
      -- A record with one field has one order only, and no other record is a choice.
      match given with
      | [] => rw [List.nil_perm.1 perm]
      | [field] => rw [List.singleton_perm.1 perm]
      | first :: second :: rest =>
          match edited with
          | [] => cases perm.length_eq
          | [field] => cases perm.length_eq
          | _ :: _ :: _ => rfl
  | payload edit => exact reads _ _ _ edit

end Overlooks

/-! ### Choices that come with nothing -/

/-- No edit makes an empty payload of one that is not, or the other way around. -/
theorem isBare_of_edit {value changed : Value} (edit : Edit shape value changed) :
    isBare (some changed) = isBare (some value) := by
  cases edit <;> rfl

end TaskSwitcher.Form
