import TaskSwitcher.Value

/-!
# Reserved names

Two names are reserved in the records that lie within a document. A field of the one name takes the place
of the whole record; no record may have a field of the other one. In the outermost record both are names
like all others.
-/

namespace TaskSwitcher.Toml

/-- The name of the field that takes the place of its record. -/
def substituteName : String := "___figment_value_value"

/-- The name that no field may have. -/
def refusedName : String := "___figment_value_id"

mutual

/-- The value that is meant by a value as it is written. There is none if a record within it has a field
of the name that is refused. -/
def meaning? : Value → Option Value
  | .list items => (meanings? items).map .list
  | .record fields =>
      (recordMeaning? fields).map fun fields => (fields.lookup substituteName).getD (.record fields)
  | value => some value

/-- The values that are meant by the items of a list. -/
def meanings? : List Value → Option (List Value)
  | [] => some []
  | item :: rest => do return (← meaning? item) :: (← meanings? rest)

/-- The fields that are meant by the fields of a record. -/
def recordMeaning? : Fields → Option Fields
  | [] => some []
  | (name, value) :: rest =>
      if name = refusedName then none
      else do return (name, ← meaning? value) :: (← recordMeaning? rest)

end

/-- The fields that are meant by the outermost fields of a document. -/
def documentMeaning? (fields : Fields) : Option Fields :=
  fields.mapM fun (name, value) => (meaning? value).map fun value => (name, value)

end TaskSwitcher.Toml
