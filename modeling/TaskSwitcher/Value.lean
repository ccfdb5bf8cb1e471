/-!
# Values of data formats

Settings, scenarios and events arrive as trees of values, whatever the format they were written in. A
record is a list of named values; a name occurs once. Numbers that are not written as integers are of no
use to any reader, so nothing but their presence is kept.
-/

namespace TaskSwitcher

/-- A tree of values. -/
inductive Value where
  | null
  | bool (value : Bool)
  | int (value : Int)
  /-- A number written with a fraction or an exponent. -/
  | fractional
  | text (value : String)
  | list (items : List Value)
  | record (fields : List (String × Value))
deriving Inhabited

/-- Named values. -/
abbrev Fields := List (String × Value)

/-- The fields with one of them set, in its place or behind all others. -/
def Fields.set (fields : Fields) (name : String) (value : Value) : Fields :=
  match fields with
  | [] => [(name, value)]
  | field :: rest =>
      if field.1 = name then (name, value) :: rest else field :: Fields.set rest name value

mutual

/-- The value `above` where it says something, and `below` elsewhere: records are joined field by field,
anything else in `above` replaces what is below it. -/
def Value.overlay (below : Value) : Value → Value
  | .record fields =>
      match below with
      | .record old => .record (Fields.overlay old fields)
      | _ => .record (Fields.overlay [] fields)
  | above => above

/-- Fields joined one by one with the fields above them. -/
def Fields.overlay (below : Fields) : Fields → Fields
  | [] => below
  | (name, value) :: rest =>
      Fields.overlay (Fields.set below name ((below.lookup name).getD .null |>.overlay value)) rest

end

end TaskSwitcher
