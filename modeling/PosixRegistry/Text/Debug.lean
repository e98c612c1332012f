/-!
# Debug texts of records

The debug text of a record is its name followed by its fields between braces, each field its
name, a colon and the field's own debug text, the fields separated by commas:
`IdRange { min: 1, max: 999 }`. A record without fields is its bare name. A record that keeps
some of its fields to itself ends the list with `..`, also when it shows none:
`JwtService { leeway_secs: 60, .. }`, `Keys { .. }`.
-/

namespace PosixRegistry.Text

/-- A field as written after the record's name: an opening brace before the first field, a
comma before each other one. -/
def fieldText (first : Bool) (f : String × String) : String :=
  (if first then " \x7b " else ", ") ++ f.1 ++ ": " ++ f.2

/-- The fields of a record as written after its name. -/
def fieldsText : List (String × String) → String
  | [] => ""
  | f :: fs => fieldText true f ++ String.join (fs.map (fieldText false))

/-- The debug text of a record that shows all its fields. -/
def debugRecord (name : String) (fields : List (String × String)) : String :=
  if fields.isEmpty then name else name ++ fieldsText fields ++ " \x7d"

/-- The debug text of a record that shows only some of its fields. -/
def debugRecordOpen (name : String) (fields : List (String × String)) : String :=
  if fields.isEmpty then name ++ " \x7b .. \x7d" else name ++ fieldsText fields ++ ", .. \x7d"

end PosixRegistry.Text
