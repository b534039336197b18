/-! # Records in text

A record is written as its name and its fields in braces, each field as a key and a text.
-/

namespace Breadboard.Text

def record (name : String) (fields : List (String × String)) : String :=
  name ++ " \x7b " ++ ", ".intercalate (fields.map fun field => field.1 ++ ": " ++ field.2) ++ " \x7d"

end Breadboard.Text
