import ParameterExpansion.Template
import ParameterExpansion.Text.Escaped

/-!
# Listings

The references of a template as JSON: one record for each occurrence, a field a line.
-/

namespace ParameterExpansion

/-- A field of a record: its name and its value as JSON. -/
def listedField (name : String) (value : Text) : Text :=
  "    ".toList ++ Text.escaped name.toList ++ ": ".toList ++ value

/-- A record as JSON, indented inside a list. -/
def ReferenceRecord.listed (r : ReferenceRecord) : Text :=
  "  \x7b\n".toList ++
    Text.joined ",\n".toList
      [listedField "name" r.name.escaped, listedField "operator" r.symbol.escaped,
       listedField "orig" r.source.escaped, listedField "position" (Text.ofNat r.position)] ++
    "\n  \x7d".toList

/-- Records as a JSON list. -/
def ReferenceRecord.listing : List ReferenceRecord → Text
  | [] => "[]".toList
  | records =>
    "[\n".toList ++ Text.joined ",\n".toList (records.map (·.listed)) ++ "\n]".toList

end ParameterExpansion
