import ParameterExpansion.Text

/-!
# Log messages

What the library notes while it reads and expands templates.
-/

namespace ParameterExpansion

/-- A message of the log. -/
inductive Message where
  /-- A template of this length was read. -/
  | parsed (length : Nat)
  /-- A value is being stored under a name. -/
  | assigning (name : Text)
  /-- A template could not be expanded. -/
  | expansionFailed (text : Text)
  /-- The template from a source could not be expanded. -/
  | renderFailed (source text : Text)
  /-- The template from a source could not be read into a tree. -/
  | parseFailed (source text : Text)
  /-- The octets of a source are no text. -/
  | readFailed (source text : Text)
  deriving DecidableEq

/-- The text of a message. -/
def Message.text : Message → Text
  | .parsed length => "Parsed template of ".toList ++ Text.ofNat length ++ " characters".toList
  | .assigning name => "Assigning default to ".toList ++ name
  | .expansionFailed text => "Expansion failed: ".toList ++ text
  | .renderFailed source text => "Render of ".toList ++ source ++ " failed: ".toList ++ text
  | .parseFailed source text => "Parse of ".toList ++ source ++ " failed: ".toList ++ text
  | .readFailed source text => "Read of ".toList ++ source ++ " failed: ".toList ++ text

end ParameterExpansion
