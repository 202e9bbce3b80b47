import ParameterExpansion.Error
import ParameterExpansion.Text.Case
import ParameterExpansion.Text.LooseInteger

/-!
# Settings

The settings of the library and where they come from: environment variables with the names of the
settings behind `SHX_`, upper and lower case being alike. A setting whose variable cannot be read is
refused, and all refusals are reported together.
-/

namespace ParameterExpansion

/-- Which references a run refuses or leaves as they are. -/
structure Flags where
  /-- Refuse unset variables. -/
  noUnset : Bool
  /-- Refuse empty variables. -/
  noEmpty : Bool
  /-- Leave references to unset variables as they are written. -/
  keepUnset : Bool
  deriving DecidableEq

namespace Flags

/-- No flag is given. -/
def none : Flags := ⟨false, false, false⟩

/-- Whether a flag refuses values. -/
def refuses (f : Flags) : Bool := f.noUnset || f.noEmpty

/-- Leaving references as they are excludes refusing them. -/
def conflict (f : Flags) : Bool := f.keepUnset && f.refuses

end Flags

/-- The settings. -/
structure Settings where
  /-- Whether nothing is logged. -/
  beQuiet : Bool
  /-- How many braced references may stand in each other. -/
  maxDepth : Int
  /-- What the command line does when no flag is given. -/
  flags : Flags
  deriving DecidableEq

/-- The names of the settings. -/
inductive SettingName where
  /-- `beQuiet` -/
  | beQuiet
  /-- `keepUnset` -/
  | keepUnset
  /-- `maxDepth` -/
  | maxDepth
  /-- `noEmpty` -/
  | noEmpty
  /-- `noUnset` -/
  | noUnset
  deriving DecidableEq

/-- How a setting is written. -/
def SettingName.text : SettingName → Text
  | .beQuiet => "beQuiet".toList
  | .keepUnset => "keepUnset".toList
  | .maxDepth => "maxDepth".toList
  | .noEmpty => "noEmpty".toList
  | .noUnset => "noUnset".toList

/-- Why the value of a setting is refused. -/
inductive SettingFault where
  /-- It is neither true nor false. -/
  | notBoolean
  /-- It is no integer. -/
  | notInteger
  /-- It is an integer with more digits than are read. -/
  | tooManyDigits
  /-- It is not greater than zero. -/
  | tooSmall
  /-- It is greater than the deepest nesting limit. -/
  | tooLarge
  deriving DecidableEq

namespace Settings

/-- The settings where the environment has none. -/
def default : Settings := ⟨true, 64, Flags.none⟩

/-- The ways to write true. -/
def trueWords : List String := ["1", "true", "t", "yes", "y", "on"]

/-- The ways to write false. -/
def falseWords : List String := ["0", "false", "f", "no", "n", "off"]

/-- Reads true or false, upper and lower case of ASCII being alike. -/
def readBool (written : Text) : Except SettingFault Bool :=
  let word := String.ofList (written.map Char.toLower)
  if trueWords.contains word then .ok true
  else if falseWords.contains word then .ok false
  else .error .notBoolean

/-- Reads a loosely written integer. A sign counts as a digit where the number of digits is limited,
and zeros in front do not. -/
def readInteger (written : Text) : Except SettingFault Int :=
  match written.looseInteger? with
  | none => .error .notInteger
  | some numeral =>
    if digitLimit < numeral.digits.length + (if numeral.negative then 1 else 0) then
      .error .tooManyDigits
    else .ok numeral.value

/-- Reads a nesting limit. -/
def readDepth (written : Text) : Except SettingFault Int :=
  match readInteger written with
  | .error fault => .error fault
  | .ok depth =>
    if depth ≤ 0 then .error .tooSmall
    else if deepestLimit < depth then .error .tooLarge
    else .ok depth

/-- What the names of the environment variables start with. -/
def variablePrefix : Text := "shx_".toList

/-- The value of the environment variable of a setting; of several whose names are alike, the last
one counts. -/
def written? (environment : List (Text × Text)) (name : SettingName) : Option Text :=
  (environment.reverse.find? fun entry =>
    entry.1.lower = variablePrefix ++ name.text.lower).map Prod.snd

/-- The value of a setting, read by `read` where the environment has one. -/
def setting {α : Type} (read : Text → Except SettingFault α) (fallback : α)
    (environment : List (Text × Text)) (name : SettingName) : Except SettingFault α :=
  match written? environment name with
  | some written => read written
  | none => .ok fallback

/-- What is refused, under the name of the setting. -/
def refusal {α : Type} (name : SettingName) :
    Except SettingFault α → List (SettingName × SettingFault)
  | .ok _ => []
  | .error fault => [(name, fault)]

/-- The settings in an environment, or everything there that is refused. -/
def ofEnvironment (environment : List (Text × Text)) :
    Except (List (SettingName × SettingFault)) Settings :=
  let beQuiet := setting readBool default.beQuiet environment .beQuiet
  let maxDepth := setting readDepth default.maxDepth environment .maxDepth
  let noUnset := setting readBool default.flags.noUnset environment .noUnset
  let noEmpty := setting readBool default.flags.noEmpty environment .noEmpty
  let keepUnset := setting readBool default.flags.keepUnset environment .keepUnset
  match beQuiet, maxDepth, noUnset, noEmpty, keepUnset with
  | .ok beQuiet, .ok maxDepth, .ok noUnset, .ok noEmpty, .ok keepUnset =>
    .ok ⟨beQuiet, maxDepth, ⟨noUnset, noEmpty, keepUnset⟩⟩
  | beQuiet, maxDepth, noUnset, noEmpty, keepUnset =>
    .error (refusal .beQuiet beQuiet ++ refusal .keepUnset keepUnset ++
      refusal .maxDepth maxDepth ++ refusal .noEmpty noEmpty ++ refusal .noUnset noUnset)

end Settings

end ParameterExpansion
