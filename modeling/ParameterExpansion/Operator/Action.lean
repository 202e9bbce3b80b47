import ParameterExpansion.Error
import ParameterExpansion.Operator
import ParameterExpansion.Text.Case
import ParameterExpansion.Text.Integer
import ParameterExpansion.Text.Pattern

/-!
# Actions

An `Action` is an operator together with its evaluated arguments. `Action.of?` finds the action for
a symbol and the arguments behind it, and `Action.apply` is its effect on a value; an unset variable
has no value. Patterns are literal, so the shortest and the longest match of a pattern are the same.
-/

namespace ParameterExpansion

/-- What a reference does to the value of its variable. -/
inductive Action where
  /-- Gives the value. -/
  | value
  /-- Gives the length of the value. -/
  | length
  /-- Removes a leading pattern. -/
  | removePrefix (pattern : Text)
  /-- Removes a trailing pattern. -/
  | removeSuffix (pattern : Text)
  /-- Replaces the first occurrence of a pattern. -/
  | replaceFirst (pattern replacement : Text)
  /-- Replaces every occurrence of a pattern. -/
  | replaceAll (pattern replacement : Text)
  /-- Replaces a leading pattern. -/
  | replacePrefix (pattern replacement : Text)
  /-- Replaces a trailing pattern. -/
  | replaceSuffix (pattern replacement : Text)
  /-- Takes a slice from an offset on, of some length or to the end. -/
  | substring (offset : Text) (length : Option Text)
  /-- Stands in for an unset value. -/
  | defaultUnset (value : Text)
  /-- Stands in for an unset or empty value. -/
  | defaultEmpty (value : Text)
  /-- Refuses an unset or empty value, with a message. -/
  | required (message : Text)
  /-- Stands in for a value that is neither unset nor empty. -/
  | alternate (value : Text)
  /-- Puts the first character in lower case. -/
  | lowerFirst
  /-- Puts the value in lower case. -/
  | lower
  /-- Puts the first character in upper case. -/
  | upperFirst
  /-- Puts the value in upper case. -/
  | upper
  deriving DecidableEq

/-- The action of an operator on its arguments, when it takes as many. A replacement that is not
given is empty. -/
def Operator.action? : Operator → List Text → Option Action
  | .removePrefix, [pattern] => some (.removePrefix pattern)
  | .removeLongestPrefix, [pattern] => some (.removePrefix pattern)
  | .removeSuffix, [pattern] => some (.removeSuffix pattern)
  | .removeLongestSuffix, [pattern] => some (.removeSuffix pattern)
  | .replaceFirst, [pattern] => some (.replaceFirst pattern [])
  | .replaceFirst, [pattern, replacement] => some (.replaceFirst pattern replacement)
  | .replaceAll, [pattern] => some (.replaceAll pattern [])
  | .replaceAll, [pattern, replacement] => some (.replaceAll pattern replacement)
  | .replacePrefix, [pattern] => some (.replacePrefix pattern [])
  | .replacePrefix, [pattern, replacement] => some (.replacePrefix pattern replacement)
  | .replaceSuffix, [pattern] => some (.replaceSuffix pattern [])
  | .replaceSuffix, [pattern, replacement] => some (.replaceSuffix pattern replacement)
  | .substring, [offset] => some (.substring offset none)
  | .substring, [offset, length] => some (.substring offset (some length))
  | .assignUnset, [value] => some (.defaultUnset value)
  | .assignEmpty, [value] => some (.defaultEmpty value)
  | .defaultEmpty, [value] => some (.defaultEmpty value)
  | .required, [message] => some (.required message)
  | .alternate, [value] => some (.alternate value)
  | .lowerFirst, [] => some .lowerFirst
  | .lower, [] => some .lower
  | .upperFirst, [] => some .upperFirst
  | .upper, [] => some .upper
  | _, _ => none

namespace Action

/-- The action for a symbol and its arguments. Without arguments the empty symbol gives the value
and `#` its length; any other symbol is that of an operator. -/
def of? (symbol : Text) (arguments : List Text) : Option Action :=
  if symbol = [] then if arguments = [] then some .value else none
  else if symbol = lengthSymbol && arguments = [] then some .length
  else (Operator.ofSymbol? symbol).bind fun operator => operator.action? arguments

/-- The integer in a field of a slice, blanks at its ends aside; an empty field is zero. -/
def integerField (field : SliceField) (written : Text) : Except Fault Int :=
  if written.trimmed = [] then .ok 0
  else match Text.Numeral.read? written.trimmed with
    | none => .error (.evaluation ⟨.invalidField field written.trimmed, none⟩)
    | some numeral =>
      if digitLimit < numeral.digits.length then
        .error (.invalid (.tooManyDigits numeral.digits.length))
      else .ok numeral.value

/-- Where a slice of a text of length `size` starts: a negative offset counts from the end, and no
further than to the start. -/
def sliceStart (size : Nat) (offset : Int) : Nat :=
  if offset < 0 then (size + offset).toNat else offset.toNat

/-- The slice of `t` from `start` on with a length of `count`, which was written as `written`; a
negative length counts back from the end of `t`. -/
def slice (t : Text) (start : Nat) (written : Text) (count : Int) : Except Fault Text :=
  if 0 ≤ count then .ok ((t.drop start).take count.toNat)
  else if t.length + count < start then
    .error (.evaluation ⟨.negativeSlice written.trimmed, none⟩)
  else .ok ((t.drop start).take ((t.length + count).toNat - start))

/-- The slice of `t` that an offset and the length, if one is given, describe. The length is not
looked at when the slice starts behind the end of `t`. -/
def substringOf (t offset : Text) (extent : Option Text) : Except Fault Text :=
  match integerField .offset offset with
  | .error fault => .error fault
  | .ok offset =>
    let start := sliceStart t.length offset
    if t.length < start then .ok []
    else match extent with
      | none => .ok (t.drop start)
      | some written => match integerField .length written with
        | .error fault => .error fault
        | .ok count => slice t start written count

/-- `apply action value` is what `action` makes of a value; a missing value counts as empty but for
`defaultUnset`. -/
def apply (action : Action) (value : Option Text) : Except Fault Text :=
  let t := value.getD []
  match action with
  | .value => .ok t
  | .length => .ok (Text.ofNat t.length)
  | .removePrefix pattern => .ok (t.removePrefix pattern)
  | .removeSuffix pattern => .ok (t.removeSuffix pattern)
  | .replaceFirst pattern replacement => .ok (t.replaceFirst pattern replacement)
  | .replaceAll pattern replacement => .ok (t.replaceAll pattern replacement)
  | .replacePrefix pattern replacement => .ok (t.replacePrefix pattern replacement)
  | .replaceSuffix pattern replacement => .ok (t.replaceSuffix pattern replacement)
  | .substring offset extent => substringOf t offset extent
  | .defaultUnset other => .ok (value.getD other)
  | .defaultEmpty other => .ok (if t = [] then other else t)
  | .required message =>
    if t = [] then
      .error (.evaluation ⟨if message = [] then .nullOrUnset else .refused message, none⟩)
    else .ok t
  | .alternate other => .ok (if t = [] then [] else other)
  | .lowerFirst => .ok t.lowerFirst
  | .lower => .ok t.lower
  | .upperFirst => .ok t.upperFirst
  | .upper => .ok t.upper

end Action

/-- `operate symbol value arguments` applies the operator with a symbol to a value and arguments. -/
def operate (symbol : Text) (value : Option Text) (arguments : List Text) : Except Fault Text :=
  match Action.of? symbol arguments with
  | none => .error (.evaluation ⟨.noOperator symbol arguments.length, none⟩)
  | some action => action.apply value

end ParameterExpansion
