import ParameterExpansion.Text.Quoted

/-!
# Errors

The causes for which a template cannot be read or evaluated, each with its wording. A `Fault` is
whatever can end an evaluation: an evaluation error, or something that a resolver or an interceptor
raised of its own. Around a resolver and an interceptor every fault becomes an evaluation error
(`Fault.wrapped`).
-/

namespace ParameterExpansion

/-- Why a template is malformed. -/
inductive ParseCause where
  /-- No variable name stands where one has to. -/
  | expectedName
  /-- Braced references stand in each other more deeply than the limit allows. -/
  | nestedTooDeep (limit : Nat)
  /-- The template ends inside a braced reference. -/
  | unterminated
  /-- No operator starts with the character behind a name. -/
  | unknownOperator (c : Char)
  /-- A character other than the closing brace stands behind a complete reference. -/
  | unexpectedCharacter (c : Char)
  deriving DecidableEq

/-- The wording of a cause. -/
def ParseCause.message : ParseCause → Text
  | .expectedName => "expected variable name".toList
  | .nestedTooDeep limit =>
    "expansion nested deeper than ".toList ++ Text.ofNat limit ++ " levels".toList
  | .unterminated => "unterminated expansion".toList
  | .unknownOperator c => "unknown operator ".toList ++ Text.quoted [c]
  | .unexpectedCharacter c => "unexpected character ".toList ++ Text.quoted [c]

/-- A malformed template: the cause, and the offset in the template where it lies. -/
structure ParseError where
  /-- Why the template is malformed. -/
  cause : ParseCause
  /-- Where it is. -/
  position : Nat
  deriving DecidableEq

/-- A message with the position it is about. -/
def located (message position : Text) : Text := message ++ " at position ".toList ++ position

/-- The text of a parse error. -/
def ParseError.text (e : ParseError) : Text := located e.cause.message (Text.ofNat e.position)

/-- The fields of a slice. -/
inductive SliceField where
  /-- Where the slice starts. -/
  | offset
  /-- How long it is. -/
  | length
  deriving DecidableEq

/-- The name of a field. -/
def SliceField.name : SliceField → Text
  | .offset => "offset".toList
  | .length => "length".toList

/-- Those whose faults an evaluation reports as its own. -/
inductive Callback where
  /-- What answers with the values of variables. -/
  | resolver
  /-- What may take over an occurrence of a variable. -/
  | interceptor
  deriving DecidableEq

/-- The name of a callback. -/
def Callback.name : Callback → Text
  | .resolver => "resolver".toList
  | .interceptor => "interceptor".toList

/-- Why an evaluation is given up. -/
inductive EvaluationCause where
  /-- No operator has this symbol and takes as many arguments. -/
  | noOperator (symbol : Text) (count : Nat)
  /-- A field of a slice, shown without blanks at its ends, is no integer. -/
  | invalidField (field : SliceField) (written : Text)
  /-- The length of a slice, shown without blanks at its ends, puts the end before the start. -/
  | negativeSlice (length : Text)
  /-- A required value is unset or empty, and the template gives no message of its own. -/
  | nullOrUnset
  /-- A required value is unset or empty, and the template gives this message. -/
  | refused (message : Text)
  /-- An unset variable is used without a default. -/
  | notSet
  /-- An empty variable is used without a default. -/
  | setButEmpty
  /-- A callback ended with a fault that has this text. -/
  | failed (callback : Callback) (text : Text)
  /-- A callback gave up with this message. -/
  | stated (message : Text)
  deriving DecidableEq

/-- The wording of a cause. -/
def EvaluationCause.message : EvaluationCause → Text
  | .noOperator symbol count =>
    "no operator ".toList ++ Text.quoted symbol ++ " taking ".toList ++ Text.ofNat count ++
      " argument(s)".toList
  | .invalidField field written =>
    "invalid substring ".toList ++ field.name ++ ": ".toList ++ Text.quoted written
  | .negativeSlice length => "substring expression < 0: ".toList ++ length
  | .nullOrUnset => "parameter null or not set".toList
  | .refused message => message
  | .notSet => "variable not set".toList
  | .setButEmpty => "variable set but empty".toList
  | .failed callback text => callback.name ++ " failed: ".toList ++ text
  | .stated message => message

/-- An evaluation given up: the cause, and the variable it is about, where one is known. -/
structure EvaluationError where
  /-- Why the evaluation is given up. -/
  cause : EvaluationCause
  /-- The variable that was being evaluated. -/
  subject : Option Text
  deriving DecidableEq

/-- The text of an evaluation error: the variable, unless it is unknown or empty, and the message. -/
def EvaluationError.text (e : EvaluationError) : Text :=
  match e.subject with
  | none | some [] => e.cause.message
  | some name => name ++ ": ".toList ++ e.cause.message

/-- Why a value is refused by whoever it is handed to. -/
inductive InvalidValue where
  /-- A nesting limit lies outside the limits of limits. -/
  | nestingLimit
  /-- A numeral has more digits than are read. -/
  | tooManyDigits (count : Nat)
  /-- A chain has no member. -/
  | emptyChain
  /-- A sequence has fewer than two nodes. -/
  | shortSequence
  /-- An assignment has no name or no equals sign. -/
  | assignment (written : Text)
  /-- A path holds a NUL. -/
  | nulInPath
  /-- A callback refuses a value with this message. -/
  | stated (message : Text)
  deriving DecidableEq

/-- The most digits that a numeral may have. -/
def digitLimit : Nat := 4300

/-- The deepest nesting limit there is. -/
def deepestLimit : Nat := 128

/-- The wording of a refusal. -/
def InvalidValue.message : InvalidValue → Text
  | .nestingLimit => "max_depth must be between 1 and ".toList ++ Text.ofNat deepestLimit
  | .tooManyDigits count =>
    "Exceeds the limit (".toList ++ Text.ofNat digitLimit ++
      " digits) for integer string conversion: value has ".toList ++ Text.ofNat count ++
      " digits; use sys.set_int_max_str_digits() to increase the limit".toList
  | .emptyChain => "ChainResolver needs at least one resolver".toList
  | .shortSequence => "ListNode requires at least two children".toList
  | .assignment written => "Invalid assignment, expected NAME=VALUE: ".toList ++ written
  | .nulInPath => "embedded null byte".toList
  | .stated message => message

/-- What can end an evaluation. -/
inductive Fault where
  /-- The evaluation is given up. -/
  | evaluation (e : EvaluationError)
  /-- A callback met a malformed template. -/
  | parse (message : Text) (position : Int)
  /-- A callback missed a key. -/
  | missingKey (key : Text)
  /-- A callback failed while it ran. -/
  | runtime (message : Text)
  /-- A value is refused. -/
  | invalid (reason : InvalidValue)
  deriving DecidableEq

/-- A malformed template as a fault. -/
def ParseError.fault (e : ParseError) : Fault := .parse e.cause.message e.position

namespace Fault

/-- The text of a fault. -/
def text : Fault → Text
  | .evaluation e => e.text
  | .parse message position => located message (Text.ofInt position)
  | .missingKey key => Text.quoted key
  | .runtime message => message
  | .invalid reason => reason.message

/-- The fault of an operator, with the variable whose value it was applied to. -/
def about (name : Text) : Fault → Fault
  | .evaluation ⟨cause, none⟩ => .evaluation ⟨cause, some name⟩
  | fault => fault

/-- The fault of a callback that was called for a variable, as the evaluation reports it. -/
def wrapped (callback : Callback) (name : Text) : Fault → Fault
  | .evaluation e => .evaluation e
  | fault => .evaluation ⟨.failed callback fault.text, some name⟩

/-- Whatever a callback raises, the evaluation reports an evaluation error. -/
theorem exists_wrapped_eq (callback : Callback) (name : Text) (fault : Fault) :
    ∃ e, wrapped callback name fault = .evaluation e := by
  cases fault <;> exact ⟨_, rfl⟩

end Fault

end ParameterExpansion
