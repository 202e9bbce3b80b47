import ParameterExpansion.Text

/-!
# Operators

The operators that may stand between the name and the closing brace of a reference: how each is
written, how many arguments it takes and what separates them, and the two classes of operators that
the ways of evaluating treat apart. The plain reference and the length of a value have no operator
here: a template writes them without one.
-/

namespace ParameterExpansion

/-- An operator of a braced reference. -/
inductive Operator where
  /-- `#` removes a leading pattern. -/
  | removePrefix
  /-- `##` removes a leading pattern; as patterns are literal, its longest match is `#`'s. -/
  | removeLongestPrefix
  /-- `%` removes a trailing pattern. -/
  | removeSuffix
  /-- `%%` removes a trailing pattern; as patterns are literal, its longest match is `%`'s. -/
  | removeLongestSuffix
  /-- `/` replaces the first occurrence of a pattern. -/
  | replaceFirst
  /-- `//` replaces every occurrence of a pattern. -/
  | replaceAll
  /-- `/#` replaces a leading pattern. -/
  | replacePrefix
  /-- `/%` replaces a trailing pattern. -/
  | replaceSuffix
  /-- `:` takes a slice. -/
  | substring
  /-- `=` gives an unset variable a value. -/
  | assignUnset
  /-- `:=` gives an unset or empty variable a value. -/
  | assignEmpty
  /-- `:-` stands in for an unset or empty value. -/
  | defaultEmpty
  /-- `:?` refuses an unset or empty value. -/
  | required
  /-- `:+` stands in for a value that is neither unset nor empty. -/
  | alternate
  /-- `,` puts the first character in lower case. -/
  | lowerFirst
  /-- `,,` puts the value in lower case. -/
  | lower
  /-- `^` puts the first character in upper case. -/
  | upperFirst
  /-- `^^` puts the value in upper case. -/
  | upper
  deriving DecidableEq

namespace Operator

/-- Every operator, in the order of the table. -/
def all : List Operator :=
  [.removePrefix, .removeLongestPrefix, .removeSuffix, .removeLongestSuffix, .replaceFirst,
   .replaceAll, .replacePrefix, .replaceSuffix, .substring, .assignUnset, .assignEmpty,
   .defaultEmpty, .required, .alternate, .lowerFirst, .lower, .upperFirst, .upper]

/-- The symbol of an operator. -/
def symbol : Operator → Text
  | .removePrefix => ['#']
  | .removeLongestPrefix => ['#', '#']
  | .removeSuffix => ['%']
  | .removeLongestSuffix => ['%', '%']
  | .replaceFirst => ['/']
  | .replaceAll => ['/', '/']
  | .replacePrefix => ['/', '#']
  | .replaceSuffix => ['/', '%']
  | .substring => [':']
  | .assignUnset => ['=']
  | .assignEmpty => [':', '=']
  | .defaultEmpty => [':', '-']
  | .required => [':', '?']
  | .alternate => [':', '+']
  | .lowerFirst => [',']
  | .lower => [',', ',']
  | .upperFirst => ['^']
  | .upper => ['^', '^']

/-- The fewest arguments that an operator takes. -/
def minArguments : Operator → Nat
  | .lowerFirst | .lower | .upperFirst | .upper => 0
  | _ => 1

/-- The most arguments that an operator takes. -/
def maxArguments : Operator → Nat
  | .lowerFirst | .lower | .upperFirst | .upper => 0
  | .replaceFirst | .replaceAll | .replacePrefix | .replaceSuffix | .substring => 2
  | _ => 1

/-- The character between two arguments of an operator that takes as many. -/
def separator : Operator → Option Char
  | .replaceFirst | .replaceAll | .replacePrefix | .replaceSuffix => some '/'
  | .substring => some ':'
  | _ => none

/-- A defaulting operator says what an unset or empty value means. -/
def isDefaulting : Operator → Bool
  | .assignUnset | .assignEmpty | .defaultEmpty | .required | .alternate => true
  | _ => false

/-- The result of an assigning operator is stored as the value of the variable. -/
def isAssigning : Operator → Bool
  | .assignUnset | .assignEmpty => true
  | _ => false

/-- `operator.separates t` tells whether `t` starts with the operator's separator. -/
def separates (operator : Operator) : Text → Bool
  | [] => false
  | c :: _ => operator.separator == some c

/-- The operator with a given symbol, where there is one. -/
def ofSymbol? (s : Text) : Option Operator := all.find? fun operator => operator.symbol = s

/-- Every operator, those with the longer symbols first and otherwise in the order of the table. -/
def longestFirst : List Operator :=
  all.filter (fun operator => operator.symbol.length = 2) ++
    all.filter fun operator => operator.symbol.length = 1

/-- The operator with the longest symbol that `t` starts with. -/
def leading? (t : Text) : Option Operator :=
  longestFirst.find? fun operator => operator.symbol.isPrefixOf t

/-- Every operator is tried, whatever the length of its symbol. -/
theorem mem_longestFirst (operator : Operator) : operator ∈ longestFirst := by
  cases operator <;> decide

/-- An operator is found by its own symbol, so no two operators share one. -/
theorem ofSymbol?_symbol (operator : Operator) : ofSymbol? operator.symbol = some operator := by
  cases operator <;> decide

/-- The operator found by a symbol has that symbol. -/
theorem symbol_of_ofSymbol? {s : Text} {operator : Operator} (h : ofSymbol? s = some operator) :
    operator.symbol = s := by
  simpa using List.find?_some h

end Operator

/-- The symbol of a reference to the length of a value, which is written before the name. -/
def lengthSymbol : Text := ['#']

/-- A symbol is defaulting when it is that of a defaulting operator. -/
def isDefaulting (symbol : Text) : Bool := (Operator.ofSymbol? symbol).any (·.isDefaulting)

/-- A symbol is assigning when it is that of an assigning operator. -/
def isAssigning (symbol : Text) : Bool := (Operator.ofSymbol? symbol).any (·.isAssigning)

end ParameterExpansion
