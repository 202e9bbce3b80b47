import ParameterExpansion.Error
import ParameterExpansion.Store
import ParameterExpansion.Text.Pattern

/-!
# Assignments

Assignments as they are written on a command line, `NAME=VALUE`. The name ends at the first equals
sign, so a value may hold further ones, and it may be empty while the name may not.
-/

namespace ParameterExpansion

/-- The name and the value of an assignment, when it has an equals sign and a name. -/
def splitAssignment? (written : Text) : Option (Text × Text) :=
  match written.cut? ['='] with
  | some (name, value) => if name = [] then none else some (name, value)
  | none => none

/-- The store that assignments fill, starting from a given one; the first that is no assignment is
refused. -/
def Store.assignEach (s : Store) : List Text → Except InvalidValue Store
  | [] => .ok s
  | written :: rest => match splitAssignment? written with
    | none => .error (.assignment written)
    | some (name, value) => (s.set name value).assignEach rest

/-- The store that assignments make up; of two with one name the later one counts. -/
def Store.ofAssignments (items : List Text) : Except InvalidValue Store := empty.assignEach items

end ParameterExpansion
