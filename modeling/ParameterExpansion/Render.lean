import ParameterExpansion.Evaluation
import ParameterExpansion.Settings

/-!
# Rendering

Reading and expanding a text in one step, as the front end does: a malformed template and an
evaluation that is given up are data here, and noted in the log. Other faults end the run.
-/

namespace ParameterExpansion

/-- The mode that flags ask for: refusing comes before leaving references as they are. -/
def Flags.mode (f : Flags) : Mode :=
  if f.refuses then .strict ⟨f.noUnset, f.noEmpty⟩
  else if f.keepUnset then .preserving
  else .standard

/-- What rendering a text gives. -/
inductive Rendering where
  /-- The text with its references expanded. -/
  | expanded (text : Text)
  /-- The text of the error that kept it from being expanded. -/
  | failed (error : Text)
  deriving DecidableEq

/-- Malformed templates and evaluations given up are reported; other faults are not expected. -/
def Fault.isReported : Fault → Bool
  | .evaluation _ | .parse .. => true
  | .missingKey _ | .runtime _ | .invalid _ => false

/-- A run whose reported faults become its result, and are noted. -/
def reporting (run : Run Session Text) : Run Session Rendering := fun s =>
  match run s with
  | .ok text t => .ok (.expanded text) t
  | .error fault t =>
    if fault.isReported then
      .ok (.failed fault.text) { t with log := t.log ++ [.expansionFailed fault.text] }
    else .error fault t

/-- Reads and expands a text, under a limit of so many levels and in the mode of some flags. -/
def render (levels : Int) (flags : Flags) (source : Text) : Run Session Rendering :=
  reporting do
    let template ← Session.parse levels source
    template.expand flags.mode

/-- The resolver of a run: overrides first and then the environment, if it is used. -/
def Resolver.overriding (overrides : Store) (environment : Option Store) : Resolver :=
  match environment with
  | some environment => .chain [.store overrides, .store environment]
  | none => .store overrides

end ParameterExpansion
