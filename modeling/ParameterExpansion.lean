import ParameterExpansion.Main
import ParameterExpansion.Proofs.Render.Captured
import ParameterExpansion.Proofs.Template.Printed
import ParameterExpansion.Proofs.Template.Source
import ParameterExpansion.Proofs.Grammar.Surroundings
import ParameterExpansion.Proofs.Grammar.Spans
import ParameterExpansion.Proofs.Template.Reparsed
import ParameterExpansion.Proofs.Grammar.Failure
import ParameterExpansion.Proofs.Template.Located
import ParameterExpansion.Proofs.Scanner.Failure
import ParameterExpansion.Proofs.Grammar.Completion
import ParameterExpansion.Proofs.Template.Refused
import ParameterExpansion.Proofs.Evaluation.Joined
import ParameterExpansion.Proofs.Evaluation.Outcome
import ParameterExpansion.Proofs.Template.Appended
import ParameterExpansion.Proofs.Evaluation.Defaults
import ParameterExpansion.Proofs.Evaluation.Merged
import ParameterExpansion.Proofs.Evaluation.Strict
import ParameterExpansion.Proofs.Grammar.Nesting
import ParameterExpansion.Proofs.Template.Nested
import ParameterExpansion.Proofs.Evaluation.Filled
import ParameterExpansion.Proofs.Evaluation.Calls
import ParameterExpansion.Proofs.Evaluation.FirstStore
import ParameterExpansion.Proofs.Template.Names
import ParameterExpansion.Proofs.Template.Staged
import ParameterExpansion.Proofs.Template.Canonical
import ParameterExpansion.Proofs.Template.Dispatch
import ParameterExpansion.Proofs.Operator.Fields
import ParameterExpansion.Proofs.Template.Sliced
import ParameterExpansion.Proofs.Evaluation.Preserving
import ParameterExpansion.Proofs.Evaluation.Supplied
import ParameterExpansion.Proofs.Evaluation.Missing
import ParameterExpansion.Proofs.Operator.Patterns
import ParameterExpansion.Proofs.Store.Assignments
import ParameterExpansion.Proofs.Parser.Advancing
import ParameterExpansion.Proofs.Parser.Reused
