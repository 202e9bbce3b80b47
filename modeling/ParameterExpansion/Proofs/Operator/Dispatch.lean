import ParameterExpansion.Proofs.Grammar.Written
import ParameterExpansion.Proofs.Operator.Causes

/-!
# Finding actions

How many arguments a symbol may stand with, and how many an action is found for, is told by two
tables, and they agree (`Action.exists_of?_iff`). An operator that has found its action gives up an
evaluation for a cause of its own (`Occurrence.HasCause.hasOperator`).
-/

namespace ParameterExpansion

section
variable {symbol : Text} {arguments : List Text} {count : Nat}

/-! ## The two tables -/

/-- An operator puts the value, or its first character, in another case. -/
def Operator.changesCase : Operator → Bool
  | .lowerFirst | .lower | .upperFirst | .upper => true
  | _ => false

/-- An operator takes no arguments when it changes the case, and only then. -/
theorem Operator.minArguments_eq_zero_iff {op : Operator} :
    op.minArguments = 0 ↔ op.changesCase = true := by
  cases op <;> decide

/-- An operator that changes the case takes no arguments. -/
theorem Operator.maxArguments_eq_zero {op : Operator} (h : op.changesCase = true) :
    op.maxArguments = 0 := by
  cases op <;> first | rfl | cases h

/-- An operator has an action on as many arguments as it takes. -/
theorem Operator.exists_action?_iff {op : Operator} :
    (∃ action, op.action? arguments = some action) ↔
      op.minArguments ≤ arguments.length ∧ arguments.length ≤ op.maxArguments := by
  rcases arguments with _ | ⟨a, _ | ⟨b, _ | ⟨c, rest⟩⟩⟩ <;> cases op <;>
    simp [action?, minArguments, maxArguments]

/-- A symbol has an action on as many arguments as it may stand with. -/
theorem Action.exists_of?_iff :
    (∃ action, of? symbol arguments = some action) ↔ TakesArguments symbol arguments.length := by
  unfold of?
  split
  · next hempty =>
    subst hempty
    split
    · next hnone => exact iff_of_true ⟨_, rfl⟩ (.inl ⟨rfl, List.length_eq_zero_iff.2 hnone⟩)
    · next hsome =>
      refine iff_of_false nofun ?_
      rintro (⟨-, h⟩ | ⟨h, -⟩ | ⟨op, h, -⟩)
      · exact hsome (List.length_eq_zero_iff.1 h)
      · cases h
      · cases op <;> cases h
  next hsymbol =>
  split
  · next hlength =>
    obtain ⟨hhash, hnone⟩ := by simpa using hlength
    exact iff_of_true ⟨_, rfl⟩ (.inr (.inl ⟨hhash, List.length_eq_zero_iff.2 hnone⟩))
  next hlength =>
  constructor
  · rintro ⟨action, h⟩
    obtain ⟨op, hop, haction⟩ := Option.bind_eq_some_iff.1 h
    exact .inr (.inr ⟨op, (Operator.symbol_of_ofSymbol? hop).symm,
      Operator.exists_action?_iff.1 ⟨action, haction⟩⟩)
  · rintro (⟨h, -⟩ | ⟨hhash, h⟩ | ⟨op, rfl, h⟩)
    · exact absurd h hsymbol
    · exact absurd (by simp [hhash, List.length_eq_zero_iff.1 h]) hlength
    · rw [Operator.ofSymbol?_symbol]
      exact Operator.exists_action?_iff.2 h

/-- A symbol that stands without arguments is none, that of the length or that of an operator that
changes the case. -/
theorem TakesArguments.eq_zero_iff (h : TakesArguments symbol count) :
    count = 0 ↔ symbol = [] ∨ (symbol = lengthSymbol ∧ count = 0) ∨
      ∃ op : Operator, symbol = op.symbol ∧ op.changesCase = true := by
  constructor
  · rintro rfl
    rcases h with ⟨hempty, -⟩ | hlength | ⟨op, hop, hmin, -⟩
    · exact .inl hempty
    · exact .inr (.inl hlength)
    · exact .inr (.inr ⟨op, hop, Operator.minArguments_eq_zero_iff.1 (Nat.le_zero.1 hmin)⟩)
  · rintro (rfl | ⟨-, hcount⟩ | ⟨op, rfl, hcase⟩)
    · rcases h with ⟨-, hcount⟩ | ⟨hhash, -⟩ | ⟨op, hop, -⟩
      · exact hcount
      · cases hhash
      · cases op <;> cases hop
    · exact hcount
    · rcases h with ⟨-, hcount⟩ | ⟨-, hcount⟩ | ⟨other, hother, -, hmax⟩
      · exact hcount
      · exact hcount
      · rw [← Operator.symbol_injective hother, Operator.maxArguments_eq_zero hcase] at hmax
        exact Nat.le_zero.1 hmax

/-! ## Causes -/

namespace EvaluationCause
variable {cause : EvaluationCause} {o : Occurrence}

/-- A cause that gives up an evaluation at a reference is not that there is no operator, nor is it
worded as if there were none, unless these are the words that the reference gives to `:?`. -/
def HasOperator (cause : EvaluationCause) (o : Occurrence) : Prop :=
  ∀ symbol count, cause ≠ .noOperator symbol count ∧
    (cause.message = (noOperator symbol count).message → cause.IsWordedBy o)

/-- What is worded with another first character is not worded as if there were no operator. -/
theorem hasOperator_of_head? {c : Char} (h : cause.message.head? = some c) (hc : c ≠ 'n') :
    cause.HasOperator o := by
  have hmessage : ∀ symbol count, cause.message ≠ (noOperator symbol count).message := by
    intro symbol count heq
    rw [heq] at h
    exact hc (Option.some.inj h).symm
  exact fun symbol count => ⟨fun heq => hmessage symbol count (congrArg message heq),
    fun heq => absurd heq (hmessage symbol count)⟩

/-- What the reference words is not that there is no operator. -/
theorem IsWordedBy.hasOperator (h : cause.IsWordedBy o) : cause.HasOperator o := by
  refine fun symbol count => ⟨?_, fun _ => h⟩
  rintro rfl
  obtain ⟨message, heq, -⟩ := h
  cases heq

/-- That a callback failed is not that there is no operator. -/
theorem hasOperator_failed (callback : Callback) (text : Text) :
    (failed callback text).HasOperator o := by
  cases callback with
  | resolver => exact hasOperator_of_head? (c := 'r') rfl (by decide)
  | interceptor => exact hasOperator_of_head? (c := 'i') rfl (by decide)

end EvaluationCause

/-- An operator that has found its action does not give up an evaluation because there is none. -/
theorem Occurrence.HasCause.hasOperator {o : Occurrence} {cause : EvaluationCause} {action : Action}
    (h : o.HasCause cause) (haction : Action.of? o.symbol o.arguments = some action) :
    cause.HasOperator o := by
  rcases h.message_cases with ⟨hnone, -⟩ | ⟨c, hc, hhead⟩ | hworded
  · rw [haction] at hnone
    cases hnone
  · refine EvaluationCause.hasOperator_of_head? hhead ?_
    rintro rfl
    exact absurd hc (by decide)
  · exact hworded.hasOperator

end

end ParameterExpansion
