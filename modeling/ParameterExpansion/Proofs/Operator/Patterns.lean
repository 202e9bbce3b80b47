import ParameterExpansion.Operator.Action
import ParameterExpansion.Proofs.Text.Replaced

/-!
# The operators with patterns

What the operators that remove and replace literal patterns give, in terms of where the pattern
occurs in the value (`operate_patterns`). They always give a value. An unset variable counts as
empty, and so does a replacement that is not given.
-/

namespace ParameterExpansion

/-- Applies an operator to a value, with a pattern and the replacement that is given, if one is. -/
def operatePattern (op : Operator) (value : Option Text) (pattern : Text)
    (replacement : Option Text) : Except Fault Text :=
  operate op.symbol value (pattern :: replacement.toList)

/-- What an operator that replaces does with a value, a pattern and a replacement. -/
inductive Operator.Replaces : Operator → (Text → Text → Text → Text) → Prop
  /-- `/` replaces the first occurrence. -/
  | first : Replaces .replaceFirst Text.replaceFirst
  /-- `//` replaces every occurrence. -/
  | all : Replaces .replaceAll Text.replaceAll
  /-- `/#` replaces a prefix. -/
  | front : Replaces .replacePrefix Text.replacePrefix
  /-- `/%` replaces a suffix. -/
  | back : Replaces .replaceSuffix Text.replaceSuffix

section
variable (value : Option Text) (pattern : Text) (replacement : Option Text)

/-- An operator that replaces always gives a value. -/
theorem operatePattern_eq {op : Operator} {replace : Text → Text → Text → Text}
    (h : op.Replaces replace) :
    operatePattern op value pattern replacement =
      .ok (replace (value.getD []) pattern (replacement.getD [])) := by
  cases h <;> cases replacement <;> rfl

/-- `#` and `##` remove what `/#` replaces. -/
theorem operatePattern_removePrefix {op : Operator}
    (h : op = .removePrefix ∨ op = .removeLongestPrefix) :
    operatePattern op value pattern none = operatePattern .replacePrefix value pattern none := by
  have hremove : operatePattern op value pattern none =
      .ok ((value.getD []).removePrefix pattern) := by
    rcases h with rfl | rfl <;> rfl
  rw [hremove, Text.removePrefix_eq]
  exact (operatePattern_eq value pattern none .front).symm

/-- `%` and `%%` remove what `/%` replaces. -/
theorem operatePattern_removeSuffix {op : Operator}
    (h : op = .removeSuffix ∨ op = .removeLongestSuffix) :
    operatePattern op value pattern none = operatePattern .replaceSuffix value pattern none := by
  have hremove : operatePattern op value pattern none =
      .ok ((value.getD []).removeSuffix pattern) := by
    rcases h with rfl | rfl <;> rfl
  rw [hremove, Text.removeSuffix_eq]
  exact (operatePattern_eq value pattern none .back).symm

/-- `/%` is `/#` with everything read backwards. -/
theorem operatePattern_replaceSuffix :
    operatePattern .replaceSuffix value pattern replacement =
      (operatePattern .replacePrefix (value.map List.reverse) pattern.reverse
        (replacement.map List.reverse)).map List.reverse := by
  rw [operatePattern_eq _ _ _ .back, operatePattern_eq _ _ _ .front, Text.replaceSuffix_eq]
  cases value <;> cases replacement <;> rfl

/-- What the operators with patterns give. An empty pattern stands at both ends of a value, and `/`
and `//` do not replace it. Any other pattern is replaced by `/` where it occurs for the first time,
and by `//` there and then in what is behind, so replacing it by itself changes nothing. `/#` and
`/%` replace it where the value starts or ends with it. `#` and `##` are `/#` without a replacement,
`%` and `%%` are `/%` without one, and the operators on suffixes are those on prefixes with
everything read backwards. -/
theorem operate_patterns :
    (pattern = [] →
      operatePattern .replaceFirst value pattern replacement = .ok (value.getD []) ∧
      operatePattern .replaceAll value pattern replacement = .ok (value.getD []) ∧
      operatePattern .replacePrefix value pattern replacement =
        .ok (replacement.getD [] ++ value.getD []) ∧
      operatePattern .replaceSuffix value pattern replacement =
        .ok (value.getD [] ++ replacement.getD [])) ∧
    (pattern ≠ [] →
      (¬ pattern <:+: value.getD [] →
        operatePattern .replaceFirst value pattern replacement = .ok (value.getD []) ∧
        operatePattern .replaceAll value pattern replacement = .ok (value.getD [])) ∧
      (pattern <:+: value.getD [] →
        ∃ before after, (value.getD []).IsLeftmost pattern before after) ∧
      (∀ before after, (value.getD []).IsLeftmost pattern before after →
        operatePattern .replaceFirst value pattern replacement =
          .ok (before ++ replacement.getD [] ++ after) ∧
        ∃ rest, operatePattern .replaceAll (some after) pattern replacement = .ok rest ∧
          operatePattern .replaceAll value pattern replacement =
            .ok (before ++ replacement.getD [] ++ rest)) ∧
      (replacement = some pattern →
        operatePattern .replaceFirst value pattern replacement = .ok (value.getD []) ∧
        operatePattern .replaceAll value pattern replacement = .ok (value.getD []))) ∧
    (∀ after, value.getD [] = pattern ++ after →
      operatePattern .replacePrefix value pattern replacement =
        .ok (replacement.getD [] ++ after)) ∧
    (¬ pattern <+: value.getD [] →
      operatePattern .replacePrefix value pattern replacement = .ok (value.getD [])) ∧
    (∀ before, value.getD [] = before ++ pattern →
      operatePattern .replaceSuffix value pattern replacement =
        .ok (before ++ replacement.getD [])) ∧
    (¬ pattern <:+ value.getD [] →
      operatePattern .replaceSuffix value pattern replacement = .ok (value.getD [])) ∧
    (∀ op : Operator, op = .removePrefix ∨ op = .removeLongestPrefix →
      operatePattern op value pattern none = operatePattern .replacePrefix value pattern none) ∧
    (∀ op : Operator, op = .removeSuffix ∨ op = .removeLongestSuffix →
      operatePattern op value pattern none = operatePattern .replaceSuffix value pattern none) ∧
    operatePattern .replaceSuffix value pattern replacement =
      (operatePattern .replacePrefix (value.map List.reverse) pattern.reverse
        (replacement.map List.reverse)).map List.reverse ∧
    ∀ op mirrored : Operator,
      op = .removeSuffix ∧ mirrored = .removePrefix ∨
        op = .removeLongestSuffix ∧ mirrored = .removeLongestPrefix →
      operatePattern op value pattern none =
        (operatePattern mirrored (value.map List.reverse) pattern.reverse none).map
          List.reverse := by
  have hfirst := operatePattern_eq value pattern replacement .first
  have hall := operatePattern_eq value pattern replacement .all
  have hfront := operatePattern_eq value pattern replacement .front
  have hback := operatePattern_eq value pattern replacement .back
  refine ⟨fun hempty => ?_, fun hp => ⟨fun habsent => ?_, Text.exists_isLeftmost,
    fun before after h => ?_, fun hself => ?_⟩, fun after h => ?_, fun h => ?_, fun before h => ?_,
    fun h => ?_, fun op => operatePattern_removePrefix value pattern,
    fun op => operatePattern_removeSuffix value pattern,
    operatePattern_replaceSuffix value pattern replacement, ?_⟩
  · rw [hfirst, hall, hfront, hback, hempty, Text.replaceFirst_nil, Text.replaceAll_nil]
    refine ⟨rfl, rfl, rfl, ?_⟩
    rw [← List.append_nil (value.getD []), Text.replaceSuffix_append, List.append_nil]
  · rw [hfirst, hall, Text.replaceFirst_of_not_infix habsent,
      Text.replaceAll_of_not_infix habsent]
    exact ⟨rfl, rfl⟩
  · refine ⟨?_, _, operatePattern_eq (some after) pattern replacement .all, ?_⟩
    · rw [hfirst, Text.replaceFirst_of_isLeftmost hp h]
    · rw [hall, Text.replaceAll_of_isLeftmost hp h]
      rfl
  · rw [hfirst, hall, hself, Option.getD_some, Text.replaceFirst_self, Text.replaceAll_self]
    exact ⟨rfl, rfl⟩
  · rw [hfront, h, Text.replacePrefix_append]
  · rw [hfront, Text.replacePrefix_of_not_starts h]
  · rw [hback, h, Text.replaceSuffix_append]
  · rw [hback, Text.replaceSuffix_of_not_ends h]
  · intro op mirrored h
    rw [operatePattern_removeSuffix _ _ (h.imp And.left And.left),
      operatePattern_removePrefix _ _ (h.imp And.right And.right)]
    exact operatePattern_replaceSuffix value pattern none

end

/-- In `xaaaa`, replacing every `aa` by `a` replaces two of them, one behind the other, and does not
look at the result again; replacing the first one leaves the second. -/
theorem operate_patterns_specimen :
    operate Operator.replaceAll.symbol (some "xaaaa".toList) ["aa".toList, "a".toList] =
      .ok "xaa".toList ∧
    operate Operator.replaceFirst.symbol (some "xaaaa".toList) ["aa".toList, "a".toList] =
      .ok "xaaa".toList := by
  obtain ⟨-, hwhole, -⟩ := operate_patterns (some "xaaaa".toList) "aa".toList (some "a".toList)
  obtain ⟨-, hbehind, -⟩ := operate_patterns (some "aa".toList) "aa".toList (some "a".toList)
  obtain ⟨-, hnothing, -⟩ := operate_patterns (some []) "aa".toList (some "a".toList)
  obtain ⟨-, -, hwhole, -⟩ := hwhole (by decide)
  obtain ⟨-, -, hbehind, -⟩ := hbehind (by decide)
  obtain ⟨hnothing, -⟩ := hnothing (by decide)
  obtain ⟨hfirst, rest, hrest, hall⟩ :=
    hwhole "x".toList "aa".toList (Text.isLeftmost_of_cut? (by decide))
  obtain ⟨-, last, hlast, hrest'⟩ := hbehind [] [] (Text.isLeftmost_of_cut? (by decide))
  obtain ⟨-, hlast'⟩ := hnothing (by decide)
  cases hlast.symm.trans hlast'
  cases hrest.symm.trans hrest'
  exact ⟨hall, hfirst⟩

end ParameterExpansion
