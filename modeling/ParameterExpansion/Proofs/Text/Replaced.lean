import ParameterExpansion.Text.Pattern

/-!
# Replacing literal patterns

What is removed and replaced, stated without a search. `IsLeftmost` says where a pattern occurs for
the first time in a text, and a cut finds just that place (`cut?_eq_some_iff`) or none
(`cut?_eq_none_iff`). Replacing goes on behind the place and never in what was put there
(`replaceAll_of_isLeftmost`). The other operations are those on prefixes: removing is replacing by
nothing, and a suffix of a text is a prefix of the text read backwards (`replaceSuffix_eq`).
-/

namespace ParameterExpansion.Text

/-- `t` is `before`, `pattern` and `after`, and no less of `t` stands before any occurrence of
`pattern`. -/
structure IsLeftmost (t pattern before after : Text) : Prop where
  /-- The pattern occurs there. -/
  eq_append : t = before ++ pattern ++ after
  /-- It does not occur any sooner. -/
  shortest : ∀ before' after', t = before' ++ pattern ++ after' → before.length ≤ before'.length

section
variable {t pattern before after : Text}

/-! ## Leftmost occurrences -/

/-- A pattern has one leftmost occurrence at most. -/
theorem IsLeftmost.unique {before' after' : Text} (h : t.IsLeftmost pattern before after)
    (h' : t.IsLeftmost pattern before' after') : before = before' ∧ after = after' := by
  have hlength : before.length = before'.length :=
    Nat.le_antisymm (h.shortest _ _ h'.eq_append) (h'.shortest _ _ h.eq_append)
  have heq := h.eq_append.symm.trans h'.eq_append
  rw [List.append_assoc, List.append_assoc] at heq
  obtain ⟨hbefore, hbehind⟩ := List.append_inj heq hlength
  exact ⟨hbefore, List.append_cancel_left hbehind⟩

/-- A cut is made at the leftmost occurrence. -/
theorem isLeftmost_of_cut? (h : t.cut? pattern = some (before, after)) :
    t.IsLeftmost pattern before after := by
  refine ⟨eq_of_cut? h, ?_⟩
  induction t generalizing before with
  | nil =>
    intro before' after' heq
    have hnil := eq_of_cut? h
    simp only [List.nil_eq, List.append_eq_nil_iff] at hnil
    rw [hnil.1.1]
    exact Nat.zero_le _
  | cons c rest ih =>
    intro before' after' heq
    rw [cut?] at h
    split at h
    · cases h
      exact Nat.zero_le _
    next hstarts =>
    obtain ⟨⟨before₁, after₁⟩, hcut, hparts⟩ := Option.map_eq_some_iff.1 h
    cases hparts
    cases before' with
    | nil =>
      refine absurd (List.isPrefixOf_iff_prefix.2 ⟨after', ?_⟩) hstarts
      rw [heq, List.nil_append]
    | cons d before' =>
      exact Nat.succ_le_succ (ih hcut before' after' (List.cons.inj heq).2)

/-- A text is cut exactly when the pattern occurs in it. -/
theorem cut?_eq_none_iff : t.cut? pattern = none ↔ ¬ pattern <:+: t := by
  induction t with
  | nil =>
    by_cases hp : pattern = []
    · simp [cut?, hp]
    · simp [cut?, hp, List.infix_nil]
  | cons c rest ih =>
    rw [cut?, List.infix_cons_iff, not_or, ← ih]
    split
    · next hstarts => simp [List.isPrefixOf_iff_prefix.1 hstarts]
    · next hstarts =>
      rw [Option.map_eq_none_iff, and_iff_right]
      exact fun h => hstarts (List.isPrefixOf_iff_prefix.2 h)

/-- A text is cut at the leftmost occurrence, and only there. -/
theorem cut?_eq_some_iff :
    t.cut? pattern = some (before, after) ↔ t.IsLeftmost pattern before after := by
  refine ⟨isLeftmost_of_cut?, fun h => ?_⟩
  cases hcut : t.cut? pattern with
  | none => exact absurd ⟨before, after, h.eq_append.symm⟩ (cut?_eq_none_iff.1 hcut)
  | some parts =>
    obtain ⟨hbefore, hafter⟩ := (isLeftmost_of_cut? hcut).unique h
    rw [← hbefore, ← hafter]

/-- A pattern that occurs has a leftmost occurrence. -/
theorem exists_isLeftmost (h : pattern <:+: t) :
    ∃ before after, t.IsLeftmost pattern before after := by
  cases hcut : t.cut? pattern with
  | none => exact absurd h (cut?_eq_none_iff.1 hcut)
  | some parts => exact ⟨_, _, isLeftmost_of_cut? hcut⟩

/-! ## Replacing within a text -/

variable {replacement : Text}

/-- Where the pattern does not occur, nothing is replaced. -/
theorem replaceFirst_of_not_infix (h : ¬ pattern <:+: t) :
    t.replaceFirst pattern replacement = t := by
  rw [replaceFirst, cut?_eq_none_iff.2 h, ite_self]

/-- Where the pattern does not occur, nothing is replaced. -/
theorem replaceAll_of_not_infix (h : ¬ pattern <:+: t) :
    t.replaceAll pattern replacement = t := by
  rw [replaceAll]
  split
  · rfl
  split
  · next hcut => cases (cut?_eq_none_iff.2 h).symm.trans hcut
  · rfl

/-- An empty pattern is not replaced. -/
theorem replaceFirst_nil : t.replaceFirst [] replacement = t := by
  rw [replaceFirst, if_pos rfl]

/-- An empty pattern is not replaced. -/
theorem replaceAll_nil : t.replaceAll [] replacement = t := by
  rw [replaceAll, dif_pos rfl]

/-- The leftmost occurrence is replaced. -/
theorem replaceFirst_of_isLeftmost (hp : pattern ≠ []) (h : t.IsLeftmost pattern before after) :
    t.replaceFirst pattern replacement = before ++ replacement ++ after := by
  rw [replaceFirst, if_neg hp, cut?_eq_some_iff.2 h]

/-- The leftmost occurrence is replaced, and what is replaced further on lies behind it. -/
theorem replaceAll_of_isLeftmost (hp : pattern ≠ []) (h : t.IsLeftmost pattern before after) :
    t.replaceAll pattern replacement =
      before ++ replacement ++ after.replaceAll pattern replacement := by
  have hcut := cut?_eq_some_iff.2 h
  rw [replaceAll, dif_neg hp]
  split
  · next hcut' =>
    cases hcut.symm.trans hcut'
    rfl
  · next hcut' => cases hcut.symm.trans hcut'

/-- A pattern that is replaced by itself leaves the text as it is. -/
theorem replaceFirst_self (t pattern : Text) : t.replaceFirst pattern pattern = t := by
  by_cases hp : pattern = []
  · rw [hp, replaceFirst_nil]
  by_cases hoccurs : pattern <:+: t
  · obtain ⟨before, after, h⟩ := exists_isLeftmost hoccurs
    rw [replaceFirst_of_isLeftmost hp h, ← h.eq_append]
  · exact replaceFirst_of_not_infix hoccurs

/-- A pattern that is replaced by itself wherever it occurs leaves the text as it is. -/
theorem replaceAll_self (t pattern : Text) : t.replaceAll pattern pattern = t := by
  by_cases hp : pattern = []
  · rw [hp, replaceAll_nil]
  induction hlength : t.length using Nat.strongRecOn generalizing t with
  | ind n ih =>
    subst hlength
    by_cases hoccurs : pattern <:+: t
    · obtain ⟨before, after, h⟩ := exists_isLeftmost hoccurs
      have hlt := length_lt_of_cut? hp (cut?_eq_some_iff.2 h)
      rw [replaceAll_of_isLeftmost hp h, ih _ hlt after rfl, ← h.eq_append]
    · exact replaceAll_of_not_infix hoccurs

/-! ## Replacing at the ends of a text -/

/-- A prefix is replaced. -/
theorem replacePrefix_append : (pattern ++ after).replacePrefix pattern replacement =
    replacement ++ after := by
  rw [replacePrefix, if_pos (List.isPrefixOf_iff_prefix.2 (List.prefix_append _ _)),
    List.drop_left]

/-- Where a text does not start with the pattern, nothing is replaced. -/
theorem replacePrefix_of_not_starts (h : ¬ pattern <+: t) :
    t.replacePrefix pattern replacement = t := by
  rw [replacePrefix, if_neg fun hstarts => h (List.isPrefixOf_iff_prefix.1 hstarts)]

/-- Removing a prefix is replacing it by nothing. -/
theorem removePrefix_eq (t pattern : Text) :
    t.removePrefix pattern = t.replacePrefix pattern [] := rfl

/-- Removing a suffix is replacing it by nothing. -/
theorem removeSuffix_eq (t pattern : Text) :
    t.removeSuffix pattern = t.replaceSuffix pattern [] := by
  rw [removeSuffix, replaceSuffix, List.append_nil]

/-- Replacing a suffix is replacing a prefix, both read backwards. -/
theorem replaceSuffix_eq (t pattern replacement : Text) :
    t.replaceSuffix pattern replacement =
      (replacePrefix t.reverse pattern.reverse replacement.reverse).reverse := by
  rw [replaceSuffix, replacePrefix, List.isSuffixOf]
  split
  · rw [List.reverse_append, List.reverse_reverse, List.drop_reverse, List.reverse_reverse,
      List.length_reverse]
  · rw [List.reverse_reverse]

/-- A suffix is replaced. -/
theorem replaceSuffix_append : (before ++ pattern).replaceSuffix pattern replacement =
    before ++ replacement := by
  rw [replaceSuffix_eq, List.reverse_append, replacePrefix_append, List.reverse_append,
    List.reverse_reverse, List.reverse_reverse]

/-- Where a text does not end with the pattern, nothing is replaced. -/
theorem replaceSuffix_of_not_ends (h : ¬ pattern <:+ t) :
    t.replaceSuffix pattern replacement = t := by
  rw [replaceSuffix_eq, replacePrefix_of_not_starts (mt List.reverse_prefix.1 h),
    List.reverse_reverse]

end

end ParameterExpansion.Text
