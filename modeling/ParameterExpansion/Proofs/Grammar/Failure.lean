import ParameterExpansion.Proofs.Grammar.Surroundings

/-!
# Malformed templates

What is wrong with a text that is no template, said without a scan: `Refused levels s e` holds when
the grammar derives the start of `s` up to a braced reference that fails with the error `e`
(`Fails`). A braced reference fails by itself, for one of the causes that there are, or because a
reference in its arguments fails, whose error it then has. The position of an error lies in the text
(`Fails.le_position`, `Fails.position_le`). An error that is met before the end of the text has
nothing to do with what is behind it (`Fails.final`).
-/

namespace ParameterExpansion

/-- `Fails levels p depth t e`: in the text `t` at offset `p`, with `depth` braced references open
around it, the braced reference that `t` starts with fails with the error `e`. No more than `levels`
braced references may stand in each other. -/
inductive Fails (levels : Nat) : Nat → Nat → Text → ParseError → Prop
  /-- One braced reference too many is open. -/
  | tooDeep : levels < depth + 1 →
      Fails levels p depth ('$' :: '{' :: rest) ⟨.nestedTooDeep levels, p⟩
  /-- There is no name behind the opening brace. -/
  | noName : depth + 1 ≤ levels →
      (∀ c, rest.head? = some c → c ≠ '#' ∧ isNameStart c = false) →
      Fails levels p depth ('$' :: '{' :: rest) ⟨.expectedName, p + 2⟩
  /-- There is no name behind the symbol of the length. -/
  | noLengthName : depth + 1 ≤ levels → (∀ c, rest.head? = some c → isNameStart c = false) →
      Fails levels p depth ('$' :: '{' :: '#' :: rest) ⟨.expectedName, p + 3⟩
  /-- The text ends in a name or behind it. -/
  | openName : depth + 1 ≤ levels → IsName n →
      Fails levels p depth ('$' :: '{' :: n) ⟨.unterminated, p⟩
  /-- The text ends in the name of a variable whose length is asked for, or behind it. -/
  | openLength : depth + 1 ≤ levels → IsName n →
      Fails levels p depth ('$' :: '{' :: '#' :: n) ⟨.unterminated, p⟩
  /-- Something else than the closing brace is behind such a name. -/
  | afterLength : depth + 1 ≤ levels → IsName n → isNameChar c = false → c ≠ '}' →
      Fails levels p depth ('$' :: '{' :: '#' :: (n ++ c :: rest))
        ⟨.unexpectedCharacter c, p + 3 + n.length⟩
  /-- What is behind a name is neither the closing brace nor a symbol. -/
  | noOperator : depth + 1 ≤ levels → IsName n → isNameChar c = false → c ≠ '}' →
      (∀ op : Operator, op.symbol.head? ≠ some c) →
      Fails levels p depth ('$' :: '{' :: (n ++ c :: rest))
        ⟨.unknownOperator c, p + 2 + n.length⟩
  /-- The text ends in the arguments of an operator or behind them. -/
  | openArguments : depth + 1 + d ≤ levels → IsName n → op.IsLongest (op.symbol ++ t) →
      Arguments op (p + 2 + n.length + op.symbol.length) t [] nodes d →
      Fails levels p depth ('$' :: '{' :: (n ++ (op.symbol ++ t))) ⟨.unterminated, p⟩
  /-- Something else than the closing brace is behind an operator that takes no arguments. -/
  | afterOperator {op : Operator} : depth + 1 ≤ levels → IsName n →
      op.IsLongest (op.symbol ++ c :: rest) → op.maxArguments = 0 → c ≠ '}' →
      Fails levels p depth ('$' :: '{' :: (n ++ (op.symbol ++ c :: rest)))
        ⟨.unexpectedCharacter c, p + 2 + n.length + op.symbol.length⟩
  /-- A reference in the arguments fails. -/
  | argument : depth + 1 + d ≤ levels → IsName n → op.IsLongest (op.symbol ++ (t ++ rest)) →
      0 < op.maxArguments →
      Arguments op (p + 2 + n.length + op.symbol.length) t rest nodes d →
      Fails levels (p + 2 + n.length + op.symbol.length + t.length) (depth + 1) rest e →
      Fails levels p depth ('$' :: '{' :: (n ++ (op.symbol ++ (t ++ rest)))) e

/-- The text `s` is refused with the error `e` when no more than `levels` braced references may be
in each other: the start of `s` is derived, up to a reference that fails with `e`. -/
def Refused (levels : Nat) (s : Text) (e : ParseError) : Prop :=
  ∃ t rest ps d, s = t ++ rest ∧ Pieces .template 0 t rest ps d ∧ d ≤ levels ∧
    Fails levels t.length 0 rest e

/-- How many characters from its position on decide on an error: the opening brace does too on the
nesting. -/
def ParseCause.reach : ParseCause → Nat
  | .nestedTooDeep _ => 2
  | _ => 1

section
variable {levels p depth : Nat} {t : Text} {e : ParseError}

/-- What fails starts like a braced reference. -/
theorem Fails.exists_eq_cons (h : Fails levels p depth t e) : ∃ rest, t = '$' :: '{' :: rest := by
  cases h <;> exact ⟨_, rfl⟩

/-- What fails starts like a reference. -/
theorem Fails.opens (h : Fails levels p depth t e) : OpensReference t := by
  obtain ⟨rest, rfl⟩ := h.exists_eq_cons
  exact ⟨'{', rest, rfl, .inl rfl⟩

/-! ## The position of an error -/

/-- No error lies in front of the reference that fails. -/
theorem Fails.le_position (h : Fails levels p depth t e) : p ≤ e.position := by
  induction h with
  | tooDeep | openName | openLength | openArguments => exact Nat.le_refl _
  | noName | noLengthName | afterLength | noOperator | afterOperator => dsimp only; omega
  | argument _ _ _ _ _ _ ih => omega

/-- The position of an error is in the text or at its end. -/
theorem Fails.position_le (h : Fails levels p depth t e) : e.position ≤ p + t.length := by
  induction h with
  | tooDeep | openName | openLength | openArguments => exact Nat.le_add_right _ _
  | noName | noLengthName | afterLength | noOperator | afterOperator | argument =>
    simp only [List.length_cons, List.length_append] at *
    omega

/-- The position of an error moves along with the text. -/
theorem Fails.moved (h : Fails levels p depth t e) (k : Nat) :
    Fails levels (p + k) depth t ⟨e.cause, e.position + k⟩ := by
  have hadd : ∀ a b : Nat, a + b + k = a + k + b := fun a b => Nat.add_right_comm a b k
  induction h with
  | tooDeep hlevel => exact .tooDeep hlevel
  | noName hlevel hrest => rw [hadd]; exact .noName hlevel hrest
  | noLengthName hlevel hrest => rw [hadd]; exact .noLengthName hlevel hrest
  | openName hlevel hn => exact .openName hlevel hn
  | openLength hlevel hn => exact .openLength hlevel hn
  | afterLength hlevel hn hc hne => rw [hadd, hadd]; exact .afterLength hlevel hn hc hne
  | noOperator hlevel hn hc hne hop => rw [hadd, hadd]; exact .noOperator hlevel hn hc hne hop
  | openArguments hlevel hn hop harg =>
    exact .openArguments hlevel hn hop (harg.moved (k := k) _ (by push_cast; omega))
  | afterOperator hlevel hn hop hmax hne =>
    rw [hadd, hadd, hadd]
    exact .afterOperator hlevel hn hop hmax hne
  | argument hlevel hn hop hmax harg _ ih =>
    rw [hadd, hadd, hadd, hadd] at ih
    exact .argument hlevel hn hop hmax (harg.moved (k := k) _ (by push_cast; omega)) ih

/-! ## Errors that are final -/

/-- An error other than that of a text that ends too early depends on no more of the text than what
is in front of its position and, from there on, the characters that it reaches to. -/
theorem Fails.final (h : Fails levels p depth t e) (hcause : e.cause ≠ .unterminated)
    (hposition : e.position ≠ p + t.length) :
    ∃ u v, t = u ++ v ∧ p + u.length = e.position + e.cause.reach ∧
      ∀ w, Fails levels p depth (u ++ w) e := by
  induction h with
  | tooDeep hlevel => exact ⟨['$', '{'], _, rfl, rfl, fun w => .tooDeep hlevel⟩
  | @noName depth p rest hlevel hrest =>
    cases rest with
    | nil => exact absurd rfl hposition
    | cons c rest => exact ⟨['$', '{', c], rest, rfl, rfl, fun w => .noName hlevel hrest⟩
  | @noLengthName depth p rest hlevel hrest =>
    cases rest with
    | nil => exact absurd rfl hposition
    | cons c rest => exact ⟨['$', '{', '#', c], rest, rfl, rfl, fun w => .noLengthName hlevel hrest⟩
  | openName | openLength | openArguments => exact absurd rfl hcause
  | @afterLength depth n c p rest hlevel hn hc hne =>
    refine ⟨'$' :: '{' :: '#' :: (n ++ [c]), rest, by simp, ?_, fun w => ?_⟩
    · simp only [List.length_cons, List.length_append, List.length_nil, ParseCause.reach]
      omega
    · simpa using @Fails.afterLength levels depth n c p w hlevel hn hc hne
  | @noOperator depth n c p rest hlevel hn hc hne hop =>
    refine ⟨'$' :: '{' :: (n ++ [c]), rest, by simp, ?_, fun w => ?_⟩
    · simp only [List.length_cons, List.length_append, List.length_nil, ParseCause.reach]
      omega
    · simpa using @Fails.noOperator levels depth n c p w hlevel hn hc hne hop
  | @afterOperator depth n c rest p op hlevel hn hop hmax hne =>
    refine ⟨'$' :: '{' :: (n ++ (op.symbol ++ [c])), rest, by simp, ?_, fun w => ?_⟩
    · simp only [List.length_cons, List.length_append, List.length_nil, ParseCause.reach]
      omega
    · have hop : op.IsLongest (op.symbol ++ c :: w) := hop.congr_head? rfl
      simpa using @Fails.afterOperator levels depth n c w p op hlevel hn hop hmax hne
  | @argument depth d n op p t rest nodes e hlevel hn hop hmax harg hfails ih =>
    obtain ⟨u, v, rfl, hlength, hw⟩ := ih hcause (by
      simp only [List.length_cons, List.length_append] at hposition ⊢
      omega)
    refine ⟨'$' :: '{' :: (n ++ (op.symbol ++ (t ++ u))), v, by simp, ?_, fun w => ?_⟩
    · simp only [List.length_cons, List.length_append] at hlength ⊢
      omega
    · -- Both rests start with the dollar sign of the reference that fails.
      have hhead : (u ++ w).head? = (u ++ v).head? := by
        obtain ⟨rest, hrest⟩ := hfails.exists_eq_cons
        obtain ⟨rest', hrest'⟩ := (hw w).exists_eq_cons
        rw [hrest, hrest']
        rfl
      have hop := hop.congr_head? (head?_append_congr t hhead)
      simpa using Fails.argument hlevel hn hop hmax (harg.congr_behind _ hhead) (hw w)

end

namespace Refused

section
variable {levels : Nat} {s : Text} {e : ParseError}

/-- The position of an error is in the text or at its end. -/
theorem position_le (h : Refused levels s e) : e.position ≤ s.length := by
  obtain ⟨t, rest, ps, d, rfl, -, -, hfails⟩ := h
  rw [List.length_append]
  exact hfails.position_le

/-- An error other than that of a text that ends too early is the error of every text that starts
alike. -/
theorem final (h : Refused levels s e) (hcause : e.cause ≠ .unterminated)
    (hposition : e.position ≠ s.length) {w : Text}
    (hw : s.take (e.position + e.cause.reach) <+: w) : Refused levels w e := by
  obtain ⟨t, rest, ps, d, rfl, hps, hd, hfails⟩ := h
  rw [List.length_append] at hposition
  obtain ⟨u, v, rfl, hlength, hfinal⟩ := hfails.final hcause hposition
  have htake : (t ++ (u ++ v)).take (e.position + e.cause.reach) = t ++ u := by
    rw [← List.append_assoc, ← hlength, ← List.length_append, List.take_left]
  rw [htake] at hw
  obtain ⟨behind, rfl⟩ := hw
  have hhead : (u ++ behind).head? = (u ++ v).head? := by
    obtain ⟨rest, hrest⟩ := hfails.exists_eq_cons
    obtain ⟨rest', hrest'⟩ := (hfinal behind).exists_eq_cons
    rw [hrest, hrest']
    rfl
  exact ⟨t, u ++ behind, ps, d, List.append_assoc _ _ _, hps.congr_behind _ hhead, hd,
    hfinal behind⟩

end

end Refused

end ParameterExpansion
