import ParameterExpansion.Proofs.Grammar.Completion
import ParameterExpansion.Proofs.Scanner.Failure
import ParameterExpansion.Proofs.Template.Accepted

/-!
# The refused texts

A parser refuses exactly the texts that the grammar refuses, with the same error
(`Template.parse_eq_error_iff`). The error of a text says how far the text could still have become a
template (`Template.parse_error_located`): up to its end, when the error is there or is that of an
open reference, and no further than the position of the error otherwise.
-/

namespace ParameterExpansion

/-- An open reference is reported in words of its own. -/
theorem ParseCause.message_eq_iff {cause : ParseCause} :
    cause.message = "unterminated expansion".toList ↔ cause = .unterminated := by
  constructor
  · intro h
    cases cause with
    | unterminated => rfl
    | expectedName =>
      have h : "expected variable name".toList = "unterminated expansion".toList := h
      simp at h
    | nestedTooDeep limit =>
      have h : "expansion nested deeper than ".toList ++ Text.ofNat limit ++ " levels".toList =
        "unterminated expansion".toList := h
      simp at h
    | unknownOperator c =>
      have h : "unknown operator ".toList ++ Text.quoted [c] = "unterminated expansion".toList := h
      simp at h
    | unexpectedCharacter c =>
      have h : "unexpected character ".toList ++ Text.quoted [c] =
        "unterminated expansion".toList := h
      simp at h
  · rintro rfl
    rfl

/-- A parser refuses what the grammar does, whatever it read before. -/
theorem Parser.parse_eq_error_iff {p : Parser} {s : Text} {e : ParseError} :
    (p.parse s).1 = .error e ↔ Refused p.limit.levels s e := by
  have hparse : (p.parse s).1 = .error e ↔
      ∃ t, Scanner.pieces p.limit .template ⟨s, 0, 0⟩ = .error ⟨e, t⟩ := by
    cases hscan : Scanner.pieces p.limit .template ⟨s, 0, 0⟩ with
    | ok read => simp [parse, reset, scanner, hscan]
    | error halt =>
      obtain ⟨error, t⟩ := halt
      simp [parse, reset, scanner, hscan]
  rw [hparse]
  constructor
  · rintro ⟨t, hscan⟩
    obtain ⟨u, behind, ps, d, rfl, hps, hd, hfails⟩ :=
      Scanner.pieces_failureSound s _ _ _ _ hscan Context.regular_template (Nat.zero_le _)
    rw [Nat.zero_add] at hd hfails
    exact ⟨u, behind, ps, d, rfl, hps, hd, hfails⟩
  · rintro ⟨u, behind, ps, d, rfl, hps, hd, hfails⟩
    obtain ⟨t, hbraced⟩ := hfails.braced_eq
    have hopens := hfails.opens
    obtain ⟨rest, rfl⟩ := hfails.exists_eq_cons
    rw [← Scanner.reference_cons_brace, ← Nat.zero_add u.length] at hbraced
    rw [← Nat.zero_add d] at hd
    exact ⟨t, Scanner.pieces_eq_error hps Context.regular_template hopens hd hbraced⟩

namespace Template

section
variable {limit : NestingLimit} {s : Text} {e : ParseError}

/-- A text is refused with the error that the grammar refuses it with. -/
theorem parse_eq_error_iff : Template.parse limit s = .error e ↔ Refused limit.levels s e := by
  have hmap : Template.parse limit s = .error e ↔
      ((Parser.ofLimit limit).parse s).1 = .error e := by
    unfold Template.parse
    cases ((Parser.ofLimit limit).parse s).1 <;> simp [Except.map]
  rw [hmap, Parser.parse_eq_error_iff]
  rfl

/-- The position of an error is in the text or at its end. When a reference is open, or the error is
at the end of the text, the text is the beginning of a template; the open reference is the last one
to reach past the text in it. Any other error is that of all texts that start alike, up to and with
the character at its position, or one more if the nesting is too deep. -/
theorem parse_error_located (h : Template.parse limit s = .error e) :
    e.position ≤ s.length ∧
    (e.cause.message = "unterminated expansion".toList ∨ e.position = s.length →
      ∃ u v, Template.parse limit (s ++ u) = .ok v ∧
        (e.cause.message = "unterminated expansion".toList →
          IsLastPast s.length e.position v.references)) ∧
    (e.cause.message ≠ "unterminated expansion".toList → e.position ≠ s.length →
      ∀ w, s.take (e.position + e.cause.reach) <+: w → Template.parse limit w = .error e) := by
  have hrefused := parse_eq_error_iff.1 h
  rw [ParseCause.message_eq_iff, ne_eq, ParseCause.message_eq_iff]
  refine ⟨hrefused.position_le, fun hend => ?_, fun hcause hposition w hw => ?_⟩
  · obtain ⟨u, r, d, hd, hderives, hlast⟩ := hrefused.exists_completion hend
    exact ⟨u, ⟨r, s ++ u⟩, parse_eq_ok_iff.2 ⟨rfl, d, hd, hderives⟩, hlast⟩
  · exact parse_eq_error_iff.2 (hrefused.final hcause hposition hw)

end

/-- In `$\x7bx:-$\x7by` the inner reference is open; the digit in `a$\x7b1b` starts no name. -/
theorem parse_error_located_specimens :
    (Template.parse ⟨2, by decide, by decide⟩ "$\x7bx:-$\x7by".toList = .error ⟨.unterminated, 5⟩ ∧
      ∃ u v, Template.parse ⟨2, by decide, by decide⟩ ("$\x7bx:-$\x7by".toList ++ u) = .ok v ∧
        IsLastPast 8 5 v.references) ∧
    Template.parse ⟨1, by decide, by decide⟩ "a$\x7b1b".toList = .error ⟨.expectedName, 3⟩ ∧
      ∀ w, "a$\x7b1".toList <+: w →
        Template.parse ⟨1, by decide, by decide⟩ w = .error ⟨.expectedName, 3⟩ := by
  have hopen : Template.parse ⟨2, by decide, by decide⟩ "$\x7bx:-$\x7by".toList =
      .error ⟨.unterminated, 5⟩ := by cbv
  have hdigit : Template.parse ⟨1, by decide, by decide⟩ "a$\x7b1b".toList =
      .error ⟨.expectedName, 3⟩ := by cbv
  obtain ⟨-, hcompletion, -⟩ := parse_error_located hopen
  obtain ⟨u, v, hv, hlast⟩ := hcompletion (.inl rfl)
  obtain ⟨-, -, hfinal⟩ := parse_error_located hdigit
  exact ⟨⟨hopen, u, v, hv, hlast rfl⟩, hdigit,
    hfinal (mt ParseCause.message_eq_iff.1 (by decide)) (by decide)⟩

end Template

end ParameterExpansion
