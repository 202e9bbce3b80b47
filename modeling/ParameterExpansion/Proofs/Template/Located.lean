import Mathlib.Data.List.Pairwise
import ParameterExpansion.Proofs.Grammar.Spans
import ParameterExpansion.Proofs.Template.Accepted

/-!
# Where the references of a template are

The references of a template, in the order in which they are listed, are at the dollar signs of its
text that an opening brace or the start of a name follows, from left to right. Each is the slice of
the text at its position; of two slices either one is behind the other, or one lies inside the
other, which is the case for the references in the arguments of a reference
(`Template.references_located`).
-/

namespace ParameterExpansion

/-- A dollar sign stands at an index of a text, with an opening brace or the start of a name behind
it. -/
def IsTrigger (s : Text) (i : Nat) : Prop :=
  s[i]? = some '$' ∧ ∃ c, s[i + 1]? = some c ∧ (c = '{' ∨ isNameStart c = true)

/-- References start at the triggers of a text. -/
theorem isTrigger_iff {s : Text} {i : Nat} : IsTrigger s i ↔ OpensReference (s.drop i) := by
  have hdrop : ∀ j, (s.drop i)[j]? = s[i + j]? := fun j => List.getElem?_drop
  constructor
  · rintro ⟨hdollar, c, hc, hopens⟩
    rw [← Nat.add_zero i, ← hdrop] at hdollar
    rw [← hdrop] at hc
    rcases heq : s.drop i with _ | ⟨a, _ | ⟨b, rest⟩⟩ <;> rw [heq] at hdollar hc
    · cases hdollar
    · cases hc
    · cases hdollar
      cases hc
      exact ⟨c, rest, rfl, hopens⟩
  · rintro ⟨c, rest, heq, hopens⟩
    rw [IsTrigger, ← hdrop, heq]
    have hdollar := hdrop 0
    rw [heq] at hdollar
    exact ⟨hdollar.symm, c, rfl, hopens⟩

namespace Reference

/-- The slice of a reference lies strictly inside that of another one. -/
def IsInside (r s : Reference) : Prop := s.position < r.position ∧ r.stop < s.stop

/-- The slices of two references have no character in common: one is behind the other. -/
def IsDisjoint (r s : Reference) : Prop := r.stop ≤ s.position ∨ s.stop ≤ r.position

/-- No slice stops before it starts. -/
theorem position_le_stop (r : Reference) : r.position ≤ r.stop := by
  rw [stop]
  omega

/-- References at offsets of a text have records, at these offsets. -/
theorem exists_mapM_record? {rs : List Reference} {offsets : List Nat}
    (h : rs.map (·.position) = offsets.map Nat.cast) :
    ∃ records, rs.mapM record? = some records ∧ records.map (·.position) = offsets := by
  induction rs generalizing offsets with
  | nil =>
    obtain rfl := List.map_eq_nil_iff.1 h.symm
    exact ⟨[], rfl, rfl⟩
  | cons r rs ih =>
    obtain ⟨p, offsets, rfl, hp, hrest⟩ := List.map_eq_cons_iff.1 h.symm
    have hp : r.position = (p : Int) := hp.symm
    have hr : r.record? = some ⟨r.name, r.symbol, r.source, p⟩ := by
      rw [record?, hp]
    obtain ⟨records, hrecords, hoffsets⟩ := ih hrest.symm
    refine ⟨⟨r.name, r.symbol, r.source, p⟩ :: records, ?_, congrArg _ hoffsets⟩
    rw [List.mapM_cons, hr, hrecords]
    rfl

/-- References that are listed in order are disjoint or lie in each other, and those inside a
reference are those in its arguments. -/
theorem isDisjoint_or_isInside {rs : List Reference}
    (horder : rs.Pairwise fun r s => r.stop ≤ s.position ∨ s ∈ Node.referencesEach r.arguments)
    (hbetween : ∀ r ∈ rs, ∀ s ∈ Node.referencesEach r.arguments, s.IsInside r)
    {r s : Reference} (hr : r ∈ rs) (hs : s ∈ rs) :
    (r ≠ s → r.IsDisjoint s ∨ r.IsInside s ∨ s.IsInside r) ∧
      (s.IsInside r ↔ s ∈ Node.referencesEach r.arguments) := by
  have hsymm : Std.Symm fun r s : Reference =>
      (r.stop ≤ s.position ∨ s ∈ Node.referencesEach r.arguments) ∨
        (s.stop ≤ r.position ∨ r ∈ Node.referencesEach s.arguments) := ⟨fun _ _ => Or.symm⟩
  have hboth : rs.Pairwise fun r s : Reference =>
      (r.stop ≤ s.position ∨ s ∈ Node.referencesEach r.arguments) ∨
        (s.stop ≤ r.position ∨ r ∈ Node.referencesEach s.arguments) := horder.imp Or.inl
  have hcases := hboth.forall hr hs
  refine ⟨fun hne => ?_, fun hinside => ?_, hbetween r hr s⟩
  · rcases hcases hne with (hstop | hmem) | (hstop | hmem)
    · exact .inl (.inl hstop)
    · exact .inr (.inr (hbetween r hr s hmem))
    · exact .inl (.inr hstop)
    · exact .inr (.inl (hbetween s hs r hmem))
  · have hsstop := s.position_le_stop
    obtain ⟨hposition, hstop⟩ := hinside
    have hne : r ≠ s := by
      rintro rfl
      omega
    rcases hcases hne with (hrs | hmem) | (hsr | hmem)
    · omega
    · exact hmem
    · omega
    · have hlt := (hbetween s hs r hmem).1
      omega

end Reference

namespace Template

/-- The records of a template's references are at the triggers of its text, from left to right; each
reference is the slice of the text at its position; and two references are disjoint, or one lies
inside the other, which are exactly those in the arguments of the other. -/
theorem references_located {limit : NestingLimit} {s : Text} {t : Template}
    (ht : Template.parse limit s = .ok t) :
    (∃ records, t.records? = some records ∧
      t.references.map (·.position) = records.map (fun record => (record.position : Int)) ∧
      (records.map (·.position)).Pairwise (· < ·) ∧
      ∀ i, i ∈ records.map (·.position) ↔ IsTrigger s i) ∧
    (∀ r ∈ t.references, ∃ i : Nat, r.position = i ∧ (s.drop i).take r.source.length = r.source) ∧
    (∀ r ∈ t.references, ∀ q ∈ t.references,
      (r ≠ q → r.IsDisjoint q ∨ r.IsInside q ∨ q.IsInside r) ∧
      (q.IsInside r ↔ q ∈ Node.referencesEach r.arguments)) := by
  obtain ⟨-, d, -, ps, hps, hroot⟩ := parse_eq_ok_iff.1 ht
  have hreferences : t.references = ps.flatMap Piece.references := by
    rw [Template.references, hroot, Node.references_ofPieces]
  have hstands := hps.standsIn
  have hpositions : t.references.map (·.position) = (triggers 0 s).map Nat.cast := by
    have := hps.triggers_eq id
    rw [List.append_nil] at this
    rw [hreferences, this]
    exact (List.append_nil _).symm
  obtain ⟨records, hrecords, hoffsets⟩ := Reference.exists_mapM_record? hpositions
  rw [← hreferences] at hstands
  refine ⟨⟨records, hrecords, ?_, ?_, fun i => ?_⟩, fun r hr => ?_, fun r hr q hq => ?_⟩
  · rw [hpositions, ← hoffsets, List.map_map]
    rfl
  · rw [hoffsets]
    exact pairwise_triggers 0 s
  · rw [hoffsets, isTrigger_iff, ← mem_triggers_iff (p := 0), Nat.zero_add]
  · obtain ⟨before, behind, e, rfl, hposition, -⟩ := hstands r hr
    refine ⟨before.length, by rw [hposition, Nat.zero_add], ?_⟩
    rw [List.drop_left, List.take_left]
  · have horder := hps.pairwise_references
    rw [← hreferences] at horder
    refine Reference.isDisjoint_or_isInside horder (fun r hr q hq => ?_) hr hq
    obtain ⟨_, _, e, -, -, hrefers, -⟩ := hstands r hr
    exact hrefers.between hq

/-- In the specimen, whose escapes hide no dollar sign, one reference lies inside the other. -/
theorem references_located_specimen :
    ∃ t : Template, Template.parse ⟨2, by decide, by decide⟩ Node.specimen.print = .ok t ∧
      (∃ records, t.records? = some records ∧
        ∀ i, i ∈ records.map (·.position) ↔ IsTrigger Node.specimen.print i) ∧
      ∃ r ∈ t.references, ∃ q ∈ t.references, r.position = 1 ∧ q.position = 10 ∧ q.IsInside r := by
  obtain ⟨⟨records, hrecords, -, -, htriggers⟩, -, hinside⟩ := references_located parse_specimen
  refine ⟨_, parse_specimen, ⟨records, hrecords, htriggers⟩, _, List.mem_cons_self, _,
    List.mem_cons_of_mem _ List.mem_cons_self, rfl, rfl, ?_⟩
  exact (hinside _ List.mem_cons_self _ (List.mem_cons_of_mem _ List.mem_cons_self)).2.2
    List.mem_cons_self

end Template

end ParameterExpansion
