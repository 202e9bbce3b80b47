import ParameterExpansion.Proofs.Evaluation.Refusal
import ParameterExpansion.Proofs.Grammar.Sliced
import ParameterExpansion.Proofs.Template.Accepted
import ParameterExpansion.Render

/-!
# What rendering captures

Rendering a text gives its expansion, or the text of the parse error or evaluation error that kept
it from being expanded, with one exception: an expansion that comes to an oversized field ends the
run. `render_captures_iff` says for every text, mode and session which of the three it is.
-/

namespace ParameterExpansion

/-- The session once a text has been read. -/
def Session.afterReading (s : Session) (source : Text) : Session :=
  { s with log := s.log ++ [.parsed source.length] }

/-- The session once an expansion has failed. -/
def Session.afterFailure (s : Session) (error : Text) : Session :=
  { s with log := s.log ++ [.expansionFailed error] }

/-- An expansion comes to an oversized field of `count` digits, in the session `t`. -/
def Template.ReachesOversized (mode : Mode) (template : Template) (s : Session) (count : Nat)
    (t : Session) : Prop :=
  ∃ o u value, Reaches mode.visit template.root s o u ∧ Session.ask o.name u = .ok value t ∧
    mode.HandsOn o value ∧ o.Oversized value count

section
variable {mode : Mode} {template : Template} {run : Run Session Text} {s t : Session}
  {fault : Fault} {text error : Text}

/-! ## Expansions -/

/-- An expansion is given up, or it comes to an oversized field. -/
theorem Template.expand_eq_error_iff :
    template.expand mode s = .error fault t ↔
      (∃ e, fault = .evaluation e ∧ template.expand mode s = .error (.evaluation e) t) ∨
      ∃ count, fault = .invalid (.tooManyDigits count) ∧
        template.ReachesOversized mode s count t := by
  constructor
  · intro h
    obtain ⟨o, u, hreaches, hvisit⟩ := Node.evaluate_eq_error_iff.1 h
    rcases Mode.isOperators_of_visit hvisit with ⟨e, rfl⟩ | ⟨reason, rfl⟩
    · exact .inl ⟨e, rfl, h⟩
    · obtain ⟨value, count, hanswer, hon, hcount, rfl⟩ := Mode.visit_eq_invalid_iff.1 hvisit
      exact .inr ⟨count, rfl, o, u, value, hreaches, hanswer, hon, hcount⟩
  · rintro (⟨e, rfl, h⟩ | ⟨count, rfl, o, u, value, hreaches, hanswer, hon, hcount⟩)
    · exact h
    · exact Node.evaluate_eq_error_iff.2 ⟨o, u, hreaches,
        Mode.visit_eq_invalid_iff.2 ⟨value, count, hanswer, hon, hcount, rfl⟩⟩

/-! ## Reporting -/

/-- A run that ends well is reported as the text that it gives. -/
theorem reporting_eq_expanded_iff :
    reporting run s = .ok (.expanded text) t ↔ run s = .ok text t := by
  unfold reporting
  split
  · next h => simp [h]
  · next h => split <;> simp [h]

/-- A run that ends with a reported fault is reported as its text. -/
theorem reporting_eq_failed_iff :
    reporting run s = .ok (.failed error) t ↔
      ∃ fault u, run s = .error fault u ∧ fault.isReported = true ∧ error = fault.text ∧
        t = u.afterFailure error := by
  unfold reporting
  split
  · next h => simp [h]
  next raised u h =>
  constructor
  · intro hreporting
    split at hreporting
    · next hreported =>
      cases hreporting
      exact ⟨raised, u, h, hreported, rfl, rfl⟩
    · cases hreporting
  · rintro ⟨fault, v, hrun, hreported, rfl, rfl⟩
    rw [h] at hrun
    cases hrun
    rw [if_pos hreported]
    rfl

/-- Any other fault is not reported. -/
theorem reporting_eq_error_iff :
    reporting run s = .error fault t ↔ run s = .error fault t ∧ fault.isReported = false := by
  unfold reporting
  split
  · next h => simp [h]
  next raised u h =>
  rw [h]
  split
  · next hreported =>
    constructor
    · intro h
      cases h
    · rintro ⟨h, hnot⟩
      cases h
      rw [hreported] at hnot
      cases hnot
  · next hnot =>
    constructor
    · intro h
      cases h
      exact ⟨rfl, Bool.eq_false_iff.2 hnot⟩
    · rintro ⟨h, -⟩
      cases h
      rfl

/-! ## Rendering -/

/-- The levels of a nesting limit are those of no other one. -/
theorem NestingLimit.ofInt_levels (limit : NestingLimit) :
    NestingLimit.ofInt limit.levels = .ok limit := by
  unfold NestingLimit.ofInt
  rw [dif_pos (by simpa using And.intro limit.one_le limit.le_deepest)]
  rfl

/-- A session reads a text as a parser does, and notes that it was read. -/
theorem Session.parse_levels (limit : NestingLimit) (source : Text) (s : Session) :
    Session.parse limit.levels source s =
      match Template.parse limit source with
      | .ok template => .ok template (s.afterReading source)
      | .error e => .error e.fault s := by
  unfold Session.parse
  rw [limit.ofInt_levels]
  dsimp only
  cases Template.parse limit source <;> rfl

/-- A parse error keeps its text as a fault. -/
theorem ParseError.text_fault (e : ParseError) : e.fault.text = e.text := rfl

/-- A text is rendered as its expansion, or as the text of the parse error or evaluation error that
kept it from being expanded. What ends the run is an oversized field, and nothing else. -/
theorem render_captures_iff (limit : NestingLimit) (flags : Flags) (source : Text) (s : Session) :
    (∀ text t, render limit.levels flags source s = .ok (.expanded text) t ↔
      ∃ template, Template.parse limit source = .ok template ∧
        template.expand flags.mode (s.afterReading source) = .ok text t) ∧
    (∀ error t, render limit.levels flags source s = .ok (.failed error) t ↔
      (∃ e, Template.parse limit source = .error e ∧ error = e.text ∧ t = s.afterFailure error) ∨
      ∃ template e u, Template.parse limit source = .ok template ∧
        template.expand flags.mode (s.afterReading source) = .error (.evaluation e) u ∧
        error = e.text ∧ t = u.afterFailure error) ∧
    (∀ fault t, render limit.levels flags source s = .error fault t ↔
      ∃ template count, Template.parse limit source = .ok template ∧
        template.ReachesOversized flags.mode (s.afterReading source) count t ∧
        fault = .invalid (.tooManyDigits count)) := by
  have hrun : (Session.parse limit.levels source >>= Template.expand flags.mode) s =
      match Template.parse limit source with
      | .ok template => template.expand flags.mode (s.afterReading source)
      | .error e => .error e.fault s := by
    show EStateM.bind _ _ s = _
    unfold EStateM.bind
    rw [Session.parse_levels]
    cases Template.parse limit source <;> rfl
  have hrender : render limit.levels flags source =
      reporting (Session.parse limit.levels source >>= Template.expand flags.mode) := rfl
  rw [hrender]
  simp only [reporting_eq_expanded_iff, reporting_eq_failed_iff, reporting_eq_error_iff, hrun]
  cases Template.parse limit source with
  | error e =>
    refine ⟨fun text t => ⟨nofun, ?_⟩, fun error t => ⟨?_, ?_⟩, fun fault t => ⟨?_, ?_⟩⟩
    · rintro ⟨template, h, -⟩
      cases h
    · rintro ⟨fault, u, hfault, -, rfl, rfl⟩
      cases hfault
      exact .inl ⟨e, rfl, e.text_fault, rfl⟩
    · rintro (⟨_, h, rfl, rfl⟩ | ⟨template, _, _, h, -⟩)
      · cases h
        exact ⟨e.fault, s, rfl, rfl, e.text_fault.symm, rfl⟩
      · cases h
    · rintro ⟨h, hnot⟩
      cases h
      cases hnot
    · rintro ⟨template, count, h, -⟩
      cases h
  | ok template =>
    refine ⟨fun text t => ⟨?_, ?_⟩, fun error t => ⟨?_, ?_⟩, fun fault t => ⟨?_, ?_⟩⟩
    · intro h
      exact ⟨template, rfl, h⟩
    · rintro ⟨_, htemplate, h⟩
      cases htemplate
      exact h
    · rintro ⟨fault, u, h, hreported, rfl, rfl⟩
      rcases Template.expand_eq_error_iff.1 h with ⟨e, rfl, h⟩ | ⟨count, rfl, -⟩
      · exact .inr ⟨template, e, u, rfl, h, rfl, rfl⟩
      · cases hreported
    · rintro (⟨e, h, -⟩ | ⟨_, e, u, htemplate, h, rfl, rfl⟩)
      · cases h
      · cases htemplate
        exact ⟨.evaluation e, u, h, rfl, rfl, rfl⟩
    · rintro ⟨h, hnot⟩
      rcases Template.expand_eq_error_iff.1 h with ⟨e, rfl, -⟩ | ⟨count, rfl, hreaches⟩
      · cases hnot
      · exact ⟨template, count, rfl, hreaches, rfl⟩
    · rintro ⟨_, count, htemplate, hreaches, rfl⟩
      cases htemplate
      exact ⟨Template.expand_eq_error_iff.2 (.inr ⟨count, rfl, hreaches⟩), rfl⟩

/-- A slice with an offset of zeros is a template. -/
theorem derives_zeros (count : Nat) :
    Derives (inBraces ('x' :: ':' :: List.replicate count '0'))
      (.reference ['x'] [':'] [.text (List.replicate count '0')]
        (inBraces ('x' :: ':' :: List.replicate count '0')) 0) 1 := by
  have hfield : IsField (List.replicate count '0') := by
    intro c hc
    rw [List.eq_of_mem_replicate hc]
    decide
  have hsign : ∀ c, (List.replicate count '0').head? = some c → c ≠ '-' ∧ c ≠ '+' := by
    intro c hc
    rw [List.eq_of_mem_replicate (List.mem_of_head? hc)]
    decide
  have hname : IsName ['x'] := by decide
  have hnone : ∀ written ∈ (none : Option Text), IsField written := nofun
  have hderives := derives_slice hname hfield hnone hsign
  rwa [sliceFields, Option.elim_none, List.append_nil] at hderives

/-- A numeral of zeros is oversized when they are more than the digits that are read. -/
theorem oversizedField_zeros {count : Nat} (h : digitLimit < count) :
    OversizedField (List.replicate count '0') count := by
  have hzeros : ∀ c ∈ List.replicate count '0', c = '0' := fun c => List.eq_of_mem_replicate
  have htrimmed : Text.trimmed (List.replicate count '0') = List.replicate count '0' :=
    Text.trimmed_of_not_blank fun c hc => by rw [hzeros c hc]; decide
  have hdigits : (List.replicate count '0').all Text.isDigit = true := by
    refine List.all_eq_true.2 fun c hc => ?_
    rw [hzeros c hc]
    decide
  refine ⟨⟨false, List.replicate count '0'⟩, ?_, List.length_replicate, h⟩
  rw [htrimmed]
  cases count with
  | zero => exact absurd h (Nat.not_lt_zero _)
  | succ count =>
    rw [List.replicate_succ] at hdigits ⊢
    rw [Text.Numeral.read?, if_neg (by decide), if_neg (by decide), Text.Numeral.ofDigits?, hdigits]
    rfl

/-- A slice whose offset is zero, written with more digits than are read, ends the run. -/
theorem render_captures_zeros :
    ∃ t, render 1 Flags.none (inBraces ('x' :: ':' :: List.replicate 4301 '0'))
      (.ofResolver (.function fun _ => .ok (some "abc".toList))) =
        .error (.invalid (.tooManyDigits 4301)) t := by
  have hparse : Template.parse ⟨1, by decide, by decide⟩
      (inBraces ('x' :: ':' :: List.replicate 4301 '0')) = .ok ⟨_, _⟩ :=
    Template.parse_eq_ok_iff.2 ⟨rfl, 1, Nat.le_refl 1, derives_zeros 4301⟩
  refine ⟨_, ((render_captures_iff ⟨1, by decide, by decide⟩ _ _ _).2.2 _ _).2
    ⟨_, 4301, hparse, ⟨_, _, some "abc".toList, .here rfl, rfl, trivial, ?_⟩, rfl⟩⟩
  exact .offset none rfl rfl (oversizedField_zeros (by decide))

end

end ParameterExpansion
