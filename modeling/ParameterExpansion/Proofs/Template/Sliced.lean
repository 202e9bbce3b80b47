import ParameterExpansion.Proofs.Evaluation.Unassigned
import ParameterExpansion.Proofs.Grammar.Canonical
import ParameterExpansion.Proofs.Grammar.Sliced
import ParameterExpansion.Proofs.Operator.Slices
import ParameterExpansion.Proofs.Parser.Advancing
import ParameterExpansion.Proofs.Template.Accepted

/-!
# Slices of templates

A name, a colon and fields in braces are read as a slice unless a sign follows the colon
(`Template.exists_parse_slice_iff`), and a slice gives what its operator does
(`Template.IsSlice.expandOver_eq`). What that is, `Template.slices_exact` says without reading the
fields or cutting the value up. The two slices of a value at a position make it up if both are read
as slices; for a sign behind the colon this fails (`Template.slice_parts_need_no_sign`).
-/

namespace ParameterExpansion

section
variable {written name offset : Text} {extent : Option Text} {n : Int} {c : Char}

/-! ## Fields in templates -/

/-- A field is written with blanks, digits and signs. -/
theorem Spells.mem (h : Spells written n) (hc : c ∈ written) :
    Text.isBlank c = true ∨ Text.isDigit c = true ∨ c = '+' ∨ c = '-' := by
  cases h with
  | blank hblank => exact .inl (hblank c hc)
  | @numeral left right sign _ zeros hleft hright hsign hlimit =>
    rcases List.mem_append.1 hc with hc | hc
    · rcases List.mem_append.1 hc with hc | hc
      · exact .inl (hleft c hc)
      rcases List.mem_append.1 hc with hc | hc
      · cases hsign with
        | none => cases hc
        | plus => exact .inr (.inr (.inl (List.mem_singleton.1 hc)))
        | minus => exact .inr (.inr (.inr (List.mem_singleton.1 hc)))
      · exact .inr (.inl ((Text.areDigits_zeros zeros _).1.2 c hc))
    · exact .inl (hright c hc)

/-- Fields that write integers mean nothing to a template. -/
theorem Spells.isField (h : Spells written n) : IsField written := by
  intro c hc
  have hmem := h.mem hc
  simp only [List.mem_cons, List.not_mem_nil, or_false]
  rintro (rfl | rfl | rfl | rfl | rfl | rfl) <;> revert hmem <;> decide

/-- A space may stand in front of a field. -/
theorem Spells.cons_space (h : Spells written n) : Spells (' ' :: written) n := by
  have hspace : ∀ {blanks : Text}, (∀ c ∈ blanks, Text.isBlank c = true) →
      ∀ c ∈ ' ' :: blanks, Text.isBlank c = true := fun hblank =>
    List.forall_mem_cons.2 ⟨by decide, hblank⟩
  cases h with
  | blank hblank => exact .blank (hspace hblank)
  | numeral hleft hright hsign hlimit => exact .numeral (hspace hleft) hright hsign hlimit

/-- A field behind a space does not start with a sign. -/
theorem startsUnsigned_cons_space (written : Text) : StartsUnsigned (' ' :: written) := by
  rintro _ ⟨⟩
  decide

/-- The slice of a value up to a position and the one from there on are its two parts. -/
theorem operate_parts {value : Option Text} {zero front back : Text} {k : Int}
    (hzero : Spells zero 0) (hfront : Spells front k) (hback : Spells back k)
    (hle : -(value.getD []).length ≤ k) : ∃ before behind,
      operate Operator.substring.symbol value [zero, front] = .ok before ∧
      operate Operator.substring.symbol value [back] = .ok behind ∧
      before ++ behind = value.getD [] := by
  obtain ⟨before, behind, hbefore, hbehind, happend⟩ := Action.substringOf_parts
    (spells_iff_writesInteger.1 hzero) (spells_iff_writesInteger.1 hfront)
    (spells_iff_writesInteger.1 hback) hle
  exact ⟨before, behind, (Action.operate_substring value zero (some front)).trans hbefore,
    (Action.operate_substring value back none).trans hbehind, happend⟩

/-! ## References to slices -/

/-- The result of an operator for an occurrence is what it makes of the value. -/
theorem Occurrence.result_of_operate {o : Occurrence} {value : Option Text} {text : Text}
    (h : operate o.symbol value o.arguments = .ok text) : o.result value = .ok text := by
  rw [result, h]

/-- Arguments that are texts are their own values. -/
theorem Node.evaluateEach_texts {σ : Type} (visit : Occurrence → Run σ Text) (ts : List Text) :
    evaluateEach visit (ts.map .text) = pure ts := by
  induction ts with
  | nil => rfl
  | cons t ts ih =>
    rw [List.map_cons, evaluateEach, evaluate, ih, pure_bind, pure_bind]

/-- A reference with texts as arguments is visited right away. -/
theorem Node.evaluate_reference_texts {σ : Type} (visit : Occurrence → Run σ Text)
    (name symbol : Text) (ts : List Text) (source : Text) (position : Int) :
    (reference name symbol (ts.map .text) source position).evaluate visit =
      visit ⟨name, symbol, ts, source⟩ := by
  rw [evaluate, evaluateEach_texts, pure_bind]

/-- A template is a slice of a variable with these fields. -/
def Template.IsSlice (t : Template) (name : Text) (fields : List Text) : Prop :=
  ∃ source position,
    t.root = .reference name Operator.substring.symbol (fields.map .text) source position

namespace Template
variable {value : Option Text} {r : Resolver} {t : Template} {fields : List Text} {text : Text}

/-- A name, a colon and fields in braces are read as a slice exactly when no sign follows the
colon. -/
theorem exists_parse_slice_iff (limit : NestingLimit) (hname : IsName name) (ho : IsField offset)
    (hl : ∀ written ∈ extent, IsField written) :
    (∃ t, Template.parse limit (inBraces (name ++ (':' :: sliceFields offset extent))) = .ok t ∧
      t.IsSlice name (offset :: extent.toList)) ↔ StartsUnsigned offset := by
  constructor
  · rintro ⟨t, ht, source, position, hroot⟩ c hc
    obtain ⟨-, d, -, hderives⟩ := parse_eq_ok_iff.1 ht
    rw [hroot] at hderives
    have hends := hderives.symbolEnds ⟨name, _, _, source, position⟩ List.mem_cons_self c
    obtain ⟨rest, rfl⟩ := List.head?_eq_some_iff.1 hc
    have hplain : specialFor Operator.substring.symbol c = false := by
      rw [specialFor, separatorOf_symbol]
      exact ho.escapes_eq_false false c List.mem_cons_self
    have hwritten : (Node.writtenArguments Operator.substring.symbol
        (((c :: rest) :: extent.toList).map .text) ++ ['}']).head? = some c := by
      cases extent <;> simp [Node.writtenArguments, Node.written, Text.backslashed, hplain]
    constructor
    · rintro rfl
      exact hends .defaultEmpty hwritten rfl
    · rintro rfl
      exact hends .alternate hwritten rfl
  · intro hsign
    exact ⟨⟨_, _⟩, parse_eq_ok_iff.2 ⟨rfl, 1, limit.one_le, derives_slice hname ho hl hsign⟩,
      _, _, rfl⟩

/-- A slice gives what its operator makes of the value of the variable. -/
theorem IsSlice.expandOver_eq (h : t.IsSlice name fields) (hvalue : r.ask name = .ok value)
    (htext : operate Operator.substring.symbol value fields = .ok text) :
    t.expandOver .standard r = (.ok text, r) := by
  obtain ⟨source, position, hroot⟩ := h
  rw [expandOver, expand, hroot, Node.evaluate_reference_texts]
  refine (Mode.outcomeIn_standard hvalue rfl).trans ?_
  rw [Occurrence.result_of_operate htext]
  rfl

/-- Slices of a value are the characters from their start on, and before their stop if they have a
length; an unset variable has the empty value. The start is the offset; or, when that is negative,
so far from the end, but not in front of the value. The stop is so many characters behind the start;
or, when the length is negative, so far from the end. Behind the value a slice is empty, and one
that would stop in front of its start is given up. The integers are written in any way that is
accepted. A name, a colon and fields in braces are read as a slice if no sign stands right behind
the colon, which would make another operator of it; a space keeps them apart. So the slice of a
variable up to a position and the one from there on make up its value, when they are written like
this. -/
theorem slices_exact {x : Text} (hx : value.getD [] = x) :
    (∀ field written n, Action.integerField field written = .ok n ↔ Spells written n) ∧
    (∀ offset o start, Spells offset o →
      start = (if 0 ≤ o then o else max (x.length + o) 0) →
      operate Operator.substring.symbol value [offset] = .ok (x.between start x.length) ∧
      ∀ extent l, Spells extent l → ∀ result,
        operate Operator.substring.symbol value [offset, extent] = result →
        (x.length < start → result = .ok []) ∧
        (start ≤ x.length → 0 ≤ l → result = .ok (x.between start (start + l))) ∧
        (start ≤ x.length → l < 0 → start ≤ x.length + l →
          result = .ok (x.between start (x.length + l))) ∧
        ∀ fault, result = .error fault ↔ (start ≤ x.length ∧ l < 0 ∧ x.length + l < start) ∧
          fault = .evaluation ⟨.negativeSlice extent.trimmed, none⟩) ∧
    (∀ limit name offset o extent, IsName name → Spells offset o →
      (∀ written ∈ extent, ∃ l, Spells written l) →
      ((∃ t, Template.parse limit (inBraces (name ++ ':' :: sliceFields offset extent)) = .ok t ∧
        t.IsSlice name (offset :: extent.toList)) ↔ StartsUnsigned offset)) ∧
    (∀ offset o, Spells offset o → Spells (' ' :: offset) o ∧ StartsUnsigned (' ' :: offset)) ∧
    ∀ limit name r zero front back k, IsName name → r.ask name = .ok value →
      Spells zero 0 → Spells front k → Spells back k → -x.length ≤ k →
      StartsUnsigned zero → StartsUnsigned back → ∃ t u before behind,
        Template.parse limit (inBraces (name ++ ':' :: sliceFields zero (some front))) = .ok t ∧
        Template.parse limit (inBraces (name ++ ':' :: sliceFields back none)) = .ok u ∧
        t.expandOver .standard r = (.ok before, r) ∧ u.expandOver .standard r = (.ok behind, r) ∧
        before ++ behind = x := by
  subst hx
  have hspells : ∀ {written n}, Spells written n → WritesInteger written n :=
    spells_iff_writesInteger.1
  refine ⟨fun _ _ _ => Action.integerField_eq_ok_iff.trans spells_iff_writesInteger.symm,
    fun offset o start ho hstart => ⟨?_, ?_⟩, ?_,
    fun offset o ho => ⟨ho.cons_space, startsUnsigned_cons_space offset⟩, ?_⟩
  · exact (Action.operate_substring value offset none).trans
      (Action.substringOf_between (hspells ho) hstart)
  · rintro extent l hl _ rfl
    have hslice : operate Operator.substring.symbol value [offset, extent] = _ :=
      (Action.operate_substring value offset (some extent)).trans
        (Action.substringOf_extent (hspells ho) (hspells hl) hstart)
    rw [hslice]
    refine ⟨fun hbehind => ?_, fun hwithin hcount => ?_, fun hwithin hcount hstop => ?_,
      fun fault => ?_⟩
    · rw [if_pos hbehind]
    · rw [if_neg (by omega), if_pos hcount]
    · rw [if_neg (by omega), if_neg (by omega), if_pos hstop]
    · split
      · exact iff_of_false nofun (by omega)
      split
      · exact iff_of_false nofun (by omega)
      split
      · exact iff_of_false nofun (by omega)
      · rw [and_iff_right (by omega), Except.error.injEq]
        exact eq_comm
  · intro limit name offset o extent hname ho hl
    refine exists_parse_slice_iff limit hname ho.isField fun written hwritten => ?_
    obtain ⟨l, hl⟩ := hl written hwritten
    exact hl.isField
  · intro limit name r zero front back k hname hvalue hzero hfront hback hle hunsigned hunsigned'
    have hextent : ∀ written ∈ some front, IsField written := by
      rintro _ ⟨⟩
      exact hfront.isField
    have hnone : ∀ written ∈ (none : Option Text), IsField written := nofun
    obtain ⟨t, ht, hslice⟩ :=
      (exists_parse_slice_iff limit hname hzero.isField hextent).2 hunsigned
    obtain ⟨u, hu, hslice'⟩ :=
      (exists_parse_slice_iff limit hname hback.isField hnone).2 hunsigned'
    obtain ⟨before, behind, hbefore, hbehind, happend⟩ := operate_parts hzero hfront hback hle
    exact ⟨t, u, before, behind, ht, hu, hslice.expandOver_eq hvalue hbefore,
      hslice'.expandOver_eq hvalue hbehind, happend⟩

/-- Slices of `hello`: the last two characters, all but the first and the last one, and one that
would stop in front of its start. The parts at two from the end make up the whole; the space keeps
the sign from the colon. -/
theorem slices_exact_hello :
    operate Operator.substring.symbol (some "hello".toList) [" -2".toList] = .ok "lo".toList ∧
    operate Operator.substring.symbol (some "hello".toList) ["1".toList, "-1".toList] =
      .ok "ell".toList ∧
    operate Operator.substring.symbol (some "hello".toList) ["3".toList, " -4".toList] =
      .error (.evaluation ⟨.negativeSlice "-4".toList, none⟩) ∧
    ∃ t u before behind,
      Template.parse ⟨1, by decide, by decide⟩ "$\x7bx:0:-2\x7d".toList = .ok t ∧
      Template.parse ⟨1, by decide, by decide⟩ "$\x7bx: -2\x7d".toList = .ok u ∧
      t.expandOver .standard (.function fun _ => .ok (some "hello".toList)) =
        (.ok before, .function fun _ => .ok (some "hello".toList)) ∧
      u.expandOver .standard (.function fun _ => .ok (some "hello".toList)) =
        (.ok behind, .function fun _ => .ok (some "hello".toList)) ∧
      before ++ behind = "hello".toList := by
  obtain ⟨hread, hslices, -, hspace, hparts⟩ := @slices_exact (some "hello".toList) _ rfl
  have hspells : ∀ {written n}, Action.integerField .offset written = .ok n → Spells written n :=
    (hread .offset _ _).1
  refine ⟨?_, ?_, ?_, ?_⟩
  · exact (hslices " -2".toList (-2) 3 (hspells rfl) rfl).1
  · obtain ⟨-, hextent⟩ := hslices "1".toList 1 1 (hspells rfl) rfl
    exact (hextent "-1".toList (-1) (hspells rfl) _ rfl).2.2.1 (by decide) (by decide) (by decide)
  · obtain ⟨-, hextent⟩ := hslices "3".toList 3 3 (hspells rfl) rfl
    exact ((hextent " -4".toList (-4) (hspells rfl) _ rfl).2.2.2 _).2 ⟨by decide, rfl⟩
  · obtain ⟨hback, hunsigned⟩ := hspace "-2".toList (-2) (hspells rfl)
    exact hparts _ ['x'] _ "0".toList "-2".toList " -2".toList (-2) (by decide) rfl (hspells rfl)
      (hspells rfl) hback (by decide) (by rintro _ ⟨⟩; decide) hunsigned

/-- Two from the end the parts of `hello` do not make up the whole if a minus stands right behind
the first colon: it makes of the second one a reference to the value itself. -/
theorem slice_parts_need_no_sign :
    Spells "0".toList 0 ∧ Spells "-2".toList (-2) ∧ -("hello".toList.length : Int) ≤ -2 ∧
    ∃ t u, Template.parse ⟨1, by decide, by decide⟩ "${x:0:-2}".toList = .ok t ∧
      Template.parse ⟨1, by decide, by decide⟩ "${x:-2}".toList = .ok u ∧
      t.expandOver .standard (.function fun _ => .ok (some "hello".toList)) =
        (.ok "hel".toList, .function fun _ => .ok (some "hello".toList)) ∧
      u.expandOver .standard (.function fun _ => .ok (some "hello".toList)) =
        (.ok "hello".toList, .function fun _ => .ok (some "hello".toList)) ∧
      "hel".toList ++ "hello".toList ≠ "hello".toList := by
  have hspells : ∀ {written n}, Action.integerField .offset written = .ok n → Spells written n :=
    fun h => spells_iff_writesInteger.2 (Action.integerField_eq_ok_iff.1 h)
  have hfront : Template.parse ⟨1, by decide, by decide⟩ "$\x7bx:0:-2\x7d".toList =
      .ok ⟨.reference ['x'] ":".toList [.text "0".toList, .text "-2".toList]
        "$\x7bx:0:-2\x7d".toList 0, "$\x7bx:0:-2\x7d".toList⟩ :=
    Parser.parse_template_of_parseWithin 10 (by decide) rfl
  have hback : Template.parse ⟨1, by decide, by decide⟩ "$\x7bx:-2\x7d".toList =
      .ok ⟨.reference ['x'] ":-".toList [.text "2".toList] "$\x7bx:-2\x7d".toList 0,
        "$\x7bx:-2\x7d".toList⟩ :=
    Parser.parse_template_of_parseWithin 8 (by decide) rfl
  exact ⟨hspells rfl, hspells rfl, by decide, _, _, hfront, hback, rfl, rfl, by decide⟩

end Template

end

end ParameterExpansion
