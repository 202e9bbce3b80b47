import ParameterExpansion.Proofs.Grammar.Nesting
import ParameterExpansion.Proofs.Template.Refused

/-!
# The nesting limit

What a limit changes. A template that nests no deeper than the limit is read as under any deeper
limit, one that does is refused at the first reference one level below the limit, and a malformed
text is refused as it would be anyway, unless the limit is exceeded before its error
(`Template.parse_nested`). How many references stand next to each other does not matter.
-/

namespace ParameterExpansion

/-- The words for a nesting limit that is exceeded. -/
def tooDeepMessage (levels : Nat) : Text :=
  "expansion nested deeper than ".toList ++ Text.ofNat levels ++ " levels".toList

namespace Template

section
variable {limit shallow deep : NestingLimit} {s : Text} {v : Template}

/-- A template that is read nests no deeper than the limit, and its derivation as deep as it. -/
theorem derives_of_parse (hv : Template.parse limit s = .ok v) :
    v.root.depth ≤ limit.levels ∧ Derives s v.root v.root.depth := by
  obtain ⟨-, d, hd, h⟩ := parse_eq_ok_iff.1 hv
  rw [h.depth_eq]
  exact ⟨hd, h⟩

/-- A template that nests no deeper than a limit is read under it. -/
theorem parse_shallow (hv : Template.parse deep s = .ok v)
    (hdepth : v.root.depth ≤ shallow.levels) : Template.parse shallow s = .ok v := by
  obtain ⟨hsource, -⟩ := parse_eq_ok_iff.1 hv
  exact parse_eq_ok_iff.2 ⟨hsource, _, hdepth, (derives_of_parse hv).2⟩

/-- A template that nests deeper than a limit is refused under it, at the first braced reference
one level below the limit. -/
theorem parse_tooDeep (hv : Template.parse deep s = .ok v)
    (hdepth : shallow.levels < v.root.depth) :
    ∃ q, Template.parse shallow s = .error ⟨.nestedTooDeep shallow.levels, q⟩ ∧
      IsFirstAt (shallow.levels + 1) q (v.root.leveled 0) := by
  obtain ⟨q, hrefused, hfirst⟩ := (derives_of_parse hv).2.refused_of_lt hdepth
  exact ⟨q, parse_eq_error_iff.2 hrefused, hfirst⟩

/-- A malformed text is refused with the same error under a shallower limit, unless the limit is
exceeded. -/
theorem parse_malformed (hle : shallow.levels ≤ deep.levels) {e : ParseError}
    (he : Template.parse deep s = .error e) :
    Template.parse shallow s = .error e ∨
      ∃ q, Template.parse shallow s = .error ⟨.nestedTooDeep shallow.levels, q⟩ := by
  cases hs : Template.parse shallow s with
  | ok v =>
    have hdepth := (derives_of_parse hs).1
    have hv : Template.parse deep s = .ok v := parse_shallow hs (Nat.le_trans hdepth hle)
    rw [he] at hv
    cases hv
  | error e' =>
    by_cases hcause : e'.cause = .nestedTooDeep shallow.levels
    · obtain ⟨cause, q⟩ := e'
      cases hcause
      exact .inr ⟨q, rfl⟩
    · have he' := parse_eq_error_iff.2 ((parse_eq_error_iff.1 hs).mono hle hcause)
      rw [he] at he'
      exact .inl he'.symm

/-- Braced references that fit within the limit by themselves fit next to a braced reference at any
level of a template, however many they are. -/
theorem parse_beside {level : Nat} {r : Reference} {us : List Text}
    (hv : Template.parse limit s = .ok v) (hr : (level + 1, r) ∈ v.root.leveled 0)
    (hbraced : r.IsBraced)
    (hus : ∀ u ∈ us, ∃ (t : Template) (q : Reference), Template.parse limit u = .ok t ∧
      t.root = q.node ∧ q.IsBraced ∧ level + t.root.depth ≤ limit.levels) :
    ∃ v', Template.parse limit
      (s.take r.position.toNat ++ us.flatten ++ s.drop r.position.toNat) = .ok v' := by
  obtain ⟨-, d, hd, ps, hps, hroot⟩ := parse_eq_ok_iff.1 hv
  rw [hroot, Node.leveled_ofPieces] at hr
  obtain ⟨m, hm, hflat⟩ : ∃ m, m ≤ limit.levels - level ∧ AreBraced us.flatten m := by
    refine AreBraced.flatten fun u hu => ?_
    obtain ⟨t, q, ht, hq, hbraced, hle⟩ := hus u hu
    have hderives := (derives_of_parse ht).2
    rw [hq] at hderives hle
    exact ⟨q, _, hderives, hbraced, by omega⟩
  obtain ⟨a, b, qs, e, rfl, hposition, hqs, he⟩ := hps.beside hflat hbraced 0 hr
  have hlevel := le_deepestLevel 0 hr
  rw [hps.deepestLevel_eq] at hlevel
  have htake : r.position.toNat = a.length := by omega
  rw [htake, List.take_left, List.drop_left, List.append_assoc]
  exact ⟨⟨_, _⟩, parse_eq_ok_iff.2 ⟨rfl, e, by omega, qs, hqs, rfl⟩⟩

/-- Of two limits, the shallower one accepts what the deeper one does and nests no deeper than
itself, as the same template; what nests deeper it refuses at the first braced reference one level
below itself. What the deeper one refuses it refuses too, for the same reason or because it is
exceeded. Under each limit, any number of braced references may be put next to one of a template if
they nest no deeper there than the limit allows for each of them. -/
theorem parse_nested (hle : shallow.levels ≤ deep.levels) (s : Text) :
    (∀ v, Template.parse deep s = .ok v →
      (v.root.depth ≤ shallow.levels → Template.parse shallow s = .ok v) ∧
      (shallow.levels < v.root.depth → ∃ e, Template.parse shallow s = .error e ∧
        e.cause.message = tooDeepMessage shallow.levels ∧
        IsFirstAt (shallow.levels + 1) e.position (v.root.leveled 0))) ∧
    (∀ e, Template.parse deep s = .error e →
      Template.parse shallow s = .error e ∨
      ∃ e', Template.parse shallow s = .error e' ∧
        e'.cause.message = tooDeepMessage shallow.levels) ∧
    (∀ (v : Template) (level : Nat) (r : Reference) (us : List Text),
      Template.parse deep s = .ok v → (level + 1, r) ∈ v.root.leveled 0 → r.IsBraced →
      (∀ u ∈ us, ∃ (t : Template) (q : Reference), Template.parse deep u = .ok t ∧
        t.root = q.node ∧ q.IsBraced ∧ level + t.root.depth ≤ deep.levels) →
      ∃ v', Template.parse deep
        (s.take r.position.toNat ++ us.flatten ++ s.drop r.position.toNat) = .ok v') := by
  refine ⟨fun v hv => ⟨parse_shallow hv, fun hdepth => ?_⟩, fun e he => ?_,
    fun v level r us hv hr hbraced hus => parse_beside hv hr hbraced hus⟩
  · obtain ⟨q, hrefused, hfirst⟩ := parse_tooDeep hv hdepth
    exact ⟨_, hrefused, rfl, hfirst⟩
  · rcases parse_malformed hle he with h | ⟨q, h⟩
    · exact .inl h
    · exact .inr ⟨_, h, rfl⟩

end

/-- The specimen nests two levels deep, so a limit of one level refuses its inner reference; two
levels are enough when more references stand next to that one. -/
theorem parse_nested_specimen :
    (∃ e, Template.parse ⟨1, by decide, by decide⟩ Node.specimen.print = .error e ∧
      e.cause.message = tooDeepMessage 1 ∧
      IsFirstAt 2 e.position ((Node.specimen.placed (fun _ => false) 0).leveled 0)) ∧
    ∃ v, Template.parse ⟨2, by decide, by decide⟩
      (Node.specimen.print.take 10 ++ ["$\x7bz\x7d".toList, "$\x7bz\x7d".toList].flatten ++
        Node.specimen.print.drop 10) = .ok v := by
  have hname : IsName "z".toList := by decide
  have hz : Template.parse ⟨2, by decide, by decide⟩ "$\x7bz\x7d".toList =
      .ok ⟨.reference "z".toList [] [] "$\x7bz\x7d".toList 0, "$\x7bz\x7d".toList⟩ :=
    parse_eq_ok_iff.2 ⟨rfl, 1, by decide, _, .reference (.plain hname) .nil, rfl⟩
  have hle : (⟨1, by decide, by decide⟩ : NestingLimit).levels ≤
    (⟨2, by decide, by decide⟩ : NestingLimit).levels := by decide
  obtain ⟨haccepted, -, hbeside⟩ := parse_nested hle Node.specimen.print
  obtain ⟨-, hrefused⟩ := haccepted _ parse_specimen
  refine ⟨hrefused (by rw [Node.derives_specimen.depth_eq]; decide), ?_⟩
  refine hbeside _ 1 ⟨"y".toList, [], [], "$\x7by\x7d".toList, 10⟩ _ parse_specimen
    (List.mem_cons_of_mem _ List.mem_cons_self) (by decide) fun u hu => ?_
  rw [(by simpa using hu : u = "$\x7bz\x7d".toList)]
  exact ⟨_, ⟨"z".toList, [], [], "$\x7bz\x7d".toList, 0⟩, hz, rfl, by decide, Nat.le_refl 2⟩

end Template

end ParameterExpansion
