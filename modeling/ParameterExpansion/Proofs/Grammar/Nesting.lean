import ParameterExpansion.Proofs.Grammar.Failure
import ParameterExpansion.Proofs.Grammar.Spans
import ParameterExpansion.Proofs.Grammar.Written

/-!
# Nesting

How deep the braced references of a tree stand in each other (`Node.depth`), and at which level
each of them does (`Node.leveled`). A derivation nests as deep as its tree (`Derives.depth_eq`).
Under a limit that it exceeds, its text is refused at the first braced reference one level below
the limit (`Derives.refused_of_lt`), and what is refused for another reason is refused for it under
every deeper limit too (`Refused.mono`). References that are put next to one of the same level nest
no deeper than they do by themselves (`Pieces.beside`).
-/

namespace ParameterExpansion

/-! ## Levels -/

/-- What a reference adds to the nesting: one level if it is braced, as its slice shows. -/
def ownLevel (source : Text) : Nat := if ['$', '{'] <+: source then 1 else 0

namespace Node

mutual

/-- The references of a tree, in their order, each with its level: the number of braced references
on the path to it, itself included. There are `around` of them around the tree. -/
def leveled (around : Nat) : Node → List (Nat × Reference)
  | .text _ => []
  | .reference name symbol arguments source position =>
    (around + ownLevel source, ⟨name, symbol, arguments, source, position⟩) ::
      leveledEach (around + ownLevel source) arguments
  | .sequence children => leveledEach around children

/-- The references of each tree of a list, with their levels. -/
def leveledEach (around : Nat) : List Node → List (Nat × Reference)
  | [] => []
  | n :: ns => leveled around n ++ leveledEach around ns

end

mutual

/-- The references with levels are the references. -/
theorem leveled_references (around : Nat) :
    ∀ n : Node, (n.leveled around).map Prod.snd = n.references
  | .text _ => rfl
  | .reference _ _ arguments source _ => by
    rw [leveled, references, List.map_cons, leveledEach_references _ arguments]
  | .sequence children => by
    rw [leveled, references, leveledEach_references _ children]

/-- The references of the trees of a list with levels are the references. -/
theorem leveledEach_references (around : Nat) :
    ∀ ns : List Node, (leveledEach around ns).map Prod.snd = referencesEach ns
  | [] => rfl
  | n :: ns => by
    rw [leveledEach, referencesEach, List.map_append, leveled_references _ n,
      leveledEach_references _ ns]

end

end Node

/-- The deepest one of some levels, and at least `around`. -/
def deepestLevel (around : Nat) (rs : List (Nat × Reference)) : Nat :=
  (rs.map Prod.fst).foldr max around

/-- How deep braced references stand in each other in a tree: the deepest level that there is on a
path of it. -/
def Node.depth (n : Node) : Nat := deepestLevel 0 (n.leveled 0)

/-- The first braced reference at a level starts at the offset `i`. -/
def IsFirstAt (level i : Nat) (rs : List (Nat × Reference)) : Prop :=
  (∃ r, (level, r) ∈ rs ∧ r.IsBraced ∧ r.position = i) ∧
    ∀ r, (level, r) ∈ rs → r.IsBraced → (i : Int) ≤ r.position

/-- The references of a piece, with their levels. -/
def Piece.leveled (around : Nat) : Piece → List (Nat × Reference)
  | .char _ => []
  | .reference node => node.leveled around

section
variable {around level i : Nat} {rs ss : List (Nat × Reference)} {r : Reference} {ns : List Node}

/-- The deepest level of two lists is that of one of them. -/
theorem deepestLevel_append :
    deepestLevel around (rs ++ ss) = max (deepestLevel around rs) (deepestLevel around ss) := by
  induction rs with
  | nil =>
    have hle : ∀ rs, around ≤ deepestLevel around rs := by
      intro rs
      induction rs with
      | nil => exact Nat.le_refl _
      | cons r rs ih => exact Nat.le_trans ih (Nat.le_max_right _ _)
    exact (Nat.max_eq_right (hle ss)).symm
  | cons r rs ih =>
    show max r.1 (deepestLevel around (rs ++ ss)) = _
    rw [ih, ← Nat.max_assoc]
    rfl

/-- The level of the braced reference around a list may be counted in or not. -/
theorem deepestLevel_cons_succ :
    deepestLevel around ((around + 1, r) :: rs) = deepestLevel (around + 1) rs := by
  induction rs with
  | nil => exact Nat.max_eq_left (Nat.le_succ _)
  | cons s rs ih =>
    show max (around + 1) (max s.1 (deepestLevel around rs)) = max s.1 (deepestLevel (around + 1) rs)
    rw [← ih, Nat.max_left_comm]
    rfl

/-- No level is deeper than the deepest one. -/
theorem le_deepestLevel (around : Nat) (h : (level, r) ∈ rs) : level ≤ deepestLevel around rs := by
  induction rs with
  | nil => cases h
  | cons s rs ih =>
    rcases List.mem_cons.1 h with rfl | h
    · exact Nat.le_max_left _ _
    · exact Nat.le_trans (ih h) (Nat.le_max_right _ _)

/-- Characters that become one text have no levels. -/
theorem Piece.leveledEach_fuse (around : Nat) (ps : List Piece) :
    Node.leveledEach around (fuse ps) = ps.flatMap (leveled around) := by
  induction ps with
  | nil => rfl
  | cons piece ps ih =>
    rw [List.flatMap_cons, ← ih]
    cases piece with
    | reference node => rfl
    | char c =>
      rw [fuse]
      split
      · next heq => rw [heq]; rfl
      · rfl

/-- The levels of a tree are those of the pieces that make it up. -/
theorem Node.leveled_ofPieces (around : Nat) (ps : List Piece) :
    (ofPieces ps).leveled around = ps.flatMap (Piece.leveled around) := by
  rw [← Piece.leveledEach_fuse, ofPieces]
  split
  · next heq => rw [heq]; rfl
  · next node heq => rw [heq, leveledEach, leveledEach, List.append_nil]
  · rfl

/-- A reference with a level in a tree is one of its references. -/
theorem Node.mem_references_of_leveled {n : Node} (h : (level, r) ∈ n.leveled around) :
    r ∈ n.references := by
  rw [← leveled_references around]
  exact List.mem_map_of_mem h

/-- A reference with a level in a list of trees is one of their references. -/
theorem Node.mem_referencesEach_of_leveled (h : (level, r) ∈ leveledEach around ns) :
    r ∈ referencesEach ns := by
  rw [← leveledEach_references around]
  exact List.mem_map_of_mem h

/-- A reference with a level in pieces is one of their references. -/
theorem Piece.mem_references_of_leveled {ps : List Piece}
    (h : (level, r) ∈ ps.flatMap (leveled around)) : r ∈ ps.flatMap references := by
  rw [← leveledEach_fuse] at h
  rw [← referencesEach_fuse]
  exact Node.mem_referencesEach_of_leveled h

/-- The first one of the references at a level is still the first one before references behind
it. -/
theorem IsFirstAt.append_right (h : IsFirstAt level i rs)
    (hss : ∀ s, (level, s) ∈ ss → (i : Int) ≤ s.position) : IsFirstAt level i (rs ++ ss) := by
  obtain ⟨⟨r, hr, hfirst⟩, hle⟩ := h
  refine ⟨⟨r, List.mem_append_left _ hr, hfirst⟩, fun s hs hbraced => ?_⟩
  rcases List.mem_append.1 hs with hs | hs
  · exact hle s hs hbraced
  · exact hss s hs

/-- References at other levels do not matter. -/
theorem IsFirstAt.append_left (h : IsFirstAt level i ss) (hrs : ∀ s, (level, s) ∉ rs) :
    IsFirstAt level i (rs ++ ss) := by
  obtain ⟨⟨r, hr, hfirst⟩, hle⟩ := h
  refine ⟨⟨r, List.mem_append_right _ hr, hfirst⟩, fun s hs => ?_⟩
  rcases List.mem_append.1 hs with hs | hs
  · exact absurd hs (hrs s)
  · exact hle s hs

end

/-! ## The levels of a derivation -/

section
variable {op : Operator} {p d levels depth : Nat} {s t after n : Text} {node r : Node}

/-- A bare reference does not start like a braced one. -/
theorem IsName.not_braced (hn : IsName n) : ¬ ['$', '{'] <+: '$' :: n := by
  rintro ⟨rest, heq⟩
  exact hn.append_ne (by decide) ((List.append_nil n).trans (List.cons.inj heq).2.symm)

/-- A bare reference adds no level. -/
theorem ownLevel_bare (hn : IsName n) : ownLevel ('$' :: n) = 0 := if_neg hn.not_braced

/-- A braced reference adds a level. -/
theorem ownLevel_inBraces (inner : Text) : ownLevel (inBraces inner) = 1 := if_pos ⟨_, rfl⟩

mutual

/-- Pieces nest as deep as the derivation says. -/
theorem Pieces.deepestLevel_eq : ∀ {context p t after ps d}, Pieces context p t after ps d →
    ∀ around, deepestLevel around (ps.flatMap (Piece.leveled around)) = around + d
  | _, _, _, _, _, _, .nil, _ => rfl
  | _, _, _, _, _, _, .char _ hp, around => Pieces.deepestLevel_eq hp around
  | _, _, _, _, _, _, .escape _ hp, around => Pieces.deepestLevel_eq hp around
  | _, _, _, _, _, _, .reference hu hp, around => by
    have ihu : deepestLevel around (Piece.leveled around (.reference _)) = around + _ :=
      Refers.deepestLevel_eq hu around
    have ihp := Pieces.deepestLevel_eq hp around
    rw [List.flatMap_cons, deepestLevel_append, ihp, ihu, Nat.add_max_add_left]

/-- A reference nests as deep as the derivation says. -/
theorem Refers.deepestLevel_eq : ∀ {p t after node d}, Refers p t after node d →
    ∀ around, deepestLevel around (node.leveled around) = around + d
  | _, _, _, _, _, .bare hn _, around => by
    rw [Node.leveled, ownLevel_bare hn]
    exact Nat.max_self around
  | _, _, _, _, _, .plain _, around => by
    rw [Node.leveled, ownLevel_inBraces, deepestLevel_cons_succ]
    rfl
  | _, _, _, _, _, .length _, around => by
    rw [Node.leveled, ownLevel_inBraces, deepestLevel_cons_succ]
    rfl
  | _, _, _, _, _, .operator (d := d) _ _ harg, around => by
    have ih := Arguments.deepestLevel_eq harg (around + 1)
    rw [Node.leveled, ownLevel_inBraces, deepestLevel_cons_succ, ih]
    omega

/-- Arguments nest as deep as the derivation says. -/
theorem Arguments.deepestLevel_eq : ∀ {op p t after nodes d}, Arguments op p t after nodes d →
    ∀ around, deepestLevel around (Node.leveledEach around nodes) = around + d
  | _, _, _, _, _, _, .none _, _ => rfl
  | _, _, _, _, _, _, .one _ hp, around => by
    have ih := Pieces.deepestLevel_eq hp around
    rw [Node.leveledEach, Node.leveledEach, List.append_nil, Node.leveled_ofPieces, ih]
  | _, _, _, _, _, _, .two _ _ hp hq, around => by
    have ihp := Pieces.deepestLevel_eq hp around
    have ihq := Pieces.deepestLevel_eq hq around
    rw [Node.leveledEach, Node.leveledEach, Node.leveledEach, List.append_nil,
      Node.leveled_ofPieces, Node.leveled_ofPieces, deepestLevel_append, ihp, ihq,
      Nat.add_max_add_left]

end

/-- The tree of a template nests as deep as its derivation says. -/
theorem Derives.depth_eq (h : Derives s r d) : r.depth = d := by
  obtain ⟨ps, hps, rfl⟩ := h
  rw [Node.depth, Node.leveled_ofPieces, hps.deepestLevel_eq, Nat.zero_add]

/-! ## Nesting deeper than a limit -/

/-- The first braced reference of a derivation is at the level below the limit when the limit is
reached already. -/
theorem isFirstAt_self {name symbol : Text} {nodes : List Node} {inner : Text}
    (hlater : ∀ s, s ∈ Node.referencesEach nodes → (p : Int) ≤ s.position) :
    IsFirstAt (depth + 1) p
      ((Node.reference name symbol nodes (inBraces inner) p).leveled depth) := by
  rw [Node.leveled, ownLevel_inBraces]
  refine ⟨⟨_, List.mem_cons_self, ⟨_, rfl⟩, rfl⟩, fun s hs _ => ?_⟩
  rcases List.mem_cons.1 hs with hs | hs
  · cases hs
    exact Int.le_refl _
  · exact hlater s (Node.mem_referencesEach_of_leveled hs)

mutual

/-- Pieces that nest deeper than the limit are derived up to a reference that fails because of
it. -/
theorem Pieces.exists_tooDeep : ∀ {context p t after ps d}, Pieces context p t after ps d →
    ∀ {levels depth : Nat}, depth ≤ levels → levels < depth + d →
    ∃ u rest qs c q, t = u ++ rest ∧ Pieces context p u (rest ++ after) qs c ∧
      depth + c ≤ levels ∧
      Fails levels (p + u.length) depth (rest ++ after) ⟨.nestedTooDeep levels, q⟩ ∧
      IsFirstAt (levels + 1) q (ps.flatMap (Piece.leveled depth))
  | _, _, _, _, _, _, .nil, _, _, hle, hlt => absurd hlt (Nat.not_lt.2 hle)
  | _, p, _, after, _, _, .char (c := c) hl hp, _, _, hle, hlt => by
    obtain ⟨u, rest, qs, d', q, rfl, hqs, hd, hfails, hfirst⟩ := Pieces.exists_tooDeep hp hle hlt
    rw [List.append_assoc] at hl
    rw [← offset_cons p c u] at hfails
    exact ⟨c :: u, rest, _, d', q, rfl, .char hl hqs, hd, hfails, hfirst⟩
  | _, p, _, _, _, _, .escape (c := c) he hp, _, _, hle, hlt => by
    obtain ⟨u, rest, qs, d', q, rfl, hqs, hd, hfails, hfirst⟩ := Pieces.exists_tooDeep hp hle hlt
    rw [← offset_cons_cons p '\\' c u] at hfails
    exact ⟨'\\' :: c :: u, rest, _, d', q, rfl, .escape he hqs, hd, hfails, hfirst⟩
  | _, p, _, after, _, _, .reference (u := u) (t := t) (d := d₁) (e := d₂) hu hp,
      levels, depth, hle, hlt => by
    by_cases hnode : levels < depth + d₁
    · obtain ⟨q, hfails, hfirst⟩ := Refers.exists_tooDeep hu hle hnode
      rw [← List.append_assoc] at hfails
      refine ⟨[], u ++ t, [], 0, q, rfl, .nil, hle, hfails, hfirst.append_right fun s hs => ?_⟩
      -- The references behind stand behind the one that fails, and so behind those in it.
      obtain ⟨⟨r, hr, -, hposition⟩, -⟩ := hfirst
      have hstop := (hu.standsIn r (Node.mem_references_of_leveled hr)).stop_le
      have hbehind := (hp.standsIn s (Piece.mem_references_of_leveled hs)).le_position
      rw [Reference.stop] at hstop
      omega
    · have hd : depth + d₁ ≤ levels := Nat.not_lt.1 hnode
      obtain ⟨v, rest, qs, d', q, rfl, hqs, hd', hfails, hfirst⟩ :=
        Pieces.exists_tooDeep hp hle (by omega)
      rw [List.append_assoc] at hu
      rw [← offset_append] at hfails
      refine ⟨u ++ v, rest, _, max d₁ d', q, (List.append_assoc _ _ _).symm, .reference hu hqs,
        by omega, hfails, hfirst.append_left fun s hs => ?_⟩
      have hlevel : levels + 1 ≤ deepestLevel depth (Node.leveled depth _) :=
        le_deepestLevel depth hs
      rw [hu.deepestLevel_eq] at hlevel
      omega

/-- A reference that nests deeper than the limit fails because of it. -/
theorem Refers.exists_tooDeep : ∀ {p t after node d}, Refers p t after node d →
    ∀ {levels depth : Nat}, depth ≤ levels → levels < depth + d →
    ∃ q, Fails levels p depth (t ++ after) ⟨.nestedTooDeep levels, q⟩ ∧
      IsFirstAt (levels + 1) q (node.leveled depth)
  | _, _, _, _, _, .bare _ _, _, _, hle, hlt => absurd hlt (Nat.not_lt.2 hle)
  | p, _, _, _, _, .plain _, levels, depth, hle, hlt => by
    obtain rfl : levels = depth := by omega
    rw [inBraces_append]
    exact ⟨p, .tooDeep (Nat.lt_succ_self _), isFirstAt_self nofun⟩
  | p, _, _, _, _, .length _, levels, depth, hle, hlt => by
    obtain rfl : levels = depth := by omega
    rw [inBraces_append]
    exact ⟨p, .tooDeep (Nat.lt_succ_self _), isFirstAt_self nofun⟩
  | _, _, _, _, _, @Refers.operator n op p t after _ d hn hop harg,
      levels, depth, hle, hlt => by
    rw [inBraces_append, List.append_assoc, List.append_assoc]
    rcases Nat.lt_or_ge levels (depth + 1) with hlevel | hlevel
    · obtain rfl : levels = depth := by omega
      refine ⟨p, .tooDeep hlevel, isFirstAt_self fun s hs => ?_⟩
      have hposition := (harg.standsIn s hs).le_position
      omega
    · obtain ⟨hmax, u, rest, nodes, c, q, rfl, hargs, hc, hfails, hfirst⟩ :=
        Arguments.exists_tooDeep harg hlevel (by omega)
      rw [List.append_assoc] at hop ⊢
      refine ⟨q, .argument hc hn hop hmax hargs hfails, ?_⟩
      rw [Node.leveled, ownLevel_inBraces, ← List.singleton_append]
      refine hfirst.append_left fun s hs => ?_
      cases List.mem_singleton.1 hs
      omega

/-- Arguments that nest deeper than the limit are derived up to a reference that fails because of
it. -/
theorem Arguments.exists_tooDeep : ∀ {op p t after nodes d}, Arguments op p t after nodes d →
    ∀ {levels depth : Nat}, depth ≤ levels → levels < depth + d →
    0 < op.maxArguments ∧ ∃ u rest qs c q, t = u ++ rest ∧
      Arguments op p u (rest ++ after) qs c ∧ depth + c ≤ levels ∧
      Fails levels (p + u.length) depth (rest ++ after) ⟨.nestedTooDeep levels, q⟩ ∧
      IsFirstAt (levels + 1) q (Node.leveledEach depth nodes)
  | _, _, _, _, _, _, .none _, _, _, hle, hlt => absurd hlt (Nat.not_lt.2 hle)
  | _, _, _, _, _, _, .one h1 hp, levels, depth, hle, hlt => by
    obtain ⟨u, rest, qs, c, q, rfl, hqs, hc, hfails, hfirst⟩ := Pieces.exists_tooDeep hp hle hlt
    rw [Node.leveledEach, Node.leveledEach, List.append_nil, Node.leveled_ofPieces]
    exact ⟨h1, u, rest, _, c, q, rfl, .one h1 hqs, hc, hfails, hfirst⟩
  | op, p, _, after, _, _, .two (c := c) (t := t) (u := u) (d := d₁) (e := d₂) h2 hc hp hq,
      levels, depth, hle, hlt => by
    have hmax : 0 < op.maxArguments := by omega
    rw [Node.leveledEach, Node.leveledEach, Node.leveledEach, List.append_nil,
      Node.leveled_ofPieces, Node.leveled_ofPieces]
    by_cases hfirst : levels < depth + d₁
    · obtain ⟨v, rest, qs, d', q, rfl, hqs, hd', hfails, hfirst⟩ :=
        Pieces.exists_tooDeep hp hle hfirst
      have htext : rest ++ c :: (u ++ after) = rest ++ c :: u ++ after := by simp
      have hone : (1 : Nat) < op.maxArguments := by omega
      rw [htext] at hqs hfails
      refine ⟨hmax, v, rest ++ c :: u, _, d', q, List.append_assoc _ _ _,
        .one hmax (by simpa [hone] using hqs), hd', hfails, hfirst.append_right fun s hs => ?_⟩
      obtain ⟨⟨r, hr, -, hposition⟩, -⟩ := hfirst
      have hstop := (hp.standsIn r (Piece.mem_references_of_leveled hr)).stop_le
      have hbehind := (hq.standsIn s (Piece.mem_references_of_leveled hs)).le_position
      rw [Reference.stop] at hstop
      omega
    · have hd : depth + d₁ ≤ levels := Nat.not_lt.1 hfirst
      obtain ⟨v, rest, qs, d', q, rfl, hqs, hd', hfails, hfirst⟩ :=
        Pieces.exists_tooDeep hq hle (by omega)
      rw [List.append_assoc] at hp
      rw [← offset_separated] at hfails
      refine ⟨hmax, t ++ c :: v, rest, _, max d₁ d', q, by simp, .two h2 hc hp hqs, by omega,
        hfails, hfirst.append_left fun s hs => ?_⟩
      have hlevel := le_deepestLevel depth hs
      rw [hp.deepestLevel_eq] at hlevel
      omega

end

/-- A template that nests deeper than the limit is refused at the first braced reference one level
below the limit. -/
theorem Derives.refused_of_lt (h : Derives s r d) (hlt : levels < d) :
    ∃ q, Refused levels s ⟨.nestedTooDeep levels, q⟩ ∧ IsFirstAt (levels + 1) q (r.leveled 0) := by
  obtain ⟨ps, hps, rfl⟩ := h
  obtain ⟨u, rest, qs, c, q, rfl, hqs, hc, hfails, hfirst⟩ :=
    hps.exists_tooDeep (Nat.zero_le levels) (by omega)
  rw [List.append_nil] at hqs hfails
  rw [Nat.zero_add] at hc hfails
  rw [Node.leveled_ofPieces]
  exact ⟨q, ⟨u, rest, qs, c, rfl, hqs, hc, hfails⟩, hfirst⟩

/-! ## Deeper limits -/

/-- What fails for another reason than the limit fails for it under a deeper limit too. -/
theorem Fails.mono {deeper : Nat} {e : ParseError} (h : Fails levels p depth t e)
    (hle : levels ≤ deeper) (hcause : e.cause ≠ .nestedTooDeep levels) :
    Fails deeper p depth t e := by
  induction h with
  | tooDeep => exact absurd rfl hcause
  | noName hlevel hrest => exact .noName (Nat.le_trans hlevel hle) hrest
  | noLengthName hlevel hrest => exact .noLengthName (Nat.le_trans hlevel hle) hrest
  | openName hlevel hn => exact .openName (Nat.le_trans hlevel hle) hn
  | openLength hlevel hn => exact .openLength (Nat.le_trans hlevel hle) hn
  | afterLength hlevel hn hc hne => exact .afterLength (Nat.le_trans hlevel hle) hn hc hne
  | noOperator hlevel hn hc hne hop => exact .noOperator (Nat.le_trans hlevel hle) hn hc hne hop
  | openArguments hlevel hn hop harg =>
    exact .openArguments (Nat.le_trans hlevel hle) hn hop harg
  | afterOperator hlevel hn hop hmax hne =>
    exact .afterOperator (Nat.le_trans hlevel hle) hn hop hmax hne
  | argument hlevel hn hop hmax harg _ ih =>
    exact .argument (Nat.le_trans hlevel hle) hn hop hmax harg (ih hcause)

/-- What is refused for another reason than the limit is refused for it under a deeper limit too. -/
theorem Refused.mono {deeper : Nat} {e : ParseError} (h : Refused levels s e)
    (hle : levels ≤ deeper) (hcause : e.cause ≠ .nestedTooDeep levels) : Refused deeper s e := by
  obtain ⟨t, rest, ps, d, rfl, hps, hd, hfails⟩ := h
  exact ⟨t, rest, ps, d, rfl, hps, Nat.le_trans hd hle, hfails.mono hle hcause⟩

/-! ## References next to each other -/

/-- No pieces, and only these, become no nodes. -/
theorem Piece.eq_nil_of_fuse {ps : List Piece} (h : fuse ps = []) : ps = [] := by
  rcases ps with _ | ⟨c | node, ps⟩
  · rfl
  · rw [fuse] at h
    split at h <;> cases h
  · cases h

/-- Pieces that make up a reference are the reference. -/
theorem Piece.eq_of_ofPieces {ps : List Piece} {r : Reference} (h : Node.ofPieces ps = r.node) :
    ps = [.reference r.node] := by
  have hfuse : fuse ps = [r.node] := by
    rw [Node.ofPieces] at h
    split at h
    · cases h
    · next heq => rw [heq, h]
    · cases h
  rcases ps with _ | ⟨c | node, ps⟩
  · cases hfuse
  · rw [fuse] at hfuse
    split at hfuse <;> cases hfuse
  · obtain ⟨rfl, hps⟩ := List.cons.inj hfuse
    rw [eq_nil_of_fuse hps]

/-- A template that is a reference is derived as the reference. -/
theorem Derives.refers {r : Reference} (h : Derives s r.node d) : Refers 0 s [] r.node d := by
  obtain ⟨ps, hps, hroot⟩ := h
  obtain rfl := Piece.eq_of_ofPieces hroot.symm
  cases hps with
  | reference hu hp =>
    cases hp with
    | nil =>
      rw [List.append_nil, Nat.max_zero]
      exact hu

/-- The text `v` is made of braced references side by side, in which braced references stand in each
other `d` deep. -/
structure AreBraced (v : Text) (d : Nat) : Prop where
  /-- The text is made of pieces wherever it stands. -/
  pieces : ∀ context p after, ∃ ps, Pieces context p v after ps d
  /-- It starts like what it is put in front of. -/
  head? : ∀ rest : Text, (v ++ '$' :: rest).head? = some '$'

/-- Braced references with one more in front. -/
theorem AreBraced.append_of_refers {u v : Text} {r : Reference} {e : Nat}
    (hu : Refers 0 u [] r.node e) (hbraced : r.IsBraced) (hv : AreBraced v d) :
    AreBraced (u ++ v) (max e d) where
  pieces context p after := by
    obtain ⟨ps, hps⟩ := hv.pieces context (p + u.length) after
    have hu : Refers 0 u (v ++ after) r.node e := hu.onto fun s hs hbare => by
      cases r
      cases s
      cases hs
      exact absurd hbraced hbare
    exact ⟨_, .reference (hu.moved (k := p) p (by omega)) hps⟩
  head? rest := by
    obtain ⟨c, tail, heq, -⟩ := hu.opens (v ++ '$' :: rest)
    rw [List.append_assoc, heq]
    rfl

/-- Braced references side by side nest no deeper than each of them does. -/
theorem AreBraced.flatten {us : List Text}
    (h : ∀ u ∈ us, ∃ (r : Reference) (e : Nat), Derives u r.node e ∧ r.IsBraced ∧ e ≤ d) :
    ∃ e, e ≤ d ∧ AreBraced us.flatten e := by
  induction us with
  | nil => exact ⟨0, Nat.zero_le d, fun _ _ _ => ⟨[], .nil⟩, fun _ => rfl⟩
  | cons u us ih =>
    obtain ⟨⟨r, e, hu, hbraced, he⟩, hus⟩ := List.forall_mem_cons.1 h
    obtain ⟨f, hf, hv⟩ := ih hus
    exact ⟨max e f, Nat.max_le.2 ⟨he, hf⟩, hv.append_of_refers hu.refers hbraced⟩

/-- What is put in front of a dollar sign does not change how a text starts. -/
theorem AreBraced.head?_append {v : Text} (hv : AreBraced v d) (a b : Text) :
    (a ++ (v ++ '$' :: b)).head? = (a ++ '$' :: b).head? :=
  head?_append_congr a ((hv.head? b).trans rfl)

section
variable {v : Text} {m : Nat} {r : Reference} {level : Nat}

mutual

/-- Pieces go on being pieces when braced references are put in front of a braced reference in them,
and nest deeper only if these do. -/
theorem Pieces.beside (hv : AreBraced v m) (hr : r.IsBraced) :
    ∀ {context p t after ps d}, Pieces context p t after ps d →
    ∀ around, (level + 1, r) ∈ ps.flatMap (Piece.leveled around) →
    ∃ a b qs e, t = a ++ '$' :: b ∧ ((p + a.length : Nat) : Int) = r.position ∧
      Pieces context p (a ++ (v ++ '$' :: b)) after qs e ∧
      around + e ≤ max (around + d) (level + m)
  | _, _, _, _, _, _, .nil, _, h => nomatch h
  | context, p, _, after, _, _, .char (c := c) hl hp, around, h => by
    obtain ⟨a, b, qs, e, rfl, hposition, hqs, he⟩ := Pieces.beside hv hr hp around h
    have hl : context.Literal c (a ++ (v ++ '$' :: b) ++ after) := hl.congr_head? (by
      rw [List.append_assoc, List.append_assoc, List.append_assoc]
      exact hv.head?_append a (b ++ after))
    exact ⟨c :: a, b, _, e, rfl, by rw [offset_cons, hposition], .char hl hqs, he⟩
  | _, p, _, _, _, _, .escape (c := c) hescape hp, around, h => by
    obtain ⟨a, b, qs, e, rfl, hposition, hqs, he⟩ := Pieces.beside hv hr hp around h
    exact ⟨'\\' :: c :: a, b, _, e, rfl, by rw [offset_cons_cons, hposition], .escape hescape hqs,
      he⟩
  | context, p, _, after, _, _, .reference (u := u) (t := t) (d := d₁) (e := d₂) hu hp, around,
      h => by
    rw [List.flatMap_cons, List.mem_append] at h
    rcases h with h | h
    · rcases Refers.beside hv hr hu around h with
        ⟨rfl, hposition⟩ | ⟨a, b, node, e, rfl, hposition, hnode, he⟩
      · -- The reference is this one, so what is put in front is pieces in front of it.
        obtain ⟨c, tail, heq, -⟩ := hu.opens t
        obtain ⟨qs, hqs⟩ := hv.pieces context p (u ++ t ++ after)
        have hmoved := (Pieces.reference hu hp).moved (k := v.length) (p + v.length) (by omega)
        have hboth := hqs.append _ _ _ _ rfl hmoved
        rw [heq] at hboth ⊢
        exact ⟨[], c :: tail, _, _, rfl, by simpa using hposition, hboth, by omega⟩
      · have hmoved := hp.moved (k := v.length) (p + (a ++ (v ++ '$' :: b)).length) (by
          simp only [List.length_append, List.length_cons]
          push_cast
          omega)
        have htext : a ++ (v ++ '$' :: b) ++ t = a ++ (v ++ '$' :: (b ++ t)) := by simp
        have hboth := Pieces.reference hnode hmoved
        rw [htext] at hboth
        exact ⟨a, b ++ t, _, _, by simp, hposition, hboth, by omega⟩
    · obtain ⟨a, b, qs, e, rfl, hposition, hqs, he⟩ := Pieces.beside hv hr hp around h
      have hu : Refers p u (a ++ (v ++ '$' :: b) ++ after) _ d₁ := hu.congr_behind _ (by
        rw [List.append_assoc, List.append_assoc, List.append_assoc]
        exact hv.head?_append a (b ++ after))
      have hboth := Pieces.reference hu hqs
      rw [← List.append_assoc] at hboth
      exact ⟨u ++ a, b, _, max d₁ e, by simp, by rw [offset_append, hposition], hboth, by omega⟩

/-- A reference goes on being one when braced references are put in front of a braced reference in
its arguments, and nests deeper only if these do. -/
theorem Refers.beside (hv : AreBraced v m) (hr : r.IsBraced) :
    ∀ {p t after node d}, Refers p t after node d →
    ∀ around, (level + 1, r) ∈ node.leveled around →
    (level = around ∧ (p : Int) = r.position) ∨
    ∃ a b other e, t = a ++ '$' :: b ∧ ((p + a.length : Nat) : Int) = r.position ∧
      Refers p (a ++ (v ++ '$' :: b)) after other e ∧
      around + e ≤ max (around + d) (level + m)
  | _, _, _, _, _, .bare hn _, around, h => by
    rw [Node.leveled, ownLevel_bare hn] at h
    cases List.mem_singleton.1 h
    exact absurd hr hn.not_braced
  | p, _, _, _, _, .plain _, around, h => by
    rw [Node.leveled, ownLevel_inBraces] at h
    cases List.mem_singleton.1 h
    exact .inl ⟨rfl, rfl⟩
  | p, _, _, _, _, .length _, around, h => by
    rw [Node.leveled, ownLevel_inBraces] at h
    cases List.mem_singleton.1 h
    exact .inl ⟨rfl, rfl⟩
  | _, _, _, _, _, @Refers.operator n op p t after _ _ hn hop harg, around, h => by
    rw [Node.leveled, ownLevel_inBraces] at h
    rcases List.mem_cons.1 h with h | h
    · cases h
      exact .inl ⟨rfl, rfl⟩
    · obtain ⟨a, b, nodes, e, rfl, hposition, hargs, he⟩ := Arguments.beside hv hr harg _ h
      have hop : op.IsLongest (op.symbol ++ (a ++ (v ++ '$' :: b) ++ '}' :: after)) := by
        refine hop.congr_head? ?_
        rw [List.append_assoc, List.append_assoc, List.append_assoc]
        exact hv.head?_append a (b ++ '}' :: after)
      have htext : inBraces (n ++ (op.symbol ++ (a ++ (v ++ '$' :: b)))) =
          '$' :: '{' :: (n ++ (op.symbol ++ a)) ++ (v ++ '$' :: (b ++ ['}'])) := by
        simp [inBraces]
      have hrefers := Refers.operator hn hop hargs
      rw [htext] at hrefers
      refine .inr ⟨_, b ++ ['}'], _, e + 1, by simp [inBraces], ?_, hrefers, by omega⟩
      rw [offset_cons_cons, offset_append, offset_append, hposition]

/-- Arguments go on being arguments when braced references are put in front of a braced reference
in them, and nest deeper only if these do. -/
theorem Arguments.beside (hv : AreBraced v m) (hr : r.IsBraced) :
    ∀ {op p t after nodes d}, Arguments op p t after nodes d →
    ∀ around, (level + 1, r) ∈ Node.leveledEach around nodes →
    ∃ a b others e, t = a ++ '$' :: b ∧ ((p + a.length : Nat) : Int) = r.position ∧
      Arguments op p (a ++ (v ++ '$' :: b)) after others e ∧
      around + e ≤ max (around + d) (level + m)
  | _, _, _, _, _, _, .none _, _, h => nomatch h
  | _, _, _, _, _, _, .one h1 hp, around, h => by
    rw [Node.leveledEach, Node.leveledEach, List.append_nil, Node.leveled_ofPieces] at h
    obtain ⟨a, b, qs, e, rfl, hposition, hqs, he⟩ := Pieces.beside hv hr hp around h
    exact ⟨a, b, _, e, rfl, hposition, .one h1 hqs, he⟩
  | op, p, _, after, _, _, .two (c := c) (t := t) (u := u) (d := d₁) (e := d₂) h2 hc hp hq,
      around, h => by
    rw [Node.leveledEach, Node.leveledEach, Node.leveledEach, List.append_nil,
      Node.leveled_ofPieces, Node.leveled_ofPieces, List.mem_append] at h
    rcases h with h | h
    · obtain ⟨a, b, qs, e, rfl, hposition, hqs, he⟩ := Pieces.beside hv hr hp around h
      have hmoved := hq.moved (k := v.length) (p + (a ++ (v ++ '$' :: b)).length + 1) (by
        simp only [List.length_append, List.length_cons]
        push_cast
        omega)
      have hbehind : a ++ (v ++ '$' :: b) ++ c :: u = a ++ (v ++ '$' :: (b ++ c :: u)) := by simp
      have hboth := Arguments.two h2 hc hqs hmoved
      rw [hbehind] at hboth
      exact ⟨a, b ++ c :: u, _, max e d₂, by simp, hposition, hboth, by omega⟩
    · obtain ⟨a, b, qs, e, rfl, hposition, hqs, he⟩ := Pieces.beside hv hr hq around h
      have hp : Pieces _ p t (c :: (a ++ (v ++ '$' :: b) ++ after)) _ d₁ := hp.congr_behind _ rfl
      have htext : t ++ c :: (a ++ (v ++ '$' :: b)) = t ++ c :: a ++ (v ++ '$' :: b) := by simp
      have hboth := Arguments.two h2 hc hp hqs
      rw [htext] at hboth
      exact ⟨t ++ c :: a, b, _, max d₁ e, by simp, by rw [offset_separated, hposition], hboth,
        by omega⟩

end

end

end

end ParameterExpansion
