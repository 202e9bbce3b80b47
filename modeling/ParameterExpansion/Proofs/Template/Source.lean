import ParameterExpansion.Proofs.Evaluation.Reach
import ParameterExpansion.Proofs.Template.Accepted

/-!
# The source of a template

Nothing of a template is lost in its tree: written back from the slices of its references, the tree
is the template (`Derives.format`). So is the value of the tree when every visit gives the slice of
the reference (`Node.evaluate_eq_format`), which is what leaving references as they are amounts to
(`Template.expand_source`).
-/

namespace ParameterExpansion

/-! ## Writing a tree back -/

/-- What a piece was read from, outside of arguments. -/
def Piece.source : Piece → Text
  | .char c => [c]
  | .reference node => node.format

/-- The slice of a reference is the text that it was read from. -/
theorem Refers.format {p d : Nat} {t after : Text} {node : Node} (h : Refers p t after node d) :
    node.format = t := by
  cases h <;> rfl

/-- The pieces of a template side by side are the template: outside of arguments nothing is
escaped. -/
theorem Pieces.flatMap_source : ∀ {context p t after ps d}, Pieces context p t after ps d →
    context = .template → ps.flatMap Piece.source = t
  | _, _, _, _, _, _, .nil, _ => rfl
  | _, _, _, _, _, _, .char _ hp, hcontext => congrArg _ (Pieces.flatMap_source hp hcontext)
  | _, _, _, _, _, _, .escape he _, hcontext => by
    subst hcontext
    exact he.elim
  | _, _, _, _, _, _, .reference hu hp, hcontext => by
    rw [List.flatMap_cons, Pieces.flatMap_source hp hcontext, Piece.source, hu.format]

/-- Pieces that become one text are what the text is. -/
theorem Piece.formatEach_fuse (ps : List Piece) :
    Node.formatEach (Piece.fuse ps) = ps.flatMap Piece.source := by
  induction ps with
  | nil => rfl
  | cons piece ps ih =>
    rw [List.flatMap_cons, ← ih]
    cases piece with
    | reference node => rfl
    | char c =>
      rw [Piece.fuse]
      split
      · next heq => rw [heq]; rfl
      · rfl

/-- The tree of some pieces is written back as the pieces. -/
theorem Node.format_ofPieces (ps : List Piece) :
    (Node.ofPieces ps).format = ps.flatMap Piece.source := by
  rw [← Piece.formatEach_fuse, Node.ofPieces]
  split
  · next heq => rw [heq]; rfl
  · next node heq =>
    rw [heq, Node.formatEach, Node.formatEach, List.append_nil]
  · rfl

/-- The tree of a template is written back as the template. -/
theorem Derives.format {s : Text} {r : Node} {d : Nat} (h : Derives s r d) : r.format = s := by
  obtain ⟨ps, hps, rfl⟩ := h
  rw [Node.format_ofPieces, hps.flatMap_source rfl]

namespace Node

mutual

/-- Positions do not matter to writing a tree back. -/
theorem format_mapPositions (f : Int → Int) : ∀ n : Node, (n.mapPositions f).format = n.format
  | .text _ => rfl
  | .reference .. => rfl
  | .sequence children => formatEach_mapPositionsEach f children

/-- Positions do not matter to writing trees back. -/
theorem formatEach_mapPositionsEach (f : Int → Int) :
    ∀ ns : List Node, formatEach (mapPositionsEach f ns) = formatEach ns
  | [] => rfl
  | n :: ns => by
    rw [mapPositionsEach, formatEach, formatEach, format_mapPositions f n,
      formatEach_mapPositionsEach f ns]

end

/-- Trees that are the same are written back as the same text. -/
theorem format_eq_of_same {a b : Node} (h : a.same b = true) : a.format = b.format := by
  have hunplaced := (same_iff a b).1 h
  calc a.format = a.unplaced.format := (format_mapPositions _ a).symm
    _ = b.unplaced.format := by rw [hunplaced]
    _ = b.format := format_mapPositions _ b

/-- The trees of a list are written back side by side. -/
theorem formatEach_eq (ns : List Node) : formatEach ns = (ns.map format).flatten := by
  induction ns with
  | nil => rfl
  | cons n ns ih => rw [formatEach, ih, List.map_cons, List.flatten_cons]

/-! ## Leaving references as they are -/

section
variable {σ : Type} {visit : Occurrence → Run σ Text} {P : σ → Prop}

/-- A visit gives the slice of a reference, whatever its arguments are, and keeps `P`. -/
def GivesSource (visit : Occurrence → Run σ Text) (P : σ → Prop) (r : Reference) : Prop :=
  ∀ values s, P s → ∃ t, visit ⟨r.name, r.symbol, values, r.source⟩ s = .ok r.source t ∧ P t

mutual

/-- Where each visit gives the slice of the reference, the value of a tree is what it is written
back as. -/
theorem evaluate_eq_format : ∀ (n : Node), (∀ r ∈ n.references, GivesSource visit P r) → ∀ s, P s →
    ∃ t, n.evaluate visit s = .ok n.format t ∧ P t
  | .text value, _, s, hs => ⟨s, rfl, hs⟩
  | .reference name symbol arguments source position, hvisit, s, hs => by
    rw [references] at hvisit
    obtain ⟨t, hvalues, ht⟩ :=
      evaluateEach_eq_format arguments (fun r hr => hvisit r (List.mem_cons_of_mem _ hr)) s hs
    obtain ⟨u, hvalue, hu⟩ := hvisit _ List.mem_cons_self (arguments.map format) t ht
    exact ⟨u, Run.bind_eq_ok_iff.2 ⟨_, t, hvalues, hvalue⟩, hu⟩
  | .sequence children, hvisit, s, hs => by
    obtain ⟨t, hvalues, ht⟩ := evaluateEach_eq_format children hvisit s hs
    refine ⟨t, Run.bind_eq_ok_iff.2 ⟨_, t, hvalues, ?_⟩, ht⟩
    rw [format, formatEach_eq]
    rfl

/-- Where each visit gives the slice of the reference, the values of trees are what they are written
back as. -/
theorem evaluateEach_eq_format : ∀ (ns : List Node),
    (∀ r ∈ referencesEach ns, GivesSource visit P r) → ∀ s, P s →
    ∃ t, evaluateEach visit ns s = .ok (ns.map format) t ∧ P t
  | [], _, s, hs => ⟨s, rfl, hs⟩
  | n :: ns, hvisit, s, hs => by
    rw [referencesEach] at hvisit
    obtain ⟨t, hvalue, ht⟩ :=
      evaluate_eq_format n (fun r hr => hvisit r (List.mem_append_left _ hr)) s hs
    obtain ⟨u, hvalues, hu⟩ :=
      evaluateEach_eq_format ns (fun r hr => hvisit r (List.mem_append_right _ hr)) t ht
    exact ⟨u, Run.bind_eq_ok_iff.2 ⟨_, t, hvalue, Run.bind_eq_ok_iff.2 ⟨_, u, hvalues, rfl⟩⟩, hu⟩

end

end

end Node

/-- An interceptor that leaves references as they are makes every visit give the slice. -/
theorem Interceptor.givesSource {σ : Type} {interceptor : Interceptor σ}
    (h : ∀ o s, ∃ t, interceptor o s = .ok (some o.source, false) t) (r : Reference) :
    Node.GivesSource interceptor.visit (fun _ => True) r := by
  intro values s _
  obtain ⟨t, ht⟩ := h ⟨r.name, r.symbol, values, r.source⟩ s
  exact ⟨t, Run.bind_eq_ok_iff.2 ⟨_, t, Run.mapFault_eq_ok_iff.2 ht, rfl⟩, trivial⟩

/-- The preserving mode gives the slice of a reference to an unset variable, unless its operator is
a defaulting one, and leaves the resolver alone. -/
theorem Mode.givesSource_preserving {resolver : Resolver} {r : Reference}
    (hsymbol : isDefaulting r.symbol = false) (hunset : resolver.ask r.name = .ok none) :
    Node.GivesSource Mode.preserving.visit (fun s : Session => s.resolver = resolver) r := by
  rintro values s rfl
  have hask : ∃ t, Session.ask r.name s = .ok none t ∧ t.resolver = s.resolver := by
    unfold Session.ask
    rw [hunset]
    exact ⟨_, rfl, rfl⟩
  obtain ⟨t, hask, ht⟩ := hask
  have hkeep : Mode.keepUnset ⟨r.name, r.symbol, values, r.source⟩ s =
      .ok (some r.source, false) t := by
    refine Run.bind_eq_ok_iff.2 ⟨none, t, hask, ?_⟩
    rw [if_pos (by rw [hsymbol]; rfl)]
    rfl
  exact ⟨t, Run.bind_eq_ok_iff.2 ⟨_, t, Run.mapFault_eq_ok_iff.2 hkeep, rfl⟩, ht⟩

namespace Template

/-- A template is in its tree as it is: the tree is written back as the template, trees of different
templates differ, and leaving every reference as it is gives the template, which the preserving mode
does where all variables are unset and no operator accounts for that. A text in which no reference
starts is a template that every mode, and every interceptor, gives as it is. -/
theorem expand_source (limit : NestingLimit) (s : Text) :
    (∀ t, Template.parse limit s = .ok t →
      t.root.format = s ∧
      (∀ limit' s' t', Template.parse limit' s' = .ok t' →
        (t.root.same t'.root = true ↔ s = s')) ∧
      (∀ (σ : Type) (interceptor : Interceptor σ),
        (∀ o u, ∃ v, interceptor o u = .ok (some o.source, false) v) →
        ∀ u, ∃ v, t.expandWith interceptor u = .ok s v) ∧
      (∀ u : Session, (∀ r ∈ t.references, isDefaulting r.symbol = false ∧
          u.resolver.ask r.name = .ok none) →
        ∃ v, t.expand .preserving u = .ok s v ∧ v.resolver = u.resolver)) ∧
    (IsLiteral s → ∃ t, Template.parse limit s = .ok t ∧
      (∀ mode u, t.expand mode u = .ok s u) ∧
      ∀ (σ : Type) (interceptor : Interceptor σ) u, t.expandWith interceptor u = .ok s u) := by
  refine ⟨fun t ht => ?_, fun hliteral => ?_⟩
  · obtain ⟨-, d, -, hderives⟩ := parse_eq_ok_iff.1 ht
    have hformat := hderives.format
    refine ⟨hformat, fun limit' s' t' ht' => ?_, fun σ interceptor h u => ?_, fun u h => ?_⟩
    · obtain ⟨-, d', -, hderives'⟩ := parse_eq_ok_iff.1 ht'
      constructor
      · intro hsame
        rw [← hformat, ← hderives'.format, Node.format_eq_of_same hsame]
      · rintro rfl
        rw [(hderives.unique hderives').1, Node.same_iff]
    · obtain ⟨v, hv, -⟩ := Node.evaluate_eq_format t.root
        (fun r _ => Interceptor.givesSource h r) u trivial
      rw [hformat] at hv
      exact ⟨v, hv⟩
    · obtain ⟨v, hv, hresolver⟩ := Node.evaluate_eq_format t.root
        (fun r hr => Mode.givesSource_preserving (h r hr).1 (h r hr).2) u rfl
      rw [hformat] at hv
      exact ⟨v, hv, hresolver⟩
  · refine ⟨⟨.text s, s⟩, parse_eq_ok_iff.2 ⟨rfl, 0, Nat.zero_le _, hliteral.derives⟩, ?_, ?_⟩
    · exact fun mode u => rfl
    · exact fun σ interceptor u => rfl

/-- The specimen where no variable is set, and a text with a dollar sign that starts no reference.
-/
theorem expand_source_specimen :
    (∃ t v, Template.parse ⟨2, by decide, by decide⟩ Node.specimen.print = .ok t ∧
      t.expand .preserving (.ofResolver (.function fun _ => .ok none)) =
        .ok Node.specimen.print v) ∧
    ∃ t, Template.parse ⟨1, by decide, by decide⟩ "for $5".toList = .ok t ∧
      ∀ mode u, t.expand mode u = .ok "for $5".toList u := by
  constructor
  · obtain ⟨-, -, -, hpreserving⟩ := (expand_source _ _).1 _ parse_specimen
    obtain ⟨v, hv, -⟩ := hpreserving (.ofResolver (.function fun _ => .ok none))
      (List.forall_mem_cons.2 ⟨⟨rfl, rfl⟩, List.forall_mem_singleton.2 ⟨rfl, rfl⟩⟩)
    exact ⟨_, v, parse_specimen, hv⟩
  · obtain ⟨t, ht, hexpand, -⟩ :=
      (expand_source ⟨1, by decide, by decide⟩ "for $5".toList).2 (by decide)
    exact ⟨t, ht, hexpand⟩

end Template

end ParameterExpansion
