import ParameterExpansion.Proofs.Grammar.Written

/-!
# Printed trees

A well-formed tree is derived from what it is printed as (`Node.WellFormed.derives_print`), by
induction on well-formedness: a tree is derived wherever a dollar sign before what stands behind it
would start no reference (`Node.IsDerived`), and a reference is derived whatever stands behind it
(`Node.Stands`), so that the parts of a sequence can be put side by side.
-/

namespace ParameterExpansion

section
variable {n : Node} {op : Operator} {after value : Text} {ps : List Piece}

/-! ## Sequences -/

/-- A dollar sign starts no reference before a character that is neither an opening brace nor the
start of a name. -/
theorem not_opens_cons {c : Char} (hbrace : c ≠ '{') (hname : isNameStart c = false) (rest : Text) :
    ¬ OpensReference ('$' :: c :: rest) := by
  rintro ⟨d, _, heq, hd⟩
  cases heq
  rcases hd with hd | hd
  · exact hbrace hd
  · rw [hname] at hd
    cases hd

namespace Node

/-- A tree is derived from what it is written as, wherever a dollar sign at its end would start no
reference. -/
def IsDerived (n : Node) : Prop :=
  ∀ (context : Context) p after, ¬ OpensReference ('$' :: after) →
    ∃ ps, Pieces context p (n.written context.escapes) after ps n.nesting ∧
      .ofPieces ps = n.placed context.escapes p

/-- A part of a sequence can be derived: it is a text with a character, in which no reference
starts, or it is a reference that is derived wherever it stands. -/
def Stands : Node → Prop
  | .text value => value ≠ [] ∧ IsLiteral value
  | .reference name symbol arguments source position => ∀ special p after,
    Refers p (written special (.reference name symbol arguments source position)) after
      (placed special p (.reference name symbol arguments source position))
      (nestingEach arguments + 1)
  | .sequence _ => False

/-- A reference is written with a dollar sign in front. -/
theorem written_reference (special : Char → Bool) (name symbol : Text) (arguments : List Node)
    (source : Text) (position : Int) :
    ∃ tail, written special (.reference name symbol arguments source position) = '$' :: tail := by
  rw [written]
  split <;> exact ⟨_, rfl⟩

/-- The parts of a sequence are derived side by side. -/
theorem exists_pieces_writtenEach {children : List Node} {context : Context}
    (hparts : ∀ n ∈ children, n.Stands)
    (hchain : children.IsChain fun n m => ¬ (n.IsText ∧ m.IsText))
    (hafter : ¬ OpensReference ('$' :: after)) (p : Nat) :
    ∃ ps, Pieces context p (writtenEach context.escapes children) after ps (nestingEach children) ∧
      Piece.fuse ps = placedEach context.escapes p children := by
  induction children generalizing p with
  | nil => exact ⟨[], .nil, rfl⟩
  | cons n rest ih =>
    have hn := hparts n List.mem_cons_self
    have hrest := fun m hm => hparts m (List.mem_cons_of_mem n hm)
    obtain ⟨qs, hqs, hfuse⟩ :=
      ih hrest hchain.tail (p + (n.written context.escapes).length)
    rw [writtenEach, nestingEach, placedEach]
    cases n with
    | sequence => exact hn.elim
    | reference name symbol arguments source position =>
      refine ⟨_, .reference (hn context.escapes p _) hqs, ?_⟩
      rw [Piece.fuse, hfuse]
    | text value =>
      have hnext : rest = [] ∨ ∃ name symbol arguments source position ns,
          rest = .reference name symbol arguments source position :: ns := by
        cases rest with
        | nil => exact .inl rfl
        | cons m ns =>
          cases m with
          | text => exact absurd ⟨trivial, trivial⟩ (List.isChain_cons_cons.1 hchain).1
          | reference name symbol arguments source position =>
            exact .inr ⟨name, symbol, arguments, source, position, ns, rfl⟩
          | sequence => exact (hrest _ List.mem_cons_self).elim
      have hbehind : ¬ OpensReference ('$' :: (writtenEach context.escapes rest ++ after)) := by
        rcases hnext with rfl | ⟨name, symbol, arguments, source, position, ns, rfl⟩
        · exact hafter
        · obtain ⟨tail, htail⟩ := written_reference context.escapes name symbol arguments source
            position
          rw [writtenEach, htail]
          exact not_opens_cons (by decide) (by decide) _
      have hfirst : ∀ v ns, Piece.fuse qs ≠ .text v :: ns := by
        rw [hfuse]
        rcases hnext with rfl | ⟨name, symbol, arguments, source, position, ns, rfl⟩ <;>
          simp [placedEach, placed]
      refine ⟨_, (Pieces.backslashed hn.2 hbehind p).append _ _ _ _ rfl hqs, ?_⟩
      rw [Piece.fuse_chars hn.1 hfirst, hfuse, placed]

/-! ## References -/

/-- A separator is neither an opening brace nor the start of a name. -/
theorem separator_literal {c : Char} (hc : op.separator = some c) :
    c ≠ '{' ∧ isNameStart c = false := by
  have : c = '/' ∨ c = ':' := by cases op <;> cases hc <;> simp
  rcases this with rfl | rfl <;> decide

/-- The arguments of an operator are derived up to the closing brace. -/
theorem arguments_written {arguments : List Node} (hmin : op.minArguments ≤ arguments.length)
    (hmax : arguments.length ≤ op.maxArguments) (harguments : ∀ n ∈ arguments, n.IsDerived)
    (p : Nat) (after : Text) :
    Arguments op p (writtenArguments op.symbol arguments) ('}' :: after)
      (placedArguments op.symbol p arguments) (nestingEach arguments) := by
  have hargument : ∀ n ∈ arguments, ∀ more p after, ¬ OpensReference ('$' :: after) →
      ∃ ps, Pieces (.argument op.separator more) p (n.written (specialFor op.symbol)) after ps
        n.nesting ∧ .ofPieces ps = n.placed (specialFor op.symbol) p := by
    intro n hn more p after hafter
    rw [specialFor, separatorOf_symbol, ← Context.escapes_argument _ more]
    exact harguments n hn _ p after hafter
  have hbrace : ¬ OpensReference ('$' :: '}' :: after) :=
    not_opens_cons (by decide) (by decide) after
  match arguments with
  | [] =>
    refine .none ?_
    revert hmin
    cases op <;> decide
  | [n] =>
    obtain ⟨ps, hps, hn⟩ := hargument n (by simp) (1 < op.maxArguments) p _ hbrace
    rw [writtenArguments, placedArguments, placedArguments, ← hn, nestingEach, nestingEach,
      Nat.max_zero]
    exact .one hmax hps
  | [n, m] =>
    obtain ⟨htwo, c, hc⟩ : op.maxArguments = 2 ∧ ∃ c, op.separator = some c := by
      revert hmax
      cases op <;> simp [Operator.maxArguments, Operator.separator]
    have hliteral := separator_literal hc
    obtain ⟨ps, hps, hn⟩ := hargument n (by simp) true p
      (c :: (m.written (specialFor op.symbol) ++ '}' :: after))
      (not_opens_cons hliteral.1 hliteral.2 _)
    obtain ⟨qs, hqs, hm⟩ := hargument m (by simp) false
      (p + (n.written (specialFor op.symbol)).length + 1) _ hbrace
    rw [writtenArguments, writtenArguments, placedArguments, placedArguments, placedArguments, ← hn,
      ← hm, nestingEach, nestingEach, nestingEach, Nat.max_zero, separatorOf_symbol, hc]
    exact .two htwo hc hps hqs
  | _ :: _ :: _ :: _ =>
    have := op.maxArguments_le
    simp only [List.length_cons] at hmax
    omega

/-- A reference is derived from what it is written as, once its arguments are. -/
theorem refers_written {name symbol source : Text} {arguments : List Node} {position : Int}
    (hname : IsName name) (htakes : TakesArguments symbol arguments.length)
    (harguments : ∀ n ∈ arguments, n.IsDerived)
    (hsymbol : Reference.SymbolEnds ⟨name, symbol, arguments, source, position⟩) :
    (reference name symbol arguments source position).Stands := by
  intro special p after
  rcases htakes with ⟨rfl, hcount⟩ | ⟨rfl, hcount⟩ | ⟨op, rfl, hmin, hmax⟩
  · obtain rfl := List.length_eq_zero_iff.1 hcount
    have hwritten : written special (.reference name [] [] source position) = inBraces name := by
      rw [written, if_neg (by decide), writtenArguments, List.append_nil, List.append_nil]
    rw [placed, hwritten, placedArguments, nestingEach]
    exact .plain hname
  · obtain rfl := List.length_eq_zero_iff.1 hcount
    rw [placed, written, if_pos ⟨rfl, rfl⟩, placedArguments, nestingEach]
    exact .length hname
  · have hform : ¬ (op.symbol = lengthSymbol ∧ arguments.length = 0) := by
      rintro ⟨hlength, hcount⟩
      obtain rfl : op = .removePrefix := Operator.symbol_injective hlength
      rw [hcount] at hmin
      exact absurd hmin (by decide)
    have hlongest :
        op.IsLongest (op.symbol ++ (writtenArguments op.symbol arguments ++ '}' :: after)) := by
      refine Operator.isLongest_append fun c other hc => hsymbol c other ?_
      revert hc
      cases writtenArguments op.symbol arguments <;> exact id
    rw [placed, written, if_neg hform]
    exact .operator hname hlongest (arguments_written hmin hmax harguments _ after)

/-! ## Well-formed trees -/

/-- The references in a list are those in its nodes. -/
theorem mem_referencesEach_iff {ns : List Node} {r : Reference} :
    r ∈ referencesEach ns ↔ ∃ n ∈ ns, r ∈ n.references := by
  induction ns with
  | nil => simp [referencesEach]
  | cons n ns ih => simp [referencesEach, ih]

/-- A well-formed tree whose symbols end where they are written to end is derived. -/
theorem WellFormed.isDerived (h : n.WellFormed) (hsymbols : ∀ r ∈ n.references, r.SymbolEnds) :
    n.IsDerived ∧ (n.IsPart → n.Stands) := by
  induction h with
  | @text value hliteral =>
    refine ⟨fun context p after hafter => ⟨_, ?_, ofPieces_chars value⟩,
      fun hpart => ⟨hpart, hliteral⟩⟩
    exact Pieces.backslashed hliteral hafter p
  | @reference name symbol arguments source position hname htakes _ ih =>
    rw [references] at hsymbols
    have harguments : ∀ n ∈ arguments, n.IsDerived := fun n hn =>
      (ih n hn fun r hr =>
        hsymbols r (List.mem_cons_of_mem _ (mem_referencesEach_iff.2 ⟨n, hn, hr⟩))).1
    have hstands :=
      refers_written hname htakes harguments (hsymbols _ List.mem_cons_self)
    refine ⟨fun context p after _ => ?_, fun _ => hstands⟩
    have hpieces : Pieces context p _ after _ _ := .reference (hstands context.escapes p after) .nil
    rw [List.append_nil] at hpieces
    refine ⟨_, hpieces, ?_⟩
    rw [placed]
    rfl
  | @sequence children hlength hparts hchain _ ih =>
    have hstands : ∀ n ∈ children, n.Stands := fun n hn =>
      (ih n hn fun r hr => hsymbols r (mem_referencesEach_iff.2 ⟨n, hn, hr⟩)).2 (hparts n hn)
    refine ⟨fun context p after hafter => ?_, fun hpart => hpart.elim⟩
    obtain ⟨ps, hps, hfuse⟩ := @exists_pieces_writtenEach _ _ context hstands hchain hafter p
    refine ⟨ps, hps, ?_⟩
    rcases children with _ | ⟨n, _ | ⟨m, rest⟩⟩
    · exact absurd hlength (by decide)
    · exact absurd hlength (Nat.lt_irrefl 1)
    · rw [ofPieces, hfuse]
      rfl

mutual

/-- Placing a tree keeps its shape. -/
theorem shape_placed : ∀ (n : Node) (special : Char → Bool) (p : Nat),
    (n.placed special p).shape = n.shape
  | .text _, _, _ => rfl
  | .reference name symbol arguments source position, special, p => by
    rw [placed, shape, shape, shapeEach_placedArguments arguments symbol]
  | .sequence children, special, p => by
    rw [placed, shape, shape, shapeEach_placedEach children special p]

/-- Placing trees side by side keeps their shapes. -/
theorem shapeEach_placedEach : ∀ (ns : List Node) (special : Char → Bool) (p : Nat),
    shapeEach (placedEach special p ns) = shapeEach ns
  | [], _, _ => rfl
  | n :: ns, special, p => by
    rw [placedEach, shapeEach, shapeEach, shape_placed n, shapeEach_placedEach ns]

/-- Placing arguments keeps their shapes. -/
theorem shapeEach_placedArguments : ∀ (ns : List Node) (symbol : Text) (p : Nat),
    shapeEach (placedArguments symbol p ns) = shapeEach ns
  | [], _, _ => rfl
  | n :: ns, symbol, p => by
    rw [placedArguments, shapeEach, shapeEach, shape_placed n, shapeEach_placedArguments ns]

end

/-- A well-formed tree is derived from what it is printed as, if no symbol goes on into a longer
one. -/
theorem WellFormed.derives_print {r : Node} (hr : r.WellFormed)
    (hsymbols : ∀ reference ∈ r.references, reference.SymbolEnds) :
    Derives r.print (r.placed (fun _ => false) 0) r.nesting := by
  obtain ⟨ps, hps, hplaced⟩ := (hr.isDerived hsymbols).1 .template 0 [] nofun
  exact ⟨ps, hps, hplaced.symm⟩

/-! ## A specimen -/

/-- A tree with a dollar sign before a reference, escapes in both arguments of an operator, and a
reference behind an escape. -/
def specimen : Node :=
  .sequence [.text ['$'], .reference ['x'] ['/']
    [.sequence [.text "a/\x7d".toList, .reference ['y'] [] [] [] 0], .text ['/']] [] 0]

example : specimen.print = "$$\x7bx/a\\/\\\x7d$\x7by\x7d/\\/\x7d".toList := rfl

/-- The specimen is well-formed. -/
theorem wellFormed_specimen : specimen.WellFormed := by
  have hpair : ∀ {P : Node → Prop} {a b : Node}, P a → P b → ∀ n ∈ [a, b], P n := fun ha hb =>
    List.forall_mem_cons.2 ⟨ha, List.forall_mem_singleton.2 hb⟩
  refine .sequence (by decide) ?_ ?_ (hpair (.text (by decide)) ?_)
  · exact hpair (List.cons_ne_nil _ _) trivial
  · exact .cons_cons (fun h => h.2) (.singleton _)
  refine .reference (by decide) (.inr (.inr ⟨.replaceFirst, rfl, by decide, by decide⟩))
    (hpair ?_ (.text (by decide)))
  refine .sequence (by decide) ?_ ?_ (hpair (.text (by decide)) ?_)
  · exact hpair (List.cons_ne_nil _ _) trivial
  · exact .cons_cons (fun h => h.2) (.singleton _)
  · exact .reference (by decide) (.inl ⟨rfl, rfl⟩) nofun

/-- No symbol of the specimen goes on into a longer one. -/
theorem symbolEnds_specimen : ∀ r ∈ specimen.references, r.SymbolEnds := by
  refine List.forall_mem_cons.2 ⟨fun c op hc => ?_, List.forall_mem_singleton.2 fun c op hc => ?_⟩
  · cases hc
    cases op <;> decide
  · cases hc
    cases op <;> decide

/-- The specimen is derived from what it is printed as. -/
theorem derives_specimen : Derives specimen.print (specimen.placed (fun _ => false) 0) 2 :=
  wellFormed_specimen.derives_print symbolEnds_specimen

end Node

end

end ParameterExpansion
