import ParameterExpansion.Proofs.Grammar.Printed

/-!
# The grammar of slices

A name, a colon and a field, or two with a colon between them, are a reference to a slice
(`derives_slice`), if the first field does not start with a sign (`StartsUnsigned`): that would make
another symbol of the colon.
-/

namespace ParameterExpansion

/-- No character of a text means anything to a template as a field of a slice, but for the signs,
which go on with a colon. -/
def IsField (written : Text) : Prop := ∀ c ∈ written, c ∉ ['$', '\\', '}', ':', '=', '?']

/-- A field does not start with a sign. -/
def StartsUnsigned (written : Text) : Prop := ∀ c, written.head? = some c → c ≠ '-' ∧ c ≠ '+'

/-- The fields of a slice as they are written. -/
def sliceFields (offset : Text) (extent : Option Text) : Text :=
  offset ++ extent.elim [] (':' :: ·)

section
variable {written name offset : Text} {extent : Option Text} {c : Char}

/-- No character of a field is escaped. -/
theorem IsField.escapes_eq_false (h : IsField written) (more : Bool) :
    ∀ c ∈ written, (Context.argument (some ':') more).escapes c = false := by
  intro c hc
  have hc := h c hc
  simp only [List.mem_cons, not_or] at hc
  simp [Context.escapes, hc, @eq_comm _ ':']

/-- A field is an argument as it is, before a colon or a closing brace. -/
theorem IsField.pieces (h : IsField written) (more : Bool) (p : Nat) {after : Text}
    (hafter : c = ':' ∨ c = '}') :
    Pieces (.argument (some ':') more) p written (c :: after) (written.map .char) 0 := by
  have hliteral : IsLiteral written := by
    rintro rest hrest ⟨d, tail, rfl, -⟩
    exact h '$' (hrest.subset List.mem_cons_self) List.mem_cons_self
  have hopens : ¬ OpensReference ('$' :: c :: after) := by
    rcases hafter with rfl | rfl <;> exact not_opens_cons (by decide) (by decide) _
  have hpieces := @Pieces.backslashed (.argument (some ':') more) _ _ hliteral hopens p
  rwa [Text.backslashed_of_forall (h.escapes_eq_false more)] at hpieces

/-- A field, or two with a colon between them, are the arguments of a slice. -/
theorem arguments_slice (ho : IsField offset) (hl : ∀ written ∈ extent, IsField written) (p : Nat) :
    Arguments .substring p (sliceFields offset extent) ['}']
      ((offset :: extent.toList).map .text) 0 := by
  cases extent with
  | none =>
    rw [sliceFields, Option.elim_none, List.append_nil, Option.toList_none, List.map_singleton,
      ← Node.ofPieces_chars]
    exact .one (by decide) (ho.pieces true _ (.inr rfl))
  | some written =>
    rw [sliceFields, Option.elim_some, Option.toList_some, List.map_cons, List.map_singleton,
      ← Node.ofPieces_chars, ← Node.ofPieces_chars]
    have hoffset : Pieces (.argument Operator.substring.separator true) p offset
        (':' :: (written ++ ['}'])) _ 0 := ho.pieces true _ (.inl rfl)
    exact .two rfl rfl hoffset ((hl written rfl).pieces false _ (.inr rfl))

/-- A colon is the symbol of a slice, unless one of four characters goes on with it. -/
theorem isLongest_colon {t : Text} (h : ∀ c, t.head? = some c → c ∉ ['=', '-', '?', '+']) :
    Operator.substring.IsLongest (':' :: t) := by
  refine Operator.isLongest_append fun c other hc hother => h c hc ?_
  cases other <;> cases hother <;> decide

/-- A field that does not start with a sign does not go on with a colon. -/
theorem IsField.not_mem_of_head? (ho : IsField offset) (hsign : StartsUnsigned offset)
    {behind : Text}
    (hbehind : ∀ c, behind.head? = some c → c = ':' ∨ c = '}')
    (hc : (offset ++ behind).head? = some c) : c ∉ ['=', '-', '?', '+'] := by
  cases offset with
  | nil => obtain rfl | rfl := hbehind c hc <;> decide
  | cons d rest =>
    cases hc
    have hfield := ho _ List.mem_cons_self
    have hsign := hsign _ rfl
    simp only [List.mem_cons, List.not_mem_nil, or_false, not_or] at hfield ⊢
    exact ⟨hfield.2.2.2.2.1, hsign.1, hfield.2.2.2.2.2, hsign.2⟩

/-- A name, a colon and fields in braces are a reference to a slice, unless the first field starts
with a sign. -/
theorem derives_slice (hname : IsName name) (ho : IsField offset)
    (hl : ∀ written ∈ extent, IsField written) (hsign : StartsUnsigned offset) :
    Derives (inBraces (name ++ (':' :: sliceFields offset extent)))
      (.reference name [':'] ((offset :: extent.toList).map .text)
        (inBraces (name ++ (':' :: sliceFields offset extent))) 0) 1 := by
  have hlongest : Operator.substring.IsLongest (':' :: (sliceFields offset extent ++ ['}'])) := by
    refine isLongest_colon fun c hc => ?_
    rw [sliceFields, List.append_assoc] at hc
    refine ho.not_mem_of_head? hsign (fun d hd => ?_) hc
    cases extent <;> cases hd <;> simp
  have hrefers : Refers 0 (inBraces (name ++ (':' :: sliceFields offset extent))) [] _ 1 :=
    .operator hname hlongest (arguments_slice ho hl _)
  have hall : Pieces .template 0 _ [] _ _ := .reference hrefers .nil
  rw [List.append_nil] at hall
  exact ⟨_, hall, rfl⟩

end

end ParameterExpansion
