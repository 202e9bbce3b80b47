import ParameterExpansion.Scanner

/-!
# The grammar of templates

What a template is, said without a scan: `Derives s r d` holds when the text `s` is a template whose
tree is `r`, in which braced references stand in each other `d` deep. A template is a sequence of
characters and references (`Pieces`); a reference is bare, plain, the length of a variable, or has
an operator (`Refers`); an operator takes no argument, one, or two with its separator between them
(`Arguments`), each of which is again a sequence of characters and references, with escapes. As
names and symbols reach as far as they can, each relation also knows what stands behind the text it
is about. The rest of the module relates the conditions of the grammar to the tests that a scan
makes.
-/

namespace ParameterExpansion

/-! ## Conditions on characters and texts -/

/-- A name: a start of a name, and characters that go on with it. -/
def IsName : Text → Prop
  | [] => False
  | c :: rest => isNameStart c = true ∧ ∀ d ∈ rest, isNameChar d = true

instance : DecidablePred IsName
  | [] => inferInstanceAs (Decidable False)
  | _ :: rest => @instDecidableAnd _ _ _ (List.decidableBAll _ rest)

/-- A name does not go on into the text behind it. -/
def EndsName (after : Text) : Prop := ∀ c, after.head? = some c → isNameChar c = false

/-- A reference starts with a dollar sign that an opening brace or the start of a name follows. -/
def OpensReference (t : Text) : Prop :=
  ∃ c rest, t = '$' :: c :: rest ∧ (c = '{' ∨ isNameStart c = true)

/-- A symbol that a text starts with, and that no longer symbol it starts with exceeds. -/
def Operator.IsLongest (op : Operator) (t : Text) : Prop :=
  op.symbol <+: t ∧ ∀ other : Operator, other.symbol <+: t →
    other.symbol.length ≤ op.symbol.length

namespace Context

/-- The characters that end an argument when no backslash stands before them: the closing brace, and
the separator while a further argument is allowed. Nothing ends a template but its end. -/
def Ends : Context → Char → Prop
  | .template, _ => False
  | .argument separator more, c => c = '}' ∨ (more = true ∧ separator = some c)

/-- The characters that a backslash makes literal, which are none outside of arguments. -/
def Escapable : Context → Char → Prop
  | .template, _ => False
  | .argument separator _, c => c = '\\' ∨ c = '}' ∨ separator = some c

/-- `c` means itself, with `after` behind it. -/
structure Literal (context : Context) (c : Char) (after : Text) : Prop where
  /-- It does not end the argument. -/
  not_ends : ¬ context.Ends c
  /-- It is no dollar sign of a reference. -/
  not_opens : ¬ OpensReference (c :: after)
  /-- It is no backslash of an escape. -/
  not_escape : c = '\\' → ∀ e, after.head? = some e → ¬ context.Escapable e

/-- The pieces of the context end where `after` begins. -/
def EndsAt (context : Context) (after : Text) : Prop := ∀ c, after.head? = some c → context.Ends c

/-- Neither escapes nor references start with a character that ends the pieces of the context. -/
structure Regular (context : Context) : Prop where
  /-- A backslash ends nothing. -/
  backslash : ¬ context.Ends '\\'
  /-- A dollar sign ends nothing. -/
  dollar : ¬ context.Ends '$'

end Context

/-! ## The relations -/

/-- A braced reference with `inner` between its braces. -/
def inBraces (inner : Text) : Text := '$' :: '{' :: (inner ++ ['}'])

mutual

/-- `Pieces context p t after ps d`: in `context`, the text `t` at offset `p` with `after` behind it
is made of the pieces `ps`, and braced references stand in each other `d` deep in it. -/
inductive Pieces : Context → Nat → Text → Text → List Piece → Nat → Prop
  /-- Nothing is left. -/
  | nil : Pieces context p [] after [] 0
  /-- A character that means itself. -/
  | char : context.Literal c (t ++ after) → Pieces context (p + 1) t after ps d →
      Pieces context p (c :: t) after (.char c :: ps) d
  /-- An escape, which yields the character behind the backslash. -/
  | escape : context.Escapable c → Pieces context (p + 2) t after ps d →
      Pieces context p ('\\' :: c :: t) after (.char c :: ps) d
  /-- A reference. -/
  | reference : Refers p u (t ++ after) node d → Pieces context (p + u.length) t after ps e →
      Pieces context p (u ++ t) after (.reference node :: ps) (max d e)

/-- `Refers p t after node d`: the text `t` at offset `p` with `after` behind it is the reference
`node`, and braced references stand in each other `d` deep in it, itself included. -/
inductive Refers : Nat → Text → Text → Node → Nat → Prop
  /-- `$name`, with a name as long as it can be. -/
  | bare : IsName n → EndsName after →
      Refers p ('$' :: n) after (.reference n [] [] ('$' :: n) p) 0
  /-- A name in braces. -/
  | plain : IsName n → Refers p (inBraces n) after (.reference n [] [] (inBraces n) p) 1
  /-- A name in braces with the symbol of the length before it. -/
  | length : IsName n → Refers p (inBraces ('#' :: n)) after
      (.reference n lengthSymbol [] (inBraces ('#' :: n)) p) 1
  /-- A name in braces with an operator and its arguments behind it; the symbol of the operator is
  as long as it can be. -/
  | operator : IsName n → op.IsLongest (op.symbol ++ (t ++ '}' :: after)) →
      Arguments op (p + 2 + n.length + op.symbol.length) t ('}' :: after) nodes d →
      Refers p (inBraces (n ++ (op.symbol ++ t))) after
        (.reference n op.symbol nodes (inBraces (n ++ (op.symbol ++ t))) p) (d + 1)

/-- `Arguments op p t after nodes d`: the text `t` at offset `p` with `after` behind it is made of
the arguments `nodes` of `op`, and braced references stand in each other `d` deep in it. -/
inductive Arguments : Operator → Nat → Text → Text → List Node → Nat → Prop
  /-- The operator takes no arguments. -/
  | none : op.maxArguments = 0 → Arguments op p [] after [] 0
  /-- A single argument; the separator ends it if the operator takes a further one. -/
  | one : 0 < op.maxArguments →
      Pieces (.argument op.separator (1 < op.maxArguments)) p t after ps d →
      Arguments op p t after [.ofPieces ps] d
  /-- Two arguments with the separator between them; it no longer ends the second one. -/
  | two : op.maxArguments = 2 → op.separator = some c →
      Pieces (.argument op.separator true) p t (c :: (u ++ after)) ps d →
      Pieces (.argument op.separator false) (p + t.length + 1) u after qs e →
      Arguments op p (t ++ c :: u) after [.ofPieces ps, .ofPieces qs] (max d e)

end

/-- The text `s` is a template with the tree `r`, in which braced references stand in each other `d`
deep. -/
def Derives (s : Text) (r : Node) (d : Nat) : Prop :=
  ∃ ps, Pieces .template 0 s [] ps d ∧ r = .ofPieces ps

/-! ## Names -/

/-- A name starts with the start of a name. -/
theorem IsName.exists_cons {n : Text} (h : IsName n) :
    ∃ c rest, n = c :: rest ∧ isNameStart c = true := by
  cases n with
  | nil => exact h.elim
  | cons c rest => exact ⟨c, rest, rfl, h.1⟩

/-- Every character of a name can stand in a name. -/
theorem IsName.isNameChar_of_mem {n : Text} (h : IsName n) {c : Char} (hc : c ∈ n) :
    isNameChar c = true := by
  cases n with
  | nil => cases hc
  | cons d rest =>
    rcases List.mem_cons.1 hc with rfl | hc
    · simp [isNameChar, h.1]
    · exact h.2 c hc

/-- No name goes on behind a character that cannot stand in one. -/
theorem EndsName.cons {c : Char} {rest : Text} (h : isNameChar c = false) :
    EndsName (c :: rest) := by
  rintro d hd
  cases hd
  exact h

/-- A text that starts like a name starts with a name that is as long as it can be. -/
theorem exists_name {c : Char} (hc : isNameStart c = true) (tail : Text) :
    ∃ n after, c :: tail = n ++ after ∧ IsName n ∧ EndsName after := by
  refine ⟨c :: tail.takeWhile isNameChar, tail.dropWhile isNameChar, ?_, ?_, ?_⟩
  · rw [List.cons_append, List.takeWhile_append_dropWhile]
  · exact ⟨hc, fun d hd => List.all_eq_true.1 List.all_takeWhile d hd⟩
  · intro d hd
    have := List.head?_dropWhile_not isNameChar tail
    rw [hd] at this
    simpa using this

/-- A text is split in one way only into a name that is as long as it can be and what is behind. -/
theorem IsName.append_inj {n n' after after' : Text} (hn : IsName n) (hn' : IsName n')
    (ha : EndsName after) (ha' : EndsName after') (h : n ++ after = n' ++ after') :
    n = n' ∧ after = after' := by
  have hspan : ∀ {m b : Text}, IsName m → EndsName b → (m ++ b).takeWhile isNameChar = m := by
    intro m b hm hb
    rw [List.takeWhile_append_of_pos fun c hc => hm.isNameChar_of_mem hc]
    cases b with
    | nil => simp
    | cons c b => simp [hb c rfl]
  have hnn : n = n' := by rw [← hspan hn ha, h, hspan hn' ha']
  subst hnn
  exact ⟨rfl, List.append_cancel_left h⟩

/-! ## Symbols -/

/-- Symbols have one or two characters. -/
theorem Operator.length_symbol (op : Operator) : 1 ≤ op.symbol.length ∧ op.symbol.length ≤ 2 := by
  cases op <;> decide

/-- No operator takes more than two arguments. -/
theorem Operator.maxArguments_le (op : Operator) : op.maxArguments ≤ 2 := by
  cases op <;> decide

/-- No two operators share a symbol. -/
theorem Operator.symbol_injective {op op' : Operator} (h : op.symbol = op'.symbol) : op = op' := by
  have := Operator.ofSymbol?_symbol op
  rw [h, Operator.ofSymbol?_symbol] at this
  exact (Option.some.inj this).symm

/-- A text has one longest symbol at most. -/
theorem Operator.IsLongest.unique {op op' : Operator} {t : Text} (h : op.IsLongest t)
    (h' : op'.IsLongest t) : op = op' := by
  have hle := List.prefix_of_prefix_length_le h.1 h'.1 (h'.2 op h.1)
  exact Operator.symbol_injective (hle.eq_of_length_le (h.2 op' h'.1))

/-- A symbol is the longest one when it does not go on into a longer one. -/
theorem Operator.isLongest_append {op : Operator} {t : Text}
    (h : ∀ c (other : Operator), t.head? = some c → other.symbol ≠ op.symbol ++ [c]) :
    op.IsLongest (op.symbol ++ t) := by
  refine ⟨List.prefix_append _ _, fun other hother => Nat.le_of_not_lt fun hlt => ?_⟩
  -- A longer symbol has one character more, which is the first one of `t`.
  have hop := op.length_symbol.1
  have hlength := other.length_symbol.2
  obtain ⟨behind, hbehind⟩ :=
    List.prefix_of_prefix_length_le (List.prefix_append op.symbol t) hother (Nat.le_of_lt hlt)
  obtain ⟨c, rfl⟩ : ∃ c, behind = [c] := by
    rw [← List.length_eq_one_iff]
    rw [← hbehind, List.length_append] at hlt hlength
    omega
  rw [← hbehind, List.prefix_append_right_inj] at hother
  obtain ⟨rest, rfl⟩ := hother
  exact h c other rfl hbehind.symm

/-- The search for an operator finds the one with the longest symbol, as longer symbols come
first. -/
theorem Operator.leading?_eq_some_iff {op : Operator} {t : Text} :
    Operator.leading? t = some op ↔ op.IsLongest t := by
  have hsorted : Operator.longestFirst.Pairwise fun a b => b.symbol.length ≤ a.symbol.length := by
    decide
  have key : ∀ {a : Operator}, Operator.leading? t = some a → a.IsLongest t := by
    intro a h
    obtain ⟨ha, before, behind, hl, hnot⟩ := List.find?_eq_some_iff_append.1 h
    refine ⟨List.isPrefixOf_iff_prefix.1 ha, fun other ho => ?_⟩
    have hmem := Operator.mem_longestFirst other
    rw [hl] at hmem hsorted
    rcases List.mem_append.1 hmem with hb | hb
    · have := hnot other hb
      rw [List.isPrefixOf_iff_prefix.2 ho] at this
      cases this
    · rcases List.mem_cons.1 hb with rfl | hb
      · exact Nat.le_refl _
      · exact (List.pairwise_cons.1 (List.pairwise_append.1 hsorted).2.1).1 other hb
  refine ⟨key, fun h => ?_⟩
  cases hf : Operator.leading? t with
  | none =>
    have := List.find?_eq_none.1 hf op (Operator.mem_longestFirst op)
    exact absurd (List.isPrefixOf_iff_prefix.2 h.1) this
  | some a => rw [(key hf).unique h]

/-! ## What a scan tests -/

/-- `OpensReference` is what a scan tests. -/
theorem startsReference_iff {t : Text} : startsReference t = true ↔ OpensReference t := by
  constructor
  · intro h
    unfold startsReference at h
    split at h
    · next c rest => exact ⟨c, rest, rfl, by simpa using h⟩
    · cases h
  · rintro ⟨c, rest, rfl, hc⟩
    simpa [startsReference] using hc

namespace Context

/-- `Ends` is what a scan tests. -/
theorem stops_iff {context : Context} {c : Char} : context.stops c = true ↔ context.Ends c := by
  cases context <;> simp [stops, Ends]

/-- `Escapable` is what a scan tests. -/
theorem escapes_iff {context : Context} {c : Char} :
    context.escapes c = true ↔ context.Escapable c := by
  cases context <;> simp [escapes, Escapable, or_assoc]

/-- A scan finds an escape at a backslash with an escapable character behind it. -/
theorem escaped?_eq_some_iff {context : Context} {t : Text} {e : Char} :
    context.escaped? t = some e ↔ ∃ rest, t = '\\' :: e :: rest ∧ context.Escapable e := by
  constructor
  · intro h
    unfold escaped? at h
    split at h
    · next c rest =>
      split at h
      · next hc => cases h; exact ⟨rest, rfl, escapes_iff.1 hc⟩
      · cases h
    · cases h
  · rintro ⟨rest, rfl, he⟩
    simp [escaped?, escapes_iff.2 he]

/-- Nothing ends a template, so a template is regular. -/
theorem regular_template : Context.template.Regular := ⟨id, id⟩

/-- Neither the closing brace nor a separator starts an escape or a reference. -/
theorem regular_argument (op : Operator) (more : Bool) :
    (Context.argument op.separator more).Regular := by
  constructor <;> cases op <;> cases more <;> simp [Ends, Operator.separator]

end Context

end ParameterExpansion
