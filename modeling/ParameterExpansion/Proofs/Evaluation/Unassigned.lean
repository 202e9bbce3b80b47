import ParameterExpansion.Proofs.Evaluation.Assigned
import ParameterExpansion.Proofs.Evaluation.Joined
import ParameterExpansion.Proofs.Evaluation.Outcome

/-!
# Evaluations that assign nothing

Where nothing is assigned, each visit gives the result of its operator for the value of its variable
(`Mode.outcomeIn_standard`), or in a preserving evaluation the reference as it is written
(`Mode.outcomeIn_preserving`). So the value of a tree over a store is a text or a fault
(`Node.valueOver`), and the values of trees side by side can be taken one by one
(`Node.valueOverEach_cons`).
-/

namespace ParameterExpansion

/-- An operator that does not say what a missing value means assigns nothing. -/
theorem isAssigning_of_not_isDefaulting {symbol : Text} (h : isDefaulting symbol = false) :
    isAssigning symbol = false := by
  unfold isDefaulting at h
  unfold isAssigning
  cases hop : Operator.ofSymbol? symbol with
  | none => rfl
  | some op =>
    rw [hop] at h
    cases op with
    | assignUnset | assignEmpty => cases h
    | _ => rfl

/-! ## Visits -/

/-- The resolvers are these stores. -/
def Resolver.AreStores (a b : Store) (r q : Resolver) : Prop := r = .store a ∧ q = .store b

namespace Mode
variable {o : Occurrence} {s : Session} {value : Option Text} {m m₁ m₂ : Store}

/-- What does nothing but ask for a value that there is, and then gives something, comes to that. -/
theorem outcomeIn_of_ask {visit : Run Session Text} {result : Except Fault Text}
    (hvalue : s.resolver.ask o.name = .ok value)
    (hvisit : ∀ t, Session.ask o.name s = .ok value t → visit s = Run.ofExcept result t) :
    visit.outcomeIn s = (result, s.resolver) := by
  rw [Run.outcomeIn, hvisit _ (Session.ask_eq_ok_iff.2 ⟨hvalue, rfl⟩)]
  cases result <;> rfl

/-- A standard visit with an operator that assigns nothing gives the result for the value of the
variable. -/
theorem outcomeIn_standard (hvalue : s.resolver.ask o.name = .ok value)
    (ho : isAssigning o.symbol = false) :
    (standard.visit o).outcomeIn s = (o.result value, s.resolver) :=
  outcomeIn_of_ask hvalue fun _ hask => expand_eq_ofExcept hask (by rw [ho, Bool.false_and])

/-- A preserving visit gives the reference as it is written if the variable is unset and its
operator does not say what this means, and otherwise the result for its value. -/
theorem outcomeIn_preserving (hvalue : s.resolver.ask o.name = .ok value) :
    (preserving.visit o).outcomeIn s =
      (if value = none && !isDefaulting o.symbol then .ok o.source else o.result value,
        s.resolver) := by
  refine outcomeIn_of_ask hvalue fun t hask => ?_
  rw [preserving_visit_eq hask]
  split <;> rfl

/-- The value of a variable over a store is what is stored. -/
theorem ask_of_store (hs : s.resolver = .store m) :
    s.resolver.ask o.name = .ok (m.get? o.name) := by
  rw [hs]
  rfl

/-- A standard visit with an operator that assigns nothing leaves a store as it is. -/
theorem agrees_standard (ho : isAssigning o.symbol = false) :
    (standard.visit o).Agrees (Resolver.AreStores m m) := by
  rintro s t ⟨hs, ht⟩
  rw [outcomeIn_standard (ask_of_store hs) ho, outcomeIn_standard (ask_of_store ht) ho]
  exact ⟨rfl, hs, ht⟩

/-- A preserving visit leaves a store as it is. -/
theorem agrees_preserving : (preserving.visit o).Agrees (Resolver.AreStores m m) := by
  rintro s t ⟨hs, ht⟩
  rw [outcomeIn_preserving (ask_of_store hs), outcomeIn_preserving (ask_of_store ht)]
  exact ⟨rfl, hs, ht⟩

/-- A preserving visit with an operator that assigns nothing comes to what a standard one does over
any resolver with the same answer, if the variable has a value or the operator says what it means
that it has none. -/
theorem preserving_matches {r q : Resolver} (hr : r.ask o.name = .ok value)
    (hq : q.ask o.name = .ok value) (hassign : isAssigning o.symbol = false)
    (hset : isDefaulting o.symbol = false → value ≠ none) :
    (preserving.visit o).Matches (fun p p' => p = r ∧ p' = q) (standard.visit o) := by
  rintro s t ⟨hs, ht⟩
  have hask : s.resolver.ask o.name = .ok value := by rw [hs, hr]
  have hask' : t.resolver.ask o.name = .ok value := by rw [ht, hq]
  have hkept : ¬ (value = none && !isDefaulting o.symbol) = true := by
    simpa using fun hnone hdefaulting => hset hdefaulting hnone
  rw [outcomeIn_preserving hask, if_neg hkept, outcomeIn_standard hask' hassign]
  exact ⟨rfl, hs, ht⟩

/-- Where a name is stored, a preserving visit gives what a standard one does over any store that
has the same there, unless the operator is a defaulting one. -/
theorem preserving_matches_standard (ho : isDefaulting o.symbol = false)
    (hname : m₁.get? o.name ≠ none) (hsame : m₂.get? o.name = m₁.get? o.name) :
    (preserving.visit o).Matches (Resolver.AreStores m₁ m₂) (standard.visit o) :=
  preserving_matches rfl (congrArg Except.ok hsame) (isAssigning_of_not_isDefaulting ho)
    fun _ => hname

end Mode

/-! ## Values over a store -/

namespace Node
variable {mode : Mode} {m m₁ m₂ : Store} {n : Node} {ns : List Node}

/-- The value of a tree over a store. -/
def valueOver (mode : Mode) (m : Store) (n : Node) : Except Fault Text :=
  ((n.evaluate mode.visit).outcome (.store m)).1

/-- The values of trees over a store, side by side. -/
def valueOverEach (mode : Mode) (m : Store) (ns : List Node) : Except Fault Text :=
  ((evaluateJoined mode.visit ns).outcome (.store m)).1

/-- An evaluation of the tree leaves a store as it is. -/
def Keeps (mode : Mode) (m : Store) (n : Node) : Prop :=
  (n.evaluate mode.visit).Agrees (Resolver.AreStores m m)

/-- Where no operator assigns anything, a standard evaluation leaves a store as it is. -/
theorem keeps_standard (h : ∀ r ∈ n.references, isAssigning r.symbol = false) :
    n.Keeps .standard m :=
  matches_evaluate n fun r hr _ => Mode.agrees_standard (h r hr)

/-- A preserving evaluation leaves a store as it is. -/
theorem keeps_preserving (m : Store) (n : Node) : n.Keeps .preserving m :=
  matches_evaluate n fun _ _ _ => Mode.agrees_preserving

/-- The evaluation of a text leaves a store as it is. -/
theorem keeps_text (value : Text) : (text value).Keeps mode m := Run.agrees_pure value

/-- A text is its own value. -/
@[simp] theorem valueOver_text (value : Text) : valueOver mode m (.text value) = .ok value := rfl

/-- Positions do not matter to the value over a store. -/
@[simp] theorem valueOver_moved (distance : Int) :
    (n.moved distance).valueOver mode m = n.valueOver mode m := by
  rw [valueOver, moved, evaluate_mapPositions, ← valueOver]

/-- The first value is taken first, and over the same store as the others. -/
theorem valueOverEach_cons (hn : n.Keeps mode m) :
    valueOverEach mode m (n :: ns) = match n.valueOver mode m with
      | .ok value => (valueOverEach mode m ns).map (value ++ ·)
      | .error fault => .error fault := by
  have hns : (evaluateJoined mode.visit ns).IsBlind := by
    refine Run.IsBlind.bind ?_ fun _ => Run.isBlind_pure _
    exact Run.isBlind_iff_agrees.2 (matches_evaluateEach ns fun r _ values =>
      Run.isBlind_iff_agrees.1 (mode.isBlind_visit ⟨r.name, r.symbol, values, r.source⟩))
  have hleft := (hn (.ofResolver (.store m)) (.ofResolver (.store m)) ⟨rfl, rfl⟩).2.1
  rw [valueOverEach, evaluateJoined_cons, Run.outcome_bind fun _ => hns.bind fun _ =>
    Run.isBlind_pure _, valueOver]
  have hfirst : (n.evaluate mode.visit).outcome (.store m) =
      (((n.evaluate mode.visit).outcome (.store m)).1, .store m) := Prod.ext rfl hleft
  rw [hfirst]
  cases ((n.evaluate mode.visit).outcome (.store m)).1 with
  | error fault => rfl
  | ok value =>
    dsimp only
    rw [Run.outcome_bind fun _ => Run.isBlind_pure _, valueOverEach]
    rcases (evaluateJoined mode.visit ns).outcome (.store m) with ⟨_ | text, left⟩ <;> rfl

/-- Trees side by side have a text as their value when the first one has one and the others do. -/
theorem valueOverEach_cons_eq_ok_iff (hn : n.Keeps mode m) {text : Text} :
    valueOverEach mode m (n :: ns) = .ok text ↔ ∃ value rest, n.valueOver mode m = .ok value ∧
      valueOverEach mode m ns = .ok rest ∧ text = value ++ rest := by
  rw [valueOverEach_cons hn]
  cases n.valueOver mode m with
  | error fault => simp
  | ok value =>
    cases valueOverEach mode m ns with
    | error fault => simp [Except.map]
    | ok rest => simp [Except.map, eq_comm]

/-- Characters are their own values. -/
theorem valueOverEach_chars (chars : Text) :
    valueOverEach mode m (chars.map (fun c => .text [c]) ++ ns) =
      (valueOverEach mode m ns).map (chars ++ ·) := by
  induction chars with
  | nil =>
    rw [List.map_nil, List.nil_append]
    cases valueOverEach mode m ns <;> rfl
  | cons c chars ih =>
    rw [List.map_cons, List.cons_append, valueOverEach_cons (keeps_text [c]), valueOver_text, ih]
    cases valueOverEach mode m ns <;> rfl

/-- Where all names are stored, and no operator is a defaulting one, the value of a preserving
evaluation is that of a standard one over any store that has more names. -/
theorem valueOver_preserving_eq (hsymbols : ∀ r ∈ n.references, isDefaulting r.symbol = false)
    (hnames : ∀ r ∈ n.references, m₁.get? r.name ≠ none)
    (hmore : ∀ name value, m₁.get? name = some value → m₂.get? name = some value) :
    n.valueOver .preserving m₁ = n.valueOver .standard m₂ := by
  have hmatches : (n.evaluate Mode.preserving.visit).Matches (Resolver.AreStores m₁ m₂)
      (n.evaluate Mode.standard.visit) := by
    refine matches_evaluate n fun r hr values => ?_
    refine Mode.preserving_matches_standard (hsymbols r hr) (hnames r hr) ?_
    obtain ⟨value, hvalue⟩ := Option.ne_none_iff_exists'.1 (hnames r hr)
    exact (hmore _ _ hvalue).trans hvalue.symm
  exact (hmatches (.ofResolver (.store m₁)) (.ofResolver (.store m₂)) ⟨rfl, rfl⟩).1

/-- A preserving evaluation that ends well leaves a reference as it is written when nothing is
stored for its variable, unless its operator is a defaulting one. -/
theorem valueOver_preserving_of_unset {r : Reference} {text : Text}
    (hsymbol : isDefaulting r.symbol = false) (hname : m.get? r.name = none)
    (h : r.node.valueOver .preserving m = .ok text) : text = r.source := by
  have harguments : (evaluateEach Mode.preserving.visit r.arguments).Agrees
      (Resolver.AreStores m m) :=
    matches_evaluateEach r.arguments fun _ _ _ => Mode.agrees_preserving
  have hleft := (harguments (.ofResolver (.store m)) (.ofResolver (.store m)) ⟨rfl, rfl⟩).2.1
  rw [valueOver, Reference.node, evaluate, Run.outcome, Run.outcomeIn_bind] at h
  unfold Run.outcomeIn at hleft
  cases hvalues : evaluateEach Mode.preserving.visit r.arguments (.ofResolver (.store m)) with
  | error fault t =>
    rw [hvalues] at h
    cases h
  | ok values t =>
    rw [hvalues] at h hleft
    dsimp only at h
    rw [Mode.outcomeIn_preserving (Mode.ask_of_store hleft), if_pos (by simp [hname, hsymbol])] at h
    exact (Except.ok.inj h).symm

end Node

end ParameterExpansion
