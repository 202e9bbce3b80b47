import ParameterExpansion.Proofs.Evaluation.Refusal
import ParameterExpansion.Proofs.Resolver.Answering

/-!
# Standard visits

What a standard visit does: it asks the resolver, takes the answer through the operator, and writes
the result back, if it is that of an assigning operator (`Mode.expand_eq_ok_iff`,
`Mode.resolver_of_writeBack`).
-/

namespace ParameterExpansion

namespace Mode

variable {o : Occurrence} {s t : Session} {value : Option Text} {text : Text}

/-- Assigns a result to the variable whose value it differs from. -/
def assignChanged (o : Occurrence) (value : Option Text) (result : Text) : Run Session Unit :=
  if value = some result then pure () else Session.assign o.name result

/-- Assigning a result raises nothing. -/
theorem exists_assignChanged (o : Occurrence) (value : Option Text) (result : Text) (s : Session) :
    ∃ t, assignChanged o value result s = .ok () t := by
  unfold assignChanged
  split <;> exact ⟨_, rfl⟩

/-- The result of an assigning operator is written back where it can be assigned. -/
theorem writeBack_eq (o : Occurrence) (value : Option Text) (result : Text) (s : Session) :
    writeBack o value result s =
      (if isAssigning o.symbol && s.resolver.acceptsAssignment then assignChanged o value result
      else pure () : Run Session Unit) s := by
  have hwrite : writeBack o value result s =
      (if isAssigning o.symbol && value ≠ some result && s.resolver.acceptsAssignment then
        Session.assign o.name result
      else pure () : Run Session Unit) s := rfl
  rw [hwrite]
  unfold assignChanged
  by_cases hvalue : value = some result
  · simp [hvalue]
  · simp [hvalue]

/-- Writing back raises nothing. -/
theorem exists_writeBack (o : Occurrence) (value : Option Text) (result : Text) (s : Session) :
    ∃ t, writeBack o value result s = .ok () t := by
  rw [writeBack_eq]
  split
  · exact exists_assignChanged o value result s
  · exact ⟨s, rfl⟩

/-- A standard visit takes the answer of the resolver through the operator, and writes the result
back. -/
theorem expand_eq (h : Session.ask o.name s = .ok value t) :
    expand o s = (do
      let result ← Run.ofExcept (o.result value)
      writeBack o value result
      return result : Run Session Text) t :=
  Run.bind_of_ok (Run.mapFault_eq_ok_iff.2 h)

/-- Where nothing can be written back, a standard visit gives the result of the operator. -/
theorem expand_eq_ofExcept (h : Session.ask o.name s = .ok value t)
    (hassign : (isAssigning o.symbol && t.resolver.acceptsAssignment) = false) :
    expand o s = Run.ofExcept (o.result value) t := by
  rw [expand_eq h]
  cases o.result value with
  | error fault => rfl
  | ok text =>
    have hwrite := writeBack_eq o value text t
    rw [hassign] at hwrite
    rw [Run.ofExcept, pure_bind, Run.bind_of_ok hwrite]

/-- What is written back is assigned, if it can be and differs from the value. -/
theorem resolver_of_writeBack {result : Text} (h : writeBack o value result s = .ok () t) :
    t.resolver = if isAssigning o.symbol ∧ s.resolver.acceptsAssignment ∧ value ≠ some result then
      s.resolver.assign o.name result else s.resolver := by
  rw [writeBack_eq, assignChanged] at h
  by_cases hassign : (isAssigning o.symbol && s.resolver.acceptsAssignment) = true
  · obtain ⟨hsymbol, haccepts⟩ := Bool.and_eq_true_iff.1 hassign
    rw [if_pos hassign] at h
    by_cases hvalue : value = some result
    · rw [if_pos hvalue] at h
      cases h
      rw [if_neg fun hall => hall.2.2 hvalue]
    · rw [if_neg hvalue] at h
      cases h
      exact (if_pos ⟨hsymbol, haccepts, hvalue⟩).symm
  · rw [if_neg hassign] at h
    cases h
    rw [if_neg fun hall => hassign (Bool.and_eq_true_iff.2 ⟨hall.1, hall.2.1⟩)]

/-- A standard visit ends well if the resolver has an answer and the operator a result. -/
theorem expand_eq_ok_iff :
    expand o s = .ok text t ↔ ∃ value u, Session.ask o.name s = .ok value u ∧
      o.result value = .ok text ∧ writeBack o value text u = .ok () t := by
  unfold expand
  rw [Run.bind_eq_ok_iff]
  constructor
  · rintro ⟨value, u, hvalue, h⟩
    obtain ⟨result, v, hoperator, hrest⟩ := Run.bind_eq_ok_iff.1 h
    obtain ⟨hresult, rfl⟩ := Run.ofExcept_eq_ok_iff.1 hoperator
    obtain ⟨_, w, hwrite, hreturn⟩ := Run.bind_eq_ok_iff.1 hrest
    cases hreturn
    exact ⟨value, u, Run.mapFault_eq_ok_iff.1 hvalue, hresult, hwrite⟩
  · rintro ⟨value, u, hvalue, hresult, hwrite⟩
    exact ⟨value, u, Run.mapFault_eq_ok_iff.2 hvalue, Run.bind_eq_ok_iff.2
      ⟨text, u, Run.ofExcept_eq_ok_iff.2 ⟨hresult, rfl⟩, Run.bind_eq_ok_iff.2 ⟨(), t, hwrite, rfl⟩⟩⟩

/-- Over a resolver that always answers, a standard visit raises nothing but what the operator
does. -/
theorem exists_result_of_expand {fault : Fault} (hs : s.resolver.Answers)
    (h : expand o s = .error fault t) : ∃ value, o.result value = .error fault := by
  obtain ⟨value, hvalue⟩ := hs.exists_ask o.name
  rcases expand_eq_error_iff.1 h with hlookup | ⟨value, -, hresult⟩
  · obtain ⟨raised, hraised, -⟩ := Run.mapFault_eq_error_iff.1 hlookup
    rw [Session.ask_eq_ok_iff.2 ⟨hvalue, rfl⟩] at hraised
    cases hraised
  · exact ⟨value, hresult⟩

/-- A standard visit keeps a resolver answering. -/
theorem answers_of_expand (hs : s.resolver.Answers) (h : expand o s = .ok text t) :
    t.resolver.Answers := by
  obtain ⟨value, u, hvalue, -, hwrite⟩ := expand_eq_ok_iff.1 h
  obtain ⟨-, rfl⟩ := Session.ask_eq_ok_iff.1 hvalue
  rw [resolver_of_writeBack hwrite]
  split
  · exact hs.assign _ _
  · exact hs

end Mode

/-! ## A specimen -/

/-- The template `$\x7bx:=d\x7d$x$y`, which gives a variable a default, uses it, and uses another
one. -/
def Template.specimen : Template where
  root := .sequence [
    .reference "x".toList ":=".toList [.text "d".toList] "$\x7bx:=d\x7d".toList 0,
    .reference "x".toList [] [] "$x".toList 7,
    .reference "y".toList [] [] "$y".toList 9]
  source := "$\x7bx:=d\x7d$x$y".toList

/-- A function without values and an empty store. -/
def Resolver.specimen : Resolver := .chain [.function fun _ => .ok none, .store .empty]

/-- The specimen always answers. -/
theorem Resolver.answers_specimen : Resolver.specimen.Answers :=
  .chain (List.forall_mem_cons.2 ⟨.function fun _ => ⟨none, rfl⟩,
    List.forall_mem_singleton.2 .store⟩)

example : (Template.parse ⟨1, by decide, by decide⟩ Template.specimen.source).map (·.root) =
    .ok Template.specimen.root := by cbv

end ParameterExpansion
