import ParameterExpansion.Proofs.Evaluation.Assigned
import ParameterExpansion.Proofs.Render.Captured

/-!
# Stores are only filled in

A resolver in use may be given one job after the other: templates are expanded and texts are
rendered, in any mode, and each job goes on from what the ones before it have left, however they
ended. The visits that the jobs make follow each other (`Linked`), and a visit changes at most the
value that the first store has for the variable: it gives it one where there is none, or another one
where it is empty (`Filled`). So over all jobs stored values are only filled in (`Job.filledIn`).
-/

namespace ParameterExpansion

/-! ## Jobs and their visits -/

/-- What is done with a resolver in use. -/
inductive Job where
  /-- A template is expanded. -/
  | expand (mode : Mode) (template : Template)
  /-- A text is read and expanded, under a limit of so many levels and in the mode of some flags. -/
  | render (levels : Int) (flags : Flags) (source : Text)

/-- A visit that a job makes. -/
structure Visit where
  /-- The mode of the job. -/
  mode : Mode
  /-- What is visited. -/
  occurrence : Occurrence
  /-- The session in which it is. -/
  before : Session

/-- The session that a visit leaves, however it ends. -/
def Visit.after (v : Visit) : Session := (v.mode.visit v.occurrence).left v.before

/-- The visits of an expansion. -/
def Template.visitsIn (mode : Mode) (template : Template) (s : Session) : List Visit :=
  (template.root.visits mode.visit s).map fun v => ⟨mode, v.1, v.2⟩

namespace Job

/-- The session that a job leaves, however it ends. -/
def left : Job → Session → Session
  | .expand mode template => (template.expand mode).left
  | .render levels flags source => (ParameterExpansion.render levels flags source).left

/-- The visits that a job makes; a text that cannot be read has none. -/
def visits : Job → Session → List Visit
  | .expand mode template, s => template.visitsIn mode s
  | .render levels flags source, s => match Session.parse levels source s with
    | .ok template t => template.visitsIn flags.mode t
    | .error _ _ => []

/-- The session that jobs leave, each of them being done in what the one before it left. -/
def leftAll (jobs : List Job) (s : Session) : Session := jobs.foldl (fun s job => job.left s) s

/-- The visits that jobs make one after the other. -/
def visitsAll : List Job → Session → List Visit
  | [], _ => []
  | job :: jobs, s => job.visits s ++ visitsAll jobs (job.left s)

end Job

/-- Visits that follow each other: each is made over the resolver that the one before it leaves, the
first one over the resolver `r`, and the last one leaves `q`. -/
inductive Linked : Resolver → List Visit → Resolver → Prop
  /-- No visit is made. -/
  | nil : Linked r [] r
  /-- A visit is made, and others follow it. -/
  | cons {v : Visit} {r q : Resolver} {vs : List Visit} : v.before.resolver = r →
      Linked v.after.resolver vs q → Linked r (v :: vs) q

section
variable {r q p : Resolver} {vs ws : List Visit} {s t : Session}

/-- Visits that follow each other are followed by others that do. -/
theorem Linked.append (h : Linked r vs q) (h' : Linked q ws p) : Linked r (vs ++ ws) p := by
  induction h with
  | nil => exact h'
  | cons hbefore _ ih => exact .cons hbefore (ih h')

/-- The visits of a walk follow each other. -/
theorem Walk.linked {mode : Mode} {fault? : Option Fault} {vs : List (Occurrence × Session)}
    (h : Walk mode.visit s vs fault? t) :
    Linked s.resolver (vs.map fun v => ⟨mode, v.1, v.2⟩) t.resolver := by
  induction h with
  | nil => exact .nil
  | fault h =>
    rw [← Run.left_of_error h]
    exact .cons rfl .nil
  | cons h _ ih =>
    rw [← Run.left_of_ok h] at ih
    exact .cons rfl ih

/-- The visits of an expansion follow each other. -/
theorem Template.linked_visitsIn (mode : Mode) (template : Template) (s : Session) :
    Linked s.resolver (template.visitsIn mode s) ((template.expand mode).left s).resolver := by
  obtain ⟨_, hwalk⟩ := template.root.exists_walk_left mode.visit s
  exact hwalk.linked

/-- Reading a template leaves the resolver as it is. -/
theorem Session.resolver_left_parse (levels : Int) (source : Text) (s : Session) :
    ((Session.parse levels source).left s).resolver = s.resolver := by
  unfold Session.parse
  cases NestingLimit.ofInt levels with
  | error reason => rfl
  | ok limit =>
    dsimp only
    cases Template.parse limit source <;> rfl

/-- What is reported is noted, and the resolver is left as it was. -/
theorem resolver_left_reporting (run : Run Session Text) (s : Session) :
    ((reporting run).left s).resolver = (run.left s).resolver := by
  cases h : run s with
  | ok text t =>
    have hreporting : reporting run s = .ok (.expanded text) t := by rw [reporting, h]
    rw [Run.left_of_ok h, Run.left_of_ok hreporting]
  | error fault t =>
    have hreporting : reporting run s = if fault.isReported then
        .ok (.failed fault.text) { t with log := t.log ++ [.expansionFailed fault.text] }
        else .error fault t := by rw [reporting, h]
    rw [Run.left_of_error h, Run.left, hreporting]
    cases fault.isReported <;> rfl

/-- The visits of a job follow each other. -/
theorem Job.linked : ∀ (job : Job) (s : Session),
    Linked s.resolver (job.visits s) (job.left s).resolver
  | .expand mode template, s => template.linked_visitsIn mode s
  | .render levels flags source, s => by
    have hparse := Session.resolver_left_parse levels source s
    rw [Job.left, ParameterExpansion.render, resolver_left_reporting, Job.visits]
    cases h : Session.parse levels source s with
    | ok template t =>
      rw [Run.left_of_ok h] at hparse
      have hlinked := template.linked_visitsIn flags.mode t
      rw [hparse] at hlinked
      rw [Run.left, Run.bind_of_ok h]
      exact hlinked
    | error fault t =>
      rw [Run.left_of_error h] at hparse
      rw [Run.left_of_error (Run.bind_of_error h), hparse]
      exact .nil

/-- The visits of jobs follow each other. -/
theorem Job.linked_visitsAll (jobs : List Job) (s : Session) :
    Linked s.resolver (visitsAll jobs s) (leftAll jobs s).resolver := by
  induction jobs generalizing s with
  | nil => exact .nil
  | cons job jobs ih => exact (job.linked s).append (ih (job.left s))

end

/-! ## Overrides and environments -/

namespace Resolver
variable {values : Store} {environment : Option Store}

/-- Overrides come first. -/
theorem ask_overriding (name : Text) :
    (overriding values environment).ask name =
      .ok ((values.get? name).or (environment.bind (·.get? name))) := by
  cases environment with
  | none => rw [overriding, ask, Option.bind_none, Option.or_none]
  | some environment =>
    rw [overriding, ask, askEach, ask, askEach, ask, askEach, Option.bind_some]
    cases values.get? name with
    | some value => rfl
    | none => cases environment.get? name <;> rfl

/-- What is assigned goes to the overrides. -/
theorem assign_overriding (name value : Text) :
    (overriding values environment).assign name value =
      overriding (values.set name value) environment := by
  cases environment <;> rfl

end Resolver

/-! ## Filling in -/

/-- What may become of the stored value of a name at an occurrence for which the resolver has a
certain answer. -/
inductive Filled (o : Occurrence) (answer : Option Text) (name : Text) :
    Option Text → Option Text → Prop
  /-- It stays. -/
  | same : Filled o answer name stored stored
  /-- The name had none, and its default was taken. -/
  | added : o.name = name → o.TakesDefault answer → Filled o answer name none (some value)
  /-- It was empty, and the name has been given another one by `:=`. -/
  | replaced : o.name = name → o.symbol = Operator.assignEmpty.symbol → value ≠ [] →
      Filled o answer name (some []) (some value)

section
variable {o o' : Occurrence} {answer answer' before between after : Option Text} {name : Text}

/-- A stored value is not removed, and stays if it is not empty. -/
theorem Filled.exists_stored {value : Text} (h : Filled o answer name (some value) after) :
    ∃ value', after = some value' ∧ (value ≠ [] → value' = value) := by
  cases h with
  | same => exact ⟨value, rfl, fun _ => rfl⟩
  | replaced => exact ⟨_, rfl, fun hvalue => absurd rfl hvalue⟩

/-- Only the value of the variable is changed. -/
theorem Filled.name_eq (h : Filled o answer name before after) (hchanged : before ≠ after) :
    o.name = name := by
  cases h with
  | same => exact absurd rfl hchanged
  | added hname => exact hname
  | replaced hname => exact hname

/-- Once a stored value has been changed, what becomes of it further is as if it had been at
once. -/
theorem Filled.trans (h : Filled o answer name before between) (hchanged : before ≠ between)
    (h' : Filled o' answer' name between after) : Filled o answer name before after := by
  cases h with
  | same => exact absurd rfl hchanged
  | added hname hdefault =>
    cases h' with
    | same => exact .added hname hdefault
    | replaced => exact .added hname hdefault
  | replaced hname hsymbol hvalue =>
    cases h' with
    | same => exact .replaced hname hsymbol hvalue
    | replaced => exact absurd rfl hvalue

/-- What may become of the stored value of a name in the course of some visits. -/
def FilledBy (vs : List Visit) (name : Text) (before after : Option Text) : Prop :=
  before = after ∨ ∃ v ∈ vs, ∃ answer, v.before.resolver.ask name = .ok answer ∧
    v.occurrence.name = name ∧ Filled v.occurrence answer name before after

/-- A stored value is not removed in the course of visits, and stays if it is not empty. -/
theorem FilledBy.exists_stored {vs : List Visit} {value : Text}
    (h : FilledBy vs name (some value) after) :
    ∃ value', after = some value' ∧ (value ≠ [] → value' = value) := by
  rcases h with rfl | ⟨_, -, _, -, -, h⟩
  · exact ⟨value, rfl, fun _ => rfl⟩
  · exact h.exists_stored

end

section
variable {values : Store} {environment : Option Store}

/-- A visit over overrides and an environment fills in what is stored in the overrides. -/
theorem Visit.filled {v : Visit} (hbefore : v.before.resolver = .overriding values environment) :
    ∃ values' answer, v.after.resolver = .overriding values' environment ∧
      v.before.resolver.ask v.occurrence.name = .ok answer ∧
      ∀ name, Filled v.occurrence answer name (values.get? name) (values'.get? name) := by
  have hask : (Resolver.overriding values environment).ask v.occurrence.name = _ :=
    Resolver.ask_overriding v.occurrence.name
  rw [← hbefore] at hask
  obtain hsame | ⟨answer, text, hanswer, hdefault, hchanged, hafter⟩ :=
    v.mode.resolver_of_visit v.occurrence v.before
  · exact ⟨values, _, hsame.trans hbefore, hask, fun name => .same⟩
  rw [hbefore, Resolver.assign_overriding] at hafter
  refine ⟨_, answer, hafter, hanswer, fun name => ?_⟩
  rw [Store.get?_set]
  split
  · next hname =>
    subst hname
    rw [hask] at hanswer
    cases hstored : values.get? v.occurrence.name with
    | none => exact .added rfl hdefault
    | some stored =>
      -- The overrides answer, so what they have stored is empty.
      rw [hstored] at hanswer
      cases hanswer
      rcases hdefault with ⟨-, hnone⟩ | ⟨hsymbol, hnone | hempty⟩
      · cases hnone
      · cases hnone
      · cases hempty
        exact .replaced rfl hsymbol fun hnil => hchanged (congrArg some hnil.symm)
  · exact .same

/-- Visits that follow each other over overrides and an environment fill in what is stored in the
overrides, each of them and all together. -/
theorem Linked.filled {vs : List Visit} {r q : Resolver} (h : Linked r vs q)
    (hr : r = .overriding values environment) :
    (∀ v ∈ vs, ∃ before, v.before.resolver = .overriding before environment) ∧
    ∃ values', q = .overriding values' environment ∧
      ∀ name, FilledBy vs name (values.get? name) (values'.get? name) := by
  induction h generalizing values with
  | nil => exact ⟨nofun, values, hr, fun _ => .inl rfl⟩
  | @cons v r q vs hbefore _ ih =>
    have hv := hbefore.trans hr
    obtain ⟨between, answer, hafter, hanswer, hfirst⟩ := Visit.filled hv
    obtain ⟨hvisits, values', hq, hothers⟩ := ih hafter
    refine ⟨List.forall_mem_cons.2 ⟨⟨values, hv⟩, hvisits⟩, values', hq, fun name => ?_⟩
    by_cases hchanged : values.get? name = between.get? name
    · rw [hchanged]
      refine (hothers name).imp id ?_
      rintro ⟨w, hw, h⟩
      exact ⟨w, List.mem_cons_of_mem _ hw, h⟩
    · -- The first visit has changed the value, so what becomes of it further is due to this visit.
      have hname := (hfirst name).name_eq hchanged
      refine .inr ⟨v, List.mem_cons_self, answer, hname ▸ hanswer, hname, ?_⟩
      rcases hothers name with heq | ⟨_, -, _, -, -, h⟩
      · exact heq ▸ hfirst name
      · exact (hfirst name).trans hchanged h

end

/-- Stored values are only filled in. Over any jobs on a resolver of overrides, with an environment
behind them or without, however the jobs end, all that happens happens at visits that follow each
other. Only the overrides may become others, in each visit and over all of them, and only so that a
name that has none gets a value where its default is taken, and an empty value is replaced by one
that is not empty where `:=` takes its default. So no name is removed, and a value that is not empty
stays. -/
theorem Job.filledIn (jobs : List Job) {s : Session} {values : Store} {environment : Option Store}
    (hs : s.resolver = .overriding values environment) :
    Linked s.resolver (visitsAll jobs s) (leftAll jobs s).resolver ∧
    (∀ v ∈ visitsAll jobs s, ∃ before after answer,
      v.before.resolver = .overriding before environment ∧
      v.after.resolver = .overriding after environment ∧
      v.before.resolver.ask v.occurrence.name = .ok answer ∧
      ∀ name, Filled v.occurrence answer name (before.get? name) (after.get? name)) ∧
    ∃ values', (leftAll jobs s).resolver = .overriding values' environment ∧
      ∀ name, FilledBy (visitsAll jobs s) name (values.get? name) (values'.get? name) ∧
        ∀ value, values.get? name = some value →
          ∃ value', values'.get? name = some value' ∧ (value ≠ [] → value' = value) := by
  have hlinked := linked_visitsAll jobs s
  obtain ⟨hvisits, values', hleft, hfilled⟩ := hlinked.filled hs
  refine ⟨hlinked, fun v hv => ?_, values', hleft,
    fun name => ⟨hfilled name, fun value hvalue => ?_⟩⟩
  · obtain ⟨before, hbefore⟩ := hvisits v hv
    obtain ⟨after, answer, hafter, hanswer, hstep⟩ := Visit.filled hbefore
    exact ⟨before, after, answer, hbefore, hafter, hanswer, hstep⟩
  · have hname := hfilled name
    rw [hvalue] at hname
    exact hname.exists_stored

/-- A strict expansion of the specimen, and a text that is rendered behind it. -/
def Job.specimens : List Job :=
  [.expand (.strict ⟨true, false⟩) .specimen, .render 1 .none "$x".toList]

/-- The strict expansion is refused at `y`. The default of `x` is stored by then, and has come in
where `x` had no value. -/
theorem Job.filledIn_specimen :
    ∃ values', (leftAll specimens (.ofResolver (.overriding .empty none))).resolver =
        .overriding values' none ∧
      values'.get? "x".toList = some "d".toList ∧
      ∃ v ∈ visitsAll specimens (.ofResolver (.overriding .empty none)),
        v.occurrence.name = "x".toList ∧
        ∃ answer, v.before.resolver.ask "x".toList = .ok answer ∧
          v.occurrence.TakesDefault answer := by
  have hs : (Session.ofResolver (.overriding .empty none)).resolver = .overriding .empty none := rfl
  obtain ⟨-, -, values', hleft, hfilled⟩ := filledIn specimens hs
  have hx : IsName ['x'] := by decide
  have hend : EndsName [] := fun c hc => absurd hc.symm (Option.some_ne_none c)
  have hparse : Template.parse ⟨1, by decide, by decide⟩ "$x".toList =
      .ok ⟨.reference ['x'] [] [] "$x".toList 0, "$x".toList⟩ :=
    Template.parse_eq_ok_iff.2 ⟨rfl, 0, Nat.zero_le 1, _, .reference (.bare hx hend) .nil, rfl⟩
  have hread (s : Session) : Session.parse 1 "$x".toList s =
      .ok ⟨.reference ['x'] [] [] "$x".toList 0, "$x".toList⟩ (s.afterReading "$x".toList) := by
    refine (Session.parse_levels ⟨1, by decide, by decide⟩ _ s).trans ?_
    rw [hparse]
  have hask : (leftAll specimens (.ofResolver (.overriding .empty none))).resolver.ask
      "x".toList = .ok (some "d".toList) := by
    show ((ParameterExpansion.render 1 .none "$x".toList).left _).resolver.ask _ = _
    rw [ParameterExpansion.render, resolver_left_reporting, Run.left, Run.bind_of_ok (hread _)]
    rfl
  rw [hleft, Resolver.ask_overriding, Option.bind_none, Option.or_none] at hask
  have hx := Except.ok.inj hask
  refine ⟨values', hleft, hx, ?_⟩
  obtain ⟨hfilled, -⟩ := hfilled "x".toList
  rw [hx] at hfilled
  obtain hsame | ⟨v, hv, answer, hanswer, hname, hadded⟩ := hfilled
  · cases hsame
  · cases hadded with
    | added _ hdefault => exact ⟨v, hv, hname, answer, hanswer, hdefault⟩

end ParameterExpansion
