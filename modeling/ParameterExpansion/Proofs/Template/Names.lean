import Mathlib.Data.List.Pairwise
import ParameterExpansion.Command.Report
import ParameterExpansion.Proofs.Evaluation.Assigned
import ParameterExpansion.Proofs.Evaluation.Order
import ParameterExpansion.Proofs.Evaluation.Outcome
import ParameterExpansion.Proofs.Grammar.Spans
import ParameterExpansion.Proofs.Render.Captured
import ParameterExpansion.Proofs.Template.Accepted

/-!
# The names of a template

The names that are listed for a template, each once and in the order of their first references
(`Template.pairwise_names`), are all that an expansion of it depends on and all that it may change:
stores with the same values for these names cannot be told apart, and every other value in a store
stays as it is (`Template.depends_on_names`).
-/

namespace ParameterExpansion

/-! ## Lists of names -/

section
variable {α ι : Type} [BEq α] [LawfulBEq α] {f : ι → α} {lt : ι → ι → Prop}

/-- What is listed without repetition is in the order in which it comes up first. -/
theorem pairwise_eraseDups_map : ∀ {rs : List ι}, rs.Pairwise lt →
    (rs.map f).eraseDups.Pairwise fun a b => ∃ r ∈ rs, f r = a ∧ ∀ q ∈ rs, f q = b → lt r q
  | [], _ => by simp
  | r :: rs, h => by
    obtain ⟨hr, hrs⟩ := List.pairwise_cons.1 h
    have hfilter : (rs.map f).filter (fun b => !b == f r) =
        (rs.filter fun q => !f q == f r).map f := List.filter_map
    have hmem : ∀ {b}, b ∈ ((rs.filter fun q => !f q == f r).map f).eraseDups → f r ≠ b := by
      intro b hb heq
      obtain ⟨q, hq, hqb⟩ := List.mem_map.1 (List.mem_eraseDups.1 hb)
      rw [heq, ← hqb] at hq
      simp at hq
    rw [List.map_cons, List.eraseDups_cons, hfilter, List.pairwise_cons]
    constructor
    · intro b hb
      refine ⟨r, List.mem_cons_self, rfl, fun q hq hqb => ?_⟩
      rcases List.mem_cons.1 hq with rfl | hq
      · exact absurd hqb (hmem hb)
      · exact hr q hq
    · refine (pairwise_eraseDups_map (hrs.filter _)).imp_of_mem fun {a b} _ hb hab => ?_
      obtain ⟨r', hr', hr'a, hbefore⟩ := hab
      refine ⟨r', List.mem_cons_of_mem _ (List.mem_of_mem_filter hr'), hr'a, fun q hq hqb => ?_⟩
      rcases List.mem_cons.1 hq with rfl | hq
      · exact absurd hqb (hmem hb)
      · refine hbefore q (List.mem_filter.2 ⟨hq, ?_⟩) hqb
        have hne := hmem hb
        rw [← hqb] at hne
        simpa using hne.symm
termination_by rs => rs.length
decreasing_by exact Nat.lt_succ_of_le (List.length_filter_le _ _)

end

/-- Lines that are written out are the lines of the text, and an empty one behind the last line
feed. -/
theorem lines_unlines {ls : List Text} (h : ∀ l ∈ ls, '\n' ∉ l) :
    (unlines ls).lines = ls ++ [[]] := by
  have hline : ∀ (l rest : Text), '\n' ∉ l → Text.lines (l ++ '\n' :: rest) = l :: rest.lines := by
    intro l rest hl
    induction l with
    | nil => rw [List.nil_append, Text.lines, if_pos rfl]
    | cons c l ih =>
      obtain ⟨hc, hl⟩ := not_or.1 (List.mem_cons.not.1 hl)
      rw [List.cons_append, Text.lines, if_neg (Ne.symm hc), ih hl]
  induction ls with
  | nil => rfl
  | cons l ls ih =>
    obtain ⟨hl, hls⟩ := List.forall_mem_cons.1 h
    have hunlines : unlines (l :: ls) = l ++ '\n' :: unlines ls := by
      rw [unlines, List.flatMap_cons, List.append_assoc]
      rfl
    rw [hunlines, hline l _ hl, ih hls]
    rfl

/-- A reference has a name. -/
theorem Refers.isName {p d : Nat} {t after : Text} {r : Reference}
    (h : Refers p t after r.node d) : IsName r.name := by
  generalize hnode : r.node = node at h
  cases h <;> obtain ⟨hname, -⟩ := Node.reference.inj hnode <;> rwa [hname]

namespace Template
variable {limit : NestingLimit} {s : Text} {t : Template}

/-- The names of a template are those of its references. -/
theorem mem_names_iff {name : Text} : name ∈ t.names ↔ ∃ r ∈ t.references, r.name = name := by
  rw [names, List.mem_eraseDups, List.mem_map]

/-- The references of a template that was read are listed from left to right. -/
theorem pairwise_positions (ht : Template.parse limit s = .ok t) :
    t.references.Pairwise fun r q => r.position < q.position := by
  obtain ⟨-, d, -, ps, hps, hroot⟩ := parse_eq_ok_iff.1 ht
  have hpositions : t.references.map (·.position) = (triggers 0 s).map Nat.cast := by
    have htriggers := hps.triggers_eq id
    rw [List.append_nil] at htriggers
    rw [Template.references, hroot, Node.references_ofPieces, htriggers]
    exact (List.append_nil _).symm
  have hpairwise : (t.references.map (·.position)).Pairwise (· < ·) := by
    rw [hpositions, List.pairwise_map]
    exact (pairwise_triggers 0 s).imp Int.ofNat_lt.2
  exact List.pairwise_map.1 hpairwise

/-- The names of a template that was read are in the order of their first references, and so none of
them is listed twice. -/
theorem pairwise_names (ht : Template.parse limit s = .ok t) :
    t.names.Nodup ∧ t.names.Pairwise fun a b => ∃ r ∈ t.references, r.name = a ∧
      ∀ q ∈ t.references, q.name = b → r.position < q.position := by
  have hpairwise := pairwise_eraseDups_map (f := Reference.name) (pairwise_positions ht)
  refine ⟨hpairwise.imp ?_, hpairwise⟩
  rintro a _ ⟨r, hr, rfl, hbefore⟩ rfl
  exact absurd (hbefore r hr rfl) (Int.lt_irrefl _)

/-- The names of a template that was read are names. -/
theorem isName_of_mem_names (ht : Template.parse limit s = .ok t) {name : Text}
    (hname : name ∈ t.names) : IsName name := by
  obtain ⟨-, d, -, ps, hps, hroot⟩ := parse_eq_ok_iff.1 ht
  obtain ⟨r, hr, rfl⟩ := mem_names_iff.1 hname
  rw [Template.references, hroot, Node.references_ofPieces] at hr
  obtain ⟨_, _, _, -, -, hrefers, -⟩ := hps.standsIn r hr
  exact hrefers.isName

/-- The lines that are written for a template that was read are its names. -/
theorem lines_listed (ht : Template.parse limit s = .ok t) :
    (t.listed false).lines = t.names ++ [[]] := by
  refine lines_unlines fun name hname hmem => ?_
  have hchar := (isName_of_mem_names ht hname).isNameChar_of_mem hmem
  revert hchar
  decide

/-- The command that lists the variables writes them, if the text of its source is read. -/
theorem perform_vars {world : Surroundings} {source : Opened} {occurrences : Bool} {text : Text}
    {u : Session} (htext : Text.Utf8.decode source.octets = .ok text)
    (hread : Session.parse world.settings.maxDepth text.withLineFeeds
      (.ofResolver (.store .empty)) = .ok t u) :
    (Task.vars occurrences).perform world source =
      .report (.success (t.listed occurrences) u.log) := by
  unfold Task.perform Opened.withTemplate Opened.withText
  rw [htext]
  dsimp only
  rw [hread]

end Template

/-! ## Stores that agree on names -/

/-- The resolvers are stores with the same values for the names of which `N` holds. -/
def Resolver.AgreeOn (N : Text → Prop) (r q : Resolver) : Prop :=
  ∃ a b, r = .store a ∧ q = .store b ∧ ∀ name, N name → a.get? name = b.get? name

/-- Stores that agree on names cannot be told apart by them. -/
theorem Resolver.areAlike_agreeOn (N : Text → Prop) : AreAlike N (AgreeOn N) where
  ask := by
    rintro _ _ name hname ⟨a, b, rfl, rfl, hab⟩
    rw [Resolver.ask, Resolver.ask, hab name hname]
  acceptsAssignment := by
    rintro _ _ ⟨a, b, rfl, rfl, -⟩
    rfl
  assign := by
    rintro _ _ name value - ⟨a, b, rfl, rfl, hab⟩
    refine ⟨a.set name value, b.set name value, rfl, rfl, fun other hother => ?_⟩
    rw [Store.get?_set, Store.get?_set, hab other hother]

/-- The resolver that a run leaves. -/
theorem Run.snd_outcome {α : Type} (x : Run Session α) (r : Resolver) :
    (x.outcome r).2 = (x.left (.ofResolver r)).resolver := by
  unfold outcome outcomeIn left
  cases x (.ofResolver r) <;> rfl

/-! ## What changes in a store -/

/-- From the one session to the other a store stays a store, in which only names of which `N` holds
may have other values. -/
def Session.ChangesOnly (N : Text → Prop) (s t : Session) : Prop :=
  ∀ a, s.resolver = .store a → ∃ a', t.resolver = .store a' ∧
    ∀ name, a'.get? name ≠ a.get? name → N name

namespace Session
variable {N : Text → Prop} {s t u : Session}

/-- Nothing changes in a store that is left as it is. -/
theorem changesOnly_of_eq (h : t.resolver = s.resolver) : s.ChangesOnly N t :=
  fun a hs => ⟨a, h.trans hs, fun _ hne => absurd rfl hne⟩

/-- What may change in the course of two changes is what may in either of them. -/
theorem ChangesOnly.trans (h : s.ChangesOnly N t) (h' : t.ChangesOnly N u) :
    s.ChangesOnly N u := by
  intro a hs
  obtain ⟨b, ht, hab⟩ := h a hs
  obtain ⟨c, hu, hbc⟩ := h' b ht
  refine ⟨c, hu, fun name hname => ?_⟩
  by_cases hb : b.get? name = a.get? name
  · exact hbc name (hb ▸ hname)
  · exact hab name hb

/-- A visit changes the value of its variable at most, and only if its operator is an assigning
one. -/
theorem changesOnly_left_visit (mode : Mode) (o : Occurrence) (s : Session)
    (ho : isAssigning o.symbol = true → N o.name) :
    s.ChangesOnly N ((mode.visit o).left s) := by
  obtain hsame | ⟨_, text, -, hdefault, -, hassigned⟩ := mode.resolver_of_visit o s
  · exact changesOnly_of_eq hsame
  · intro a hs
    rw [hs] at hassigned
    refine ⟨_, hassigned, fun name hname => ?_⟩
    rw [Store.get?_set] at hname
    split at hname
    · next heq => exact heq ▸ ho hdefault.isAssigning
    · exact absurd rfl hname

end Session

namespace Template

/-- Over a store, an expansion leaves a store, in which only names with an assigning operator may
have other values. -/
theorem store_left (t : Template) (mode : Mode) (a : Store) :
    ∃ a', (t.expandOver mode (.store a)).2 = .store a' ∧ ∀ name, a'.get? name ≠ a.get? name →
      ∃ r ∈ t.references, r.name = name ∧ isAssigning r.symbol = true := by
  have hleft : Session.ChangesOnly
      (fun name => ∃ r ∈ t.references, r.name = name ∧ isAssigning r.symbol = true)
      (.ofResolver (.store a)) ((t.expand mode).left (.ofResolver (.store a))) := by
    refine Node.rel_left_evaluate (fun _ => Session.changesOnly_of_eq rfl) .trans fun v hv => ?_
    refine Session.changesOnly_left_visit mode v.1 v.2 fun hassign => ?_
    obtain ⟨r, hr, hname, hsymbol, -⟩ := Node.exists_reference_of_visits hv
    exact ⟨r, hr, hname, hsymbol ▸ hassign⟩
  obtain ⟨a', ha', hchanged⟩ := hleft a rfl
  exact ⟨a', (Run.snd_outcome _ _).trans ha', hchanged⟩

/-- An expansion depends on the names of the template alone, and touches no others. Over stores that
agree on these names it comes in each mode to the same text or fault, and leaves stores that agree
on them again; a name that has got another value is one with an assigning operator. For a template
that was read, the names are what is written when its variables are listed: one a line, each of
them once, in the order of their first references. -/
theorem depends_on_names (t : Template) :
    (∀ (mode : Mode) (a b : Store), (∀ name ∈ t.names, a.get? name = b.get? name) →
      (t.expandOver mode (.store a)).1 = (t.expandOver mode (.store b)).1 ∧
      ∃ a' b', (t.expandOver mode (.store a)).2 = .store a' ∧
        (t.expandOver mode (.store b)).2 = .store b' ∧
        ∀ name ∈ t.names, a'.get? name = b'.get? name) ∧
    (∀ (mode : Mode) (a : Store), ∃ a', (t.expandOver mode (.store a)).2 = .store a' ∧
      (∀ name, name ∉ t.names → a'.get? name = a.get? name) ∧
      ∀ name, a'.get? name ≠ a.get? name →
        ∃ r ∈ t.references, r.name = name ∧ isAssigning r.symbol = true) ∧
    (∀ {world : Surroundings} {source : Opened} {text : Text} {u : Session},
      Text.Utf8.decode source.octets = .ok text →
      Session.parse world.settings.maxDepth text.withLineFeeds (.ofResolver (.store .empty)) =
        .ok t u →
      (Task.vars false).perform world source = .report (.success (t.listed false) u.log)) ∧
    ∀ {limit : NestingLimit} {s : Text}, Template.parse limit s = .ok t →
      (t.listed false).lines = t.names ++ [[]] ∧ t.names.Nodup ∧
      (∀ name, name ∈ t.names ↔ ∃ r ∈ t.references, r.name = name) ∧
      t.names.Pairwise fun a b => ∃ r ∈ t.references, r.name = a ∧
        ∀ q ∈ t.references, q.name = b → r.position < q.position := by
  refine ⟨fun mode a b hab => ?_, fun mode a => ?_, perform_vars, fun {limit s} ht => ?_⟩
  · have hagrees : (t.expand mode).Agrees (Resolver.AgreeOn (· ∈ t.names)) :=
      Node.agrees_evaluate (N := (· ∈ t.names))
        (fun _ ho => Mode.agrees_visit (Resolver.areAlike_agreeOn _) ho mode) t.root
        fun r hr => mem_names_iff.2 ⟨r, hr, rfl⟩
    obtain ⟨hresult, a', b', ha', hb', hab'⟩ :=
      hagrees (.ofResolver (.store a)) (.ofResolver (.store b)) ⟨a, b, rfl, rfl, hab⟩
    exact ⟨hresult, a', b', ha', hb', hab'⟩
  · obtain ⟨a', ha', hchanged⟩ := t.store_left mode a
    refine ⟨a', ha', fun name hname => ?_, hchanged⟩
    by_contra hne
    obtain ⟨r, hr, hrname, -⟩ := hchanged name hne
    exact hname (mem_names_iff.2 ⟨r, hr, hrname⟩)
  · obtain ⟨hnodup, horder⟩ := pairwise_names ht
    exact ⟨lines_listed ht, hnodup, fun name => mem_names_iff, horder⟩

/-- The specimen over two stores that have the same value for `y` and none for `x`: both get the
default of `x`, and `z` is left as it is. Its variables are listed as `x` and `y`. -/
theorem depends_on_names_specimen :
    ∃ a' b', specimen.expandOver .standard
        (.store (.ofList [("y".toList, "e".toList), ("z".toList, "1".toList)])) =
        (.ok "dde".toList, .store a') ∧
      specimen.expandOver .standard (.store (.ofList [("y".toList, "e".toList)])) =
        (.ok "dde".toList, .store b') ∧
      a'.get? "x".toList = b'.get? "x".toList ∧ a'.get? "z".toList = some "1".toList ∧
      (Task.vars false).perform
        ⟨{ Settings.default with maxDepth := 1 }, .empty, [], fun _ => .ok []⟩
        ⟨"<stdin>".toList, [36, 123, 120, 58, 61, 100, 125, 36, 120, 36, 121]⟩ =
          .report (.success (specimen.listed false) [.parsed 11]) ∧
      (specimen.listed false).lines = ["x".toList, "y".toList, []] := by
  have hx : IsName ['x'] := by decide
  have hy : IsName ['y'] := by decide
  have hend : EndsName [] := fun c hc => absurd hc.symm (Option.some_ne_none c)
  have hlongest : Operator.assignEmpty.IsLongest ":=d\x7d$x$y".toList :=
    Operator.leading?_eq_some_iff.1 (by decide)
  have hdefault : Arguments .assignEmpty 5 ['d'] ('}' :: "$x$y".toList) [.text ['d']] 0 :=
    .one (by decide) (.char (Context.literal_of_ne (by simp [Context.Ends, Operator.separator])
      (by decide) (by decide) _) .nil)
  have hparse : Template.parse ⟨1, by decide, by decide⟩ specimen.source = .ok specimen :=
    parse_eq_ok_iff.2 ⟨rfl, 1, Nat.le_refl 1, _, .reference (.operator hx hlongest hdefault)
      (.reference (.bare hx (EndsName.cons (by decide)))
        (.reference (.bare hy hend) .nil)), rfl⟩
  have htext : Text.Utf8.decode [36, 123, 120, 58, 61, 100, 125, 36, 120, 36, 121] =
      .ok specimen.source := rfl
  have hread : Session.parse 1 specimen.source.withLineFeeds (.ofResolver (.store .empty)) =
      .ok specimen ⟨.store .empty, [], [.parsed 11]⟩ := by
    refine (Session.parse_levels ⟨1, by decide, by decide⟩ specimen.source _).trans ?_
    rw [hparse]
    rfl
  have hnames : specimen.names = ["x".toList, "y".toList] := rfl
  obtain ⟨hagree, hchanges, hlisted, hnamed⟩ := depends_on_names specimen
  obtain ⟨hresult, a', b', ha', hb', hab'⟩ := hagree .standard
    (.ofList [("y".toList, "e".toList), ("z".toList, "1".toList)])
    (.ofList [("y".toList, "e".toList)]) (by rw [hnames]; decide)
  obtain ⟨c', hc', hothers, -⟩ := hchanges .standard
    (.ofList [("y".toList, "e".toList), ("z".toList, "1".toList)])
  obtain rfl : c' = a' := Resolver.store.inj (hc'.symm.trans ha')
  obtain ⟨hlines, -⟩ := hnamed hparse
  have hb : (specimen.expandOver .standard (.store (.ofList [("y".toList, "e".toList)]))).1 =
      .ok "dde".toList := rfl
  refine ⟨c', b', Prod.ext (hresult.trans hb) ha', Prod.ext hb hb', hab' _ ?_, ?_,
    hlisted (u := ⟨.store .empty, [], [.parsed 11]⟩) htext hread,
    hlines.trans (by rw [hnames]; rfl)⟩
  · rw [hnames]
    exact List.mem_cons_self
  · exact (hothers "z".toList (by rw [hnames]; decide)).trans rfl

end Template

end ParameterExpansion
