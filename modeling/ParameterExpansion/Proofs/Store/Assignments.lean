import Mathlib.Data.List.Induction
import ParameterExpansion.Assignment

/-!
# The store that assignments make up

Assignments are refused at the first entry that has no equals sign or nothing before it; otherwise
they make up the store in which each name has the value of its last entry, in the order of the first
ones (`Store.ofAssignments_exact`). This holds of any list of pairs that is set one after the other
(`Store.names_ofList`, `Store.get?_ofList`), and names that differ come out as they went in
(`Store.entries_ofList`).
-/

namespace ParameterExpansion

/-! ## Setting pairs one after the other -/

namespace Store

/-- A new name is put at the end. -/
theorem insert_of_not_mem {name value : Text} {entries : List (Text × Text)}
    (h : name ∉ entries.map Prod.fst) : insert name value entries = entries ++ [(name, value)] := by
  induction entries with
  | nil => rfl
  | cons entry rest ih =>
    obtain ⟨hne, hrest⟩ := not_or.1 (List.mem_cons.not.1 h)
    rw [insert, if_neg (Ne.symm hne), ih hrest, List.cons_append]

/-- The last pair is set after all others. -/
theorem ofList_concat (pairs : List (Text × Text)) (pair : Text × Text) :
    ofList (pairs ++ [pair]) = (ofList pairs).set pair.1 pair.2 := by
  rw [ofList, List.foldl_append]
  rfl

/-- The names come in the order in which they are first set. -/
theorem names_ofList (pairs : List (Text × Text)) :
    (ofList pairs).names = (pairs.map Prod.fst).eraseDups := by
  induction pairs using List.reverseRecOn with
  | nil => rfl
  | append_singleton pairs pair ih =>
    rw [ofList_concat, names_set, ih, List.map_append, List.eraseDups_append, List.map_singleton]
    simp only [List.mem_eraseDups]
    by_cases h : pair.1 ∈ pairs.map Prod.fst <;>
      simp [List.removeAll, List.eraseDups_cons, h]

/-- A name has the value that is set last. -/
theorem get?_ofList (pairs : List (Text × Text)) (name : Text) :
    (ofList pairs).get? name = ((pairs.filter (·.1 = name)).getLast?).map Prod.snd := by
  induction pairs using List.reverseRecOn with
  | nil => rfl
  | append_singleton pairs pair ih =>
    rw [ofList_concat, get?_set, ih, List.filter_append]
    by_cases h : pair.1 = name
    · simp [h]
    · simp [h, Ne.symm h]

/-- Pairs with names that differ come out as they went in. -/
theorem entries_ofList {pairs : List (Text × Text)} (h : (pairs.map Prod.fst).Nodup) :
    (ofList pairs).entries = pairs := by
  induction pairs using List.reverseRecOn with
  | nil => rfl
  | append_singleton pairs pair ih =>
    rw [List.map_append, List.nodup_append] at h
    obtain ⟨hpairs, -, hdisjoint⟩ := h
    have hnew : pair.1 ∉ pairs.map Prod.fst := fun hmem => hdisjoint _ hmem _ (by simp) rfl
    rw [ofList_concat]
    show insert pair.1 pair.2 (ofList pairs).entries = _
    rw [ih hpairs]
    exact insert_of_not_mem hnew

end Store

/-! ## Reading one assignment -/

section
variable {written : Text}

/-- The text before the first equals sign. -/
def nameBefore (written : Text) : Text := written.takeWhile (· != '=')

/-- The text behind the first equals sign. -/
def valueBehind (written : Text) : Text := (written.dropWhile (· != '=')).drop 1

/-- A text has no equals sign, or nothing before it. -/
def IsMalformedAssignment (written : Text) : Prop := '=' ∉ written ∨ written.head? = some '='

instance : DecidablePred IsMalformedAssignment := fun _ => inferInstanceAs (Decidable (_ ∨ _))

/-- A text is cut at its first equals sign. -/
theorem cut?_equals (written : Text) :
    written.cut? ['='] =
      if '=' ∈ written then some (nameBefore written, valueBehind written) else none := by
  induction written with
  | nil => rfl
  | cons c rest ih =>
    rw [Text.cut?]
    by_cases hc : c = '='
    · simp [hc, nameBefore, valueBehind]
    · have hstarts : ['='].isPrefixOf (c :: rest) = false := by simp [List.isPrefixOf, Ne.symm hc]
      rw [hstarts, ih]
      by_cases hmem : '=' ∈ rest <;>
        simp [hmem, hc, Ne.symm hc, nameBefore, valueBehind]

/-- The name of an entry is empty when the entry starts with an equals sign. -/
theorem nameBefore_eq_nil_iff (h : '=' ∈ written) :
    nameBefore written = [] ↔ written.head? = some '=' := by
  cases written with
  | nil => cases h
  | cons c rest => by_cases hc : c = '=' <;> simp [nameBefore, hc]

/-- An assignment is split at its first equals sign, and nothing else is. -/
theorem splitAssignment?_eq (written : Text) :
    splitAssignment? written =
      if IsMalformedAssignment written then none
      else some (nameBefore written, valueBehind written) := by
  rw [splitAssignment?, cut?_equals]
  by_cases hmem : '=' ∈ written
  · simp [IsMalformedAssignment, hmem, nameBefore_eq_nil_iff hmem]
  · simp [IsMalformedAssignment, hmem]

/-- A name and a value are read back from the assignment that they are written as. -/
theorem split_equals {name : Text} (h : '=' ∉ name) (value : Text) :
    nameBefore (name ++ '=' :: value) = name ∧ valueBehind (name ++ '=' :: value) = value := by
  have hname : ∀ c ∈ name, (c != '=') = true := by
    rintro c hc
    exact bne_iff_ne.2 fun heq => h (heq ▸ hc)
  constructor
  · rw [nameBefore, List.takeWhile_append_of_pos hname]
    simp
  · rw [valueBehind, List.dropWhile_append_of_pos hname]
    simp

/-- A name that is not empty, an equals sign and a value are an assignment. -/
theorem not_isMalformedAssignment_equals {name : Text} (hne : name ≠ []) (h : '=' ∉ name)
    (value : Text) : ¬ IsMalformedAssignment (name ++ '=' :: value) := by
  have hmem : '=' ∈ name ++ '=' :: value := by simp
  rw [IsMalformedAssignment, ← nameBefore_eq_nil_iff hmem, (split_equals h value).1]
  exact not_or.2 ⟨fun habsent => habsent hmem, hne⟩

end

/-! ## Reading a list of assignments -/

namespace Store

/-- The entries are set one after the other when each of them is an assignment. -/
theorem assignEach_eq_ok {items : List Text} (h : ∀ w ∈ items, ¬ IsMalformedAssignment w)
    (s : Store) : s.assignEach items =
      .ok ((items.map fun w => (nameBefore w, valueBehind w)).foldl
        (fun s pair => s.set pair.1 pair.2) s) := by
  induction items generalizing s with
  | nil => rfl
  | cons w items ih =>
    obtain ⟨hw, hitems⟩ := List.forall_mem_cons.1 h
    rw [assignEach, splitAssignment?_eq, if_neg hw]
    exact ih hitems _

/-- The first entry that is no assignment is refused, whatever was set before it. -/
theorem assignEach_eq_error {before after : List Text} {w : Text}
    (h : ∀ u ∈ before, ¬ IsMalformedAssignment u) (hw : IsMalformedAssignment w) (s : Store) :
    s.assignEach (before ++ w :: after) = .error (.assignment w) := by
  induction before generalizing s with
  | nil => rw [List.nil_append, assignEach, splitAssignment?_eq, if_pos hw]
  | cons u before ih =>
    obtain ⟨hu, hbefore⟩ := List.forall_mem_cons.1 h
    rw [List.cons_append, assignEach, splitAssignment?_eq, if_neg hu]
    exact ih hbefore _

/-- Entries that are assignments make up the store of their names and values. -/
theorem ofAssignments_eq_ofList {items : List Text} (h : ∀ w ∈ items, ¬ IsMalformedAssignment w) :
    ofAssignments items = .ok (ofList (items.map fun w => (nameBefore w, valueBehind w))) :=
  assignEach_eq_ok h empty

/-- Entries of which one is no assignment are refused, and the first such entry is named. -/
theorem exists_refused {items : List Text} (h : ∃ w ∈ items, IsMalformedAssignment w) :
    ∃ before w after, items = before ++ w :: after ∧ (∀ u ∈ before, ¬ IsMalformedAssignment u) ∧
      IsMalformedAssignment w ∧ ofAssignments items = .error (.assignment w) := by
  obtain ⟨w, hw⟩ : ∃ w, items.find? (fun w => decide (IsMalformedAssignment w)) = some w := by
    rw [← Option.isSome_iff_exists, List.find?_isSome]
    simpa using h
  obtain ⟨hbad, before, after, rfl, hbefore⟩ := List.find?_eq_some_iff_append.1 hw
  have hbefore : ∀ u ∈ before, ¬ IsMalformedAssignment u := by simpa using hbefore
  have hbad : IsMalformedAssignment w := by simpa using hbad
  exact ⟨before, w, after, rfl, hbefore, hbad, assignEach_eq_error hbefore hbad empty⟩

/-- Pairs with names that differ come back from the assignments that they are written as. -/
theorem ofAssignments_written {pairs : List (Text × Text)} (hdistinct : (pairs.map Prod.fst).Nodup)
    (hpairs : ∀ pair ∈ pairs, pair.1 ≠ [] ∧ '=' ∉ pair.1) :
    ∃ s, ofAssignments (pairs.map fun pair => pair.1 ++ '=' :: pair.2) = .ok s ∧
      s.entries = pairs := by
  have hall : ∀ w ∈ pairs.map fun pair => pair.1 ++ '=' :: pair.2, ¬ IsMalformedAssignment w := by
    intro w hw
    obtain ⟨pair, hpair, rfl⟩ := List.mem_map.1 hw
    obtain ⟨hne, hfree⟩ := hpairs pair hpair
    exact not_isMalformedAssignment_equals hne hfree pair.2
  have hread : (pairs.map fun pair => pair.1 ++ '=' :: pair.2).map
      (fun w => (nameBefore w, valueBehind w)) = pairs := by
    rw [List.map_map]
    refine (List.map_congr_left fun pair hpair => ?_).trans (List.map_id pairs)
    obtain ⟨hname, hvalue⟩ := split_equals (hpairs pair hpair).2 pair.2
    exact Prod.ext hname hvalue
  refine ⟨_, ofAssignments_eq_ofList hall, ?_⟩
  rw [hread, entries_ofList hdistinct]

/-- Assignments are refused exactly when some entry has no equals sign or starts with one, and the
message ends with the first such entry. Otherwise each name, which is the text before the first
equals sign of an entry, has what is behind that sign in the last entry with this name; there is no
other name, and the names are in the order of their first entries. So pairs of names and values come
out as they went in when the names differ, are not empty and have no equals sign, whatever the
values are. -/
theorem ofAssignments_exact (items : List Text) :
    ((∃ reason, ofAssignments items = .error reason) ↔ ∃ w ∈ items, IsMalformedAssignment w) ∧
    (∀ reason, ofAssignments items = .error reason →
      ∃ before w after, items = before ++ w :: after ∧ (∀ u ∈ before, ¬ IsMalformedAssignment u) ∧
        IsMalformedAssignment w ∧
        reason.message = "Invalid assignment, expected NAME=VALUE: ".toList ++ w) ∧
    (∀ s, ofAssignments items = .ok s →
      s.names = (items.map nameBefore).eraseDups ∧
      ∀ name, s.get? name =
        ((items.filter (nameBefore · = name)).getLast?).map valueBehind) ∧
    ∀ pairs : List (Text × Text), (pairs.map Prod.fst).Nodup →
      (∀ pair ∈ pairs, pair.1 ≠ [] ∧ '=' ∉ pair.1) →
      ∃ s, ofAssignments (pairs.map fun pair => pair.1 ++ '=' :: pair.2) = .ok s ∧
        s.entries = pairs := by
  have hrefused : ∀ reason, ofAssignments items = .error reason →
      ∃ w ∈ items, IsMalformedAssignment w := by
    intro reason h
    by_contra hnone
    rw [ofAssignments_eq_ofList fun w hw hbad => hnone ⟨w, hw, hbad⟩] at h
    cases h
  refine ⟨⟨fun ⟨reason, h⟩ => hrefused reason h, fun h => ?_⟩, fun reason h => ?_, fun s h => ?_,
    fun pairs hdistinct hpairs => ?_⟩
  · obtain ⟨-, w, -, -, -, -, herror⟩ := exists_refused h
    exact ⟨_, herror⟩
  · obtain ⟨before, w, after, hitems, hbefore, hw, herror⟩ := exists_refused (hrefused reason h)
    cases h.symm.trans herror
    exact ⟨before, w, after, hitems, hbefore, hw, rfl⟩
  · have hall : ∀ w ∈ items, ¬ IsMalformedAssignment w := by
      intro w hw hbad
      obtain ⟨-, u, -, -, -, -, herror⟩ := exists_refused ⟨w, hw, hbad⟩
      cases h.symm.trans herror
    cases h.symm.trans (ofAssignments_eq_ofList hall)
    refine ⟨?_, fun name => ?_⟩
    · rw [names_ofList, List.map_map]
      rfl
    · rw [get?_ofList, List.filter_map, List.getLast?_map, Option.map_map]
      rfl
  · exact ofAssignments_written hdistinct hpairs

/-- Of two values for one name the later one counts, at the place of the earlier one, and a value
may hold equals signs; an entry without a name is refused for itself and not for one behind it. -/
theorem ofAssignments_exact_specimens :
    (∃ s, ofAssignments ["a=1".toList, "b==".toList, "a=".toList] = .ok s ∧
      s.names = ["a".toList, "b".toList] ∧ s.get? "a".toList = some [] ∧
      s.get? "b".toList = some "=".toList ∧ s.get? "c".toList = none) ∧
    (∃ reason, ofAssignments ["a=1".toList, "=x".toList, "b".toList] = .error reason ∧
      reason.message = "Invalid assignment, expected NAME=VALUE: =x".toList) ∧
    ∃ s, ofAssignments ["b==".toList, "a=".toList] = .ok s ∧
      s.entries = [("b".toList, "=".toList), ("a".toList, [])] := by
  obtain ⟨-, -, hread, hwritten⟩ :=
    ofAssignments_exact ["a=1".toList, "b==".toList, "a=".toList]
  obtain ⟨hiff, hfirst, -, -⟩ := ofAssignments_exact ["a=1".toList, "=x".toList, "b".toList]
  refine ⟨?_, ?_, hwritten [("b".toList, "=".toList), ("a".toList, [])] (by decide) (by decide)⟩
  · obtain ⟨hnames, hvalues⟩ := hread _ rfl
    exact ⟨_, rfl, hnames, hvalues _, hvalues _, hvalues _⟩
  · obtain ⟨reason, hreason⟩ := hiff.2 ⟨"=x".toList, by decide, by decide⟩
    obtain ⟨before, w, after, hitems, hbefore, hw, hmessage⟩ := hfirst reason hreason
    rcases before with _ | ⟨u, _ | ⟨v, before⟩⟩
    · cases hitems
      exact absurd hw (by decide)
    · cases hitems
      exact ⟨reason, hreason, hmessage⟩
    · obtain ⟨-, hv⟩ := List.cons.inj hitems
      obtain ⟨hv, -⟩ := List.cons.inj hv
      exact absurd (hv ▸ (by decide : IsMalformedAssignment "=x".toList)) (hbefore v (by simp))

end Store

end ParameterExpansion
