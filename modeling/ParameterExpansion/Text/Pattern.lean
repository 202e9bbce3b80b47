import ParameterExpansion.Text

/-!
# Literal patterns

Finding, removing and replacing a literal pattern in a text. `cut?` finds the leftmost occurrence
(`eq_of_cut?`); `replaceAll` goes on behind each occurrence, so replaced text is never searched
again.
-/

namespace ParameterExpansion.Text

/-- `t.cut? pattern` is what stands before and after the leftmost occurrence of `pattern` in `t`. -/
def cut? (t pattern : Text) : Option (Text × Text) :=
  match t with
  | [] => if pattern = [] then some ([], []) else none
  | c :: rest =>
    if pattern.isPrefixOf (c :: rest) then some ([], (c :: rest).drop pattern.length)
    else (cut? rest pattern).map fun parts => (c :: parts.1, parts.2)

/-- The parts of a cut, with the pattern between them, are the text. -/
theorem eq_of_cut? {t pattern before after : Text} (h : t.cut? pattern = some (before, after)) :
    t = before ++ pattern ++ after := by
  induction t generalizing before with
  | nil =>
    by_cases hp : pattern = []
    · simp only [cut?, hp, if_true, Option.some.injEq, Prod.mk.injEq] at h
      simp [hp, ← h.1, ← h.2]
    · simp [cut?, hp] at h
  | cons c rest ih =>
    rw [cut?] at h
    split at h
    · next hp =>
      obtain ⟨tail, htail⟩ := List.isPrefixOf_iff_prefix.1 hp
      simp only [Option.some.injEq, Prod.mk.injEq] at h
      rw [← htail, List.drop_left] at h
      rw [← h.1, ← h.2, List.nil_append, htail]
    · obtain ⟨⟨before', after'⟩, hcut, heq⟩ := Option.map_eq_some_iff.1 h
      cases heq
      rw [ih hcut]
      rfl

/-- What stands after an occurrence of a non-empty pattern is shorter than the text. -/
theorem length_lt_of_cut? {t pattern before after : Text} (hp : pattern ≠ [])
    (h : t.cut? pattern = some (before, after)) : after.length < t.length := by
  have := List.length_pos_iff.2 hp
  rw [eq_of_cut? h]
  simp only [List.length_append]
  omega

/-- `t.replaceFirst pattern replacement` replaces the leftmost occurrence; an empty pattern occurs
nowhere. -/
def replaceFirst (t pattern replacement : Text) : Text :=
  if pattern = [] then t
  else match t.cut? pattern with
    | some (before, after) => before ++ replacement ++ after
    | none => t

/-- `t.replaceAll pattern replacement` replaces the leftmost occurrence and then all those behind
it; an empty pattern occurs nowhere. -/
def replaceAll (t pattern replacement : Text) : Text :=
  if _hp : pattern = [] then t
  else match _hcut : t.cut? pattern with
    | some (before, after) => before ++ replacement ++ replaceAll after pattern replacement
    | none => t
termination_by t.length
decreasing_by exact length_lt_of_cut? _hp _hcut

/-- `t.replacePrefix pattern replacement` replaces `pattern` at the start of `t`, where it stands
there. -/
def replacePrefix (t pattern replacement : Text) : Text :=
  if pattern.isPrefixOf t then replacement ++ t.drop pattern.length else t

/-- `t.replaceSuffix pattern replacement` replaces `pattern` at the end of `t`, where it stands
there. -/
def replaceSuffix (t pattern replacement : Text) : Text :=
  if pattern.isSuffixOf t then t.take (t.length - pattern.length) ++ replacement else t

/-- `t.removePrefix pattern` removes `pattern` from the start of `t`, where it stands there. -/
def removePrefix (t pattern : Text) : Text :=
  if pattern.isPrefixOf t then t.drop pattern.length else t

/-- `t.removeSuffix pattern` removes `pattern` from the end of `t`, where it stands there. -/
def removeSuffix (t pattern : Text) : Text :=
  if pattern.isSuffixOf t then t.take (t.length - pattern.length) else t

end ParameterExpansion.Text
