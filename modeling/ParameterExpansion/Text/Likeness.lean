import ParameterExpansion.Text

/-!
# Likeness

How much two texts have in common: the longest run of characters that stands in both, and whatever
they have in common before that run and behind it (`commonCount`). A mistyped word is compared with
the names that may be meant: `nearest` gives those that are like the word, but no more than asked
for.
-/

namespace ParameterExpansion.Text

/-- The length of the longest common start of two texts. -/
def commonStart : Text → Text → Nat
  | c :: s, d :: t => if c = d then commonStart s t + 1 else 0
  | _, _ => 0

/-- The common start is no longer than the first text. -/
theorem commonStart_le (s t : Text) : commonStart s t ≤ s.length := by
  induction s generalizing t with
  | nil => simp [commonStart]
  | cons c s ih =>
    cases t with
    | nil => simp [commonStart]
    | cons d t =>
      rw [commonStart]
      have := ih t
      split <;> simp only [List.length_cons] <;> omega

/-- A run of characters that stands in two texts. -/
structure CommonRun where
  /-- Where it starts in the one. -/
  left : Nat
  /-- Where it starts in the other. -/
  right : Nat
  /-- How many characters it has. -/
  length : Nat

/-- `s.runAtStart t` is the longest run that `s` starts with and that stands in `t`: of equally long
ones, the first in `t`. -/
def runAtStart (s : Text) : Text → CommonRun
  | [] => ⟨0, 0, 0⟩
  | d :: t =>
    let here := commonStart s (d :: t)
    let later := runAtStart s t
    if here < later.length then { later with right := later.right + 1 } else ⟨0, 0, here⟩

/-- `s.longestRun t` is the longest run that stands in both texts: of equally long ones, the first
in `s` and then the first in `t`. -/
def longestRun : Text → Text → CommonRun
  | [], _ => ⟨0, 0, 0⟩
  | c :: s, t =>
    let here := runAtStart (c :: s) t
    let later := longestRun s t
    if here.length < later.length then { later with left := later.left + 1 } else here

/-- A run at the start of a text lies in it. -/
theorem runAtStart_le (s t : Text) :
    (s.runAtStart t).left = 0 ∧ (s.runAtStart t).length ≤ s.length := by
  induction t with
  | nil => simp [runAtStart]
  | cons d t ih =>
    rw [runAtStart]
    split
    · exact ih
    · exact ⟨rfl, commonStart_le s (d :: t)⟩

/-- The longest run lies in the first text. -/
theorem longestRun_le (s t : Text) :
    (s.longestRun t).left + (s.longestRun t).length ≤ s.length := by
  induction s with
  | nil => simp [longestRun]
  | cons c s ih =>
    have here := runAtStart_le (c :: s) t
    rw [longestRun]
    simp only [List.length_cons] at here ⊢
    split
    · dsimp only
      omega
    · omega

/-- `s.commonCount t` is how many characters the texts have in common: those of the longest run, and
those that the texts have in common before it and behind it. -/
def commonCount (s t : Text) : Nat :=
  let run := s.longestRun t
  if _hrun : run.length = 0 then 0
  else
    commonCount (s.take run.left) (t.take run.right) + run.length +
      commonCount (s.drop (run.left + run.length)) (t.drop (run.right + run.length))
termination_by s.length
decreasing_by
  all_goals
    have := longestRun_le s t
    have : (s.longestRun t).length ≠ 0 := _hrun
    simp only [List.length_take, List.length_drop]
    omega

/-- Whether two texts are alike: at least three fifths of the characters of both are in common. -/
def isLike (s t : Text) : Bool := 3 * (s.length + t.length) ≤ 5 * (2 * s.commonCount t)

/-- Whether `s` comes before `t` among the names that may be meant by a word: it has more in common
with the word, in proportion to the characters of both, or as much and is not before `t` in the
order of the alphabet. -/
def isNearer (word s t : Text) : Bool :=
  let ofFirst := s.commonCount word * (t.length + word.length)
  let ofSecond := t.commonCount word * (s.length + word.length)
  ofSecond < ofFirst || (ofFirst = ofSecond && !s.lex t)

/-- `word.nearest count names` are the names that are like a word, no more than `count` of them, in
the order of the alphabet. -/
def nearest (word : Text) (count : Nat) (names : List Text) : List Text :=
  let alike := names.filter (·.isLike word)
  ((alike.mergeSort word.isNearer).take count).mergeSort fun s t => !t.lex s

end ParameterExpansion.Text
