import Mathlib.Data.List.Forall2
import ParameterExpansion.Proofs.Parser.Advancing

/-!
# A parser reads many templates

A parser that reads one template after the other reads each as a fresh one would, wherever an
earlier scan was given up (`Parser.parseEach_fresh`). A scan that is given up may leave references
open, one more than the limit at most; one that is not has read its template to the end, and closed
every reference that it opened.
-/

namespace ParameterExpansion

namespace Parser

open Scanner Budgeted

/-- Reads one template after the other: what each gives, and the parser afterwards. -/
def parseEach : Parser → List Text → List (Except ParseError Node × Parser)
  | _, [] => []
  | p, source :: sources => p.parse source :: (p.parse source).2.parseEach sources

/-- A parser is made ready for a template before it reads it, so it reads as a fresh one does. -/
theorem parse_eq_parse_ofLimit (p : Parser) (source : Text) :
    p.parse source = (ofLimit p.limit).parse source := rfl

/-- What a parser with this limit gives for a template, and how it stands in it afterwards. -/
structure HasRead (limit : NestingLimit) (source : Text) (r : Except ParseError Node × Parser) :
    Prop where
  /-- The limit stays. -/
  limit_eq : r.2.limit = limit
  /-- The template is kept. -/
  source_eq : r.2.source = source
  /-- No more has been read than there is. -/
  position_le : r.2.position ≤ source.length
  /-- At most the reference that exceeds the limit is open in others. -/
  depth_le : r.2.depth ≤ limit.levels + 1
  /-- A template that is accepted has been read to its end. -/
  position_eq_of_ok : ∀ node, r.1 = .ok node → r.2.position = source.length
  /-- No reference is open behind a template that is accepted. -/
  depth_eq_of_ok : ∀ node, r.1 = .ok node → r.2.depth = 0

/-- A parser reads a template within its limit, to the end unless it is refused. -/
theorem hasRead_parse (p : Parser) (source : Text) : HasRead p.limit source (p.parse source) := by
  have hstart : (p.reset source).position ≤ (p.reset source).source.length := Nat.zero_le _
  obtain ⟨hok, herror⟩ := pieces_meets p.limit .template (p.reset source).scanner
  unfold parse
  dsimp only
  cases hscan : pieces p.limit .template (p.reset source).scanner with
  | ok r =>
    obtain ⟨hmoves, hends⟩ := hok r (congrArg ended hscan)
    have hreaches : (p.reset source).Reaches 0 r.2 := .of_moves hstart hmoves
    -- Nothing but its end ends a template.
    have hend : r.2.position = source.length :=
      (hreaches.eq_length_or hends).resolve_right fun ⟨_, _, hstop⟩ => hstop
    have hdepth : r.2.depth = 0 := hreaches.depth_eq
    exact ⟨rfl, rfl, hreaches.le_length, Nat.le_trans (Nat.le_of_eq hdepth) (Nat.zero_le _),
      fun _ _ => hend, fun _ _ => hdepth⟩
  | error halt =>
    obtain ⟨hahead, hdepth⟩ := herror halt (congrArg ended hscan)
    refine ⟨rfl, rfl, (stands_of_ahead hstart hahead).2, ?_, nofun, nofun⟩
    exact Nat.le_trans hdepth (Nat.succ_le_succ (Nat.max_le.2 ⟨Nat.zero_le _, Nat.le_refl _⟩))

/-- A parser gives for each template in turn what a fresh one with its limit does, and comes to
stand where that one does: within the template, and if it is accepted at its end, with no reference
open. -/
theorem parseEach_fresh (p : Parser) (sources : List Text) :
    p.parseEach sources = sources.map (ofLimit p.limit).parse ∧
    List.Forall₂ (HasRead p.limit) sources (p.parseEach sources) := by
  induction sources generalizing p with
  | nil => exact ⟨rfl, .nil⟩
  | cons source sources ih =>
    have hread := hasRead_parse p source
    obtain ⟨hfresh, hall⟩ := ih (p.parse source).2
    rw [hread.limit_eq] at hfresh hall
    refine ⟨?_, .cons hread hall⟩
    rw [parseEach, hfresh, List.map_cons, parse_eq_parse_ofLimit]

/-- A parser whose scan stands in a template is given others. It gives up two of them, one where a
third reference is open and the other at its end, and reads the third one all the same. -/
theorem parseEach_fresh_specimen :
    specimen.parseEach
        ["$\x7bx:-$\x7by:-$\x7bz\x7d\x7d\x7d".toList, "$\x7bx".toList, "$\x7bx\x7d".toList] =
      [(.error ⟨.nestedTooDeep 2, 10⟩,
        ⟨specimen.limit, "$\x7bx:-$\x7by:-$\x7bz\x7d\x7d\x7d".toList, 10, 3⟩),
       (.error ⟨.unterminated, 0⟩, ⟨specimen.limit, "$\x7bx".toList, 3, 1⟩),
       (.ok (.reference ['x'] [] [] "$\x7bx\x7d".toList 0),
        ⟨specimen.limit, "$\x7bx\x7d".toList, 4, 0⟩)] := by
  obtain ⟨hfresh, -⟩ := parseEach_fresh specimen
    ["$\x7bx:-$\x7by:-$\x7bz\x7d\x7d\x7d".toList, "$\x7bx".toList, "$\x7bx\x7d".toList]
  refine hfresh.trans (congrArg₂ List.cons ?_ (congrArg₂ List.cons ?_ (congrArg₂ List.cons ?_ rfl)))
  all_goals exact parse_of_parseWithin 17 (by decide) rfl

end Parser

end ParameterExpansion
