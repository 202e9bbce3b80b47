import ParameterExpansion.Proofs.Operator.Fields

/-!
# Slices

What slices are, said without cutting a text up: the characters at the positions from a start on and
before a stop (`Text.between`). The fields of slices are the ways to write integers: a sign, zeros
and the decimal numeral, with blanks around them (`spells_iff_writesInteger`). In these terms an
operator of slices gives what its fields say (`Action.substringOf_between`,
`Action.substringOf_extent`).
-/

namespace ParameterExpansion

/-- The characters of a text at the positions from `start` on and before `stop`. -/
def Text.between (t : Text) (start stop : Int) : Text :=
  (t.zipIdx.filter fun entry => start ≤ entry.2 && entry.2 < stop).map Prod.fst

/-- A sign in front of the digits of an integer. -/
inductive IsSignOf : Text → Int → Prop
  /-- No sign, for an integer that is not negative. -/
  | none : 0 ≤ n → IsSignOf [] n
  /-- A plus, likewise. -/
  | plus : 0 ≤ n → IsSignOf ['+'] n
  /-- A minus, for an integer that is not positive. -/
  | minus : n ≤ 0 → IsSignOf ['-'] n

/-- The ways to write an integer in a field: blanks, a sign, zeros, the decimal numeral of its
absolute value, and blanks, with no more digits than are read. Blanks alone, if any, stand for
zero. -/
inductive Spells : Text → Int → Prop
  /-- Nothing but blanks. -/
  | blank : (∀ c ∈ written, Text.isBlank c = true) → Spells written 0
  /-- A numeral between blanks. -/
  | numeral : (∀ c ∈ left, Text.isBlank c = true) → (∀ c ∈ right, Text.isBlank c = true) →
      IsSignOf sign n → zeros + (Text.ofNat n.natAbs).length ≤ digitLimit →
      Spells (left ++ (sign ++ (List.replicate zeros '0' ++ Text.ofNat n.natAbs)) ++ right) n

/-! ## Parts of texts -/

namespace Text
variable {t left right : Text} {p : Char → Bool} {start stop : Int}

/-- The characters at positions that are counted from `k` on. -/
theorem map_fst_filter_zipIdx (start stop : Int) (t : Text) (k : Nat) :
    ((t.zipIdx k).filter fun entry => start ≤ entry.2 && entry.2 < stop).map Prod.fst =
      (t.drop (start - k).toNat).take (stop - max start k).toNat := by
  induction t generalizing k with
  | nil => simp
  | cons c t ih =>
    rw [List.zipIdx_cons, List.filter_cons]
    by_cases hbefore : (k : Int) < start
    · obtain ⟨hk, hmax⟩ : (start - k).toNat = (start - (k + 1 : Nat)).toNat + 1 ∧
          max start (k : Int) = max start ((k + 1 : Nat) : Int) := by omega
      rw [if_neg (by simp; omega), ih, hk, hmax, List.drop_succ_cons]
    have hk : (start - k).toNat = 0 ∧ (start - (k + 1 : Nat)).toNat = 0 := by omega
    have hmax : max start (k : Int) = k ∧ max start ((k + 1 : Nat) : Int) = (k + 1 : Nat) := by
      omega
    by_cases hstop : (k : Int) < stop
    · have hcount : (stop - k).toNat = (stop - (k + 1 : Nat)).toNat + 1 := by omega
      rw [if_pos (by simp; omega), List.map_cons, ih, hk.1, hk.2, hmax.1, hmax.2, hcount]
      rfl
    · have hcount : (stop - k).toNat = 0 ∧ (stop - (k + 1 : Nat)).toNat = 0 := by omega
      rw [if_neg (by simp; omega), ih, hmax.1, hmax.2, hcount.1, hcount.2, List.take_zero,
        List.take_zero]

/-- The part from a start on and before a stop is got by leaving off what stands in front of the one
and then taking what stands in front of the other. -/
theorem between_eq (hstart : 0 ≤ start) :
    t.between start stop = (t.drop start.toNat).take (stop - start).toNat := by
  have hparts := map_fst_filter_zipIdx start stop t 0
  rwa [Int.natCast_zero, Int.sub_zero, Int.max_eq_left hstart] at hparts

/-- The part from a start on is what is left when the rest is left off. -/
theorem between_length (hstart : 0 ≤ start) : t.between start t.length = t.drop start.toNat := by
  rw [between_eq hstart]
  exact List.take_of_length_le (by rw [List.length_drop]; omega)

/-- The two parts of a text at a position. -/
theorem between_append (hstart : 0 ≤ start) :
    t.between 0 start ++ t.between start t.length = t := by
  rw [between_length hstart, between_eq (Int.le_refl 0), Int.sub_zero, Int.toNat_zero,
    List.drop_zero, List.take_append_drop]

/-- What stands between characters of a class, and has none itself, is left when they are taken
away. -/
theorem stripped_append (hleft : ∀ c ∈ left, p c = true) (hright : ∀ c ∈ right, p c = true)
    (h : ∀ c ∈ t, p c = false) : (left ++ t ++ right).stripped p = t := by
  have hnone : right.dropWhile p = [] := by
    rw [← List.append_nil right, List.dropWhile_append_of_pos hright]
    rfl
  have hreverse : ∀ c ∈ right.reverse, p c = true := fun c hc => hright c (List.mem_reverse.1 hc)
  rw [stripped, List.append_assoc, List.dropWhile_append_of_pos hleft, List.dropWhile_append,
    dropWhile_of_forall h]
  cases t with
  | nil => rw [List.isEmpty_nil, if_pos rfl, hnone]; rfl
  | cons c t =>
    rw [List.isEmpty_cons, if_neg Bool.false_ne_true, List.reverse_append,
      List.dropWhile_append_of_pos hreverse,
      dropWhile_of_forall fun d hd => h d (List.mem_reverse.1 hd), List.reverse_reverse]

/-- What is taken away at the ends of a text are characters of the class. -/
theorem exists_stripped (t : Text) (p : Char → Bool) :
    ∃ left right, (∀ c ∈ left, p c = true) ∧ (∀ c ∈ right, p c = true) ∧
      t = left ++ t.stripped p ++ right := by
  have htake : ∀ u : Text, ∀ c ∈ u.takeWhile p, p c = true :=
    fun u => List.all_eq_true.1 List.all_takeWhile
  refine ⟨t.takeWhile p, ((t.dropWhile p).reverse.takeWhile p).reverse, htake t,
    fun c hc => htake _ c (List.mem_reverse.1 hc), ?_⟩
  rw [stripped, List.append_assoc, ← List.reverse_append, List.takeWhile_append_dropWhile,
    List.reverse_reverse, List.takeWhile_append_dropWhile]

/-! ## Decimal numerals -/

variable {digits : Text}

/-- The value of digits is theirs to the base ten. -/
theorem valueOfDigits_eq (digits : Text) : valueOfDigits digits = Nat.ofDigitChars 10 digits 0 :=
  Nat.ofDigitChars_eq_foldl.symm

/-- A digit is the one of its value. -/
theorem digitChar_of_isDigit {c : Char} (h : isDigit c = true) :
    c.toNat - '0'.toNat < 10 ∧ Nat.digitChar (c.toNat - '0'.toNat) = c := by
  have hrange : 48 ≤ c.toNat ∧ c.toNat ≤ 57 := by simpa [isDigit] using h
  have hvalue : c.toNat - '0'.toNat < 10 := by
    show c.toNat - 48 < 10
    omega
  refine ⟨hvalue, Char.toNat_inj.1 ?_⟩
  rw [Nat.toNat_digitChar_of_lt_ten hvalue]
  show 48 + (c.toNat - 48) = c.toNat
  omega

/-- Digits behind a decimal numeral go on with it, unless it is that of zero. -/
theorem ofNat_append {n : Nat} (hn : 0 < n) (h : ∀ c ∈ digits, isDigit c = true) :
    ofNat n ++ digits = ofNat (Nat.ofDigitChars 10 digits n) := by
  induction digits generalizing n with
  | nil => rw [Nat.ofDigitChars_nil, List.append_nil]
  | cons c digits ih =>
    obtain ⟨hc, hdigits⟩ := List.forall_mem_cons.1 h
    obtain ⟨hvalue, hchar⟩ := digitChar_of_isDigit hc
    have hnext : ofNat n ++ [c] = ofNat (10 * n + (c.toNat - '0'.toNat)) := by
      rw [ofNat, ofNat, ← Nat.toDigits_append_toDigits (by decide) hn hvalue,
        Nat.toDigits_of_lt_base hvalue, hchar]
    rw [Nat.ofDigitChars_cons, ← ih (by omega) hdigits, ← hnext, List.append_assoc]
    rfl

/-- Digits are the decimal numeral of their value, with zeros in front. -/
theorem AreDigits.exists_zeros (h : AreDigits digits) :
    ∃ zeros, digits = List.replicate zeros '0' ++ ofNat (valueOfDigits digits) := by
  obtain ⟨hne, hall⟩ := h
  rw [valueOfDigits_eq]
  induction digits with
  | nil => exact absurd rfl hne
  | cons c digits ih =>
    obtain ⟨hc, hdigits⟩ := List.forall_mem_cons.1 hall
    obtain ⟨hvalue, hchar⟩ := digitChar_of_isDigit hc
    rw [Nat.ofDigitChars_cons, Nat.mul_zero, Nat.zero_add]
    rcases Nat.eq_zero_or_pos (c.toNat - '0'.toNat) with hzero | hpos
    · obtain rfl : '0' = c := by rw [← hchar, hzero]; rfl
      cases digits with
      | nil => exact ⟨0, rfl⟩
      | cons d digits =>
        obtain ⟨zeros, hzeros⟩ := ih nofun hdigits
        refine ⟨zeros + 1, ?_⟩
        rw [List.replicate_succ, List.cons_append, hzero, ← hzeros]
    · refine ⟨0, ?_⟩
      rw [← ofNat_append hpos hdigits, ofNat, Nat.toDigits_of_lt_base hvalue, hchar]
      rfl

/-- Zeros and the decimal numeral of a number are digits with its value. -/
theorem areDigits_zeros (zeros n : Nat) :
    AreDigits (List.replicate zeros '0' ++ ofNat n) ∧
      valueOfDigits (List.replicate zeros '0' ++ ofNat n) = n := by
  refine ⟨⟨fun hnil => ?_, fun c hc => ?_⟩, ?_⟩
  · exact Nat.toDigits_ne_nil (List.append_eq_nil_iff.1 hnil).2
  · rcases List.mem_append.1 hc with hc | hc
    · rw [List.eq_of_mem_replicate hc]
      decide
    · have hdigit := Nat.isDigit_of_mem_toDigits (by decide) (by decide) hc
      simpa [isDigit, Char.isDigit, UInt32.le_iff_toNat_le] using hdigit
  · rw [valueOfDigits_eq, Nat.ofDigitChars_append, Nat.ofDigitChars_replicate_zero, Nat.mul_zero]
    exact Nat.ofDigitChars_ten_toDigits

end Text

/-! ## Fields -/

section
variable {written sign : Text} {n : Int}

/-- A digit is no blank. -/
theorem Text.isBlank_of_isDigit {c : Char} (h : isDigit c = true) : isBlank c = false := by
  have hrange : 48 ≤ c.toNat ∧ c.toNat ≤ 57 := by simpa [isDigit] using h
  rw [isBlank, ← Bool.not_eq_true, within_iff]
  simp only [blankRanges, List.mem_cons, List.not_mem_nil, or_false]
  rintro ⟨range, hmem, hle⟩
  rcases hmem with rfl | rfl | rfl | rfl | rfl | rfl | rfl | rfl | rfl | rfl <;>
    (dsimp only at hle; omega)

/-- A sign is no blank. -/
theorem IsSignOf.not_blank (h : IsSignOf sign n) : ∀ c ∈ sign, Text.isBlank c = false := by
  intro c hc
  cases h with
  | none => cases hc
  | plus | minus =>
    rw [List.mem_singleton.1 hc]
    decide

/-- The digits of a numeral are those of the absolute value of the integer that it writes. -/
theorem Text.Numeral.natAbs_value (numeral : Text.Numeral) :
    numeral.value.natAbs = Text.valueOfDigits numeral.digits := by
  unfold value
  split
  · exact (Int.natAbs_neg _).trans (Int.natAbs_natCast _)
  · exact Int.natAbs_natCast _

/-- A text is a numeral when it has a sign and digits. -/
theorem Text.Writes.exists_sign {t : Text} {numeral : Text.Numeral} (h : t.Writes numeral) :
    ∃ sign, IsSignOf sign numeral.value ∧ t = sign ++ numeral.digits ∧
      AreDigits numeral.digits := by
  have hvalue : ∀ digits, 0 ≤ (Text.valueOfDigits digits : Int) := fun _ => Int.natCast_nonneg _
  cases h with
  | unsigned hdigits => exact ⟨[], .none (hvalue _), rfl, hdigits⟩
  | plus hdigits => exact ⟨['+'], .plus (hvalue _), rfl, hdigits⟩
  | minus hdigits => exact ⟨['-'], .minus (Int.neg_nonpos_of_nonneg (hvalue _)), rfl, hdigits⟩

/-- A sign of an integer and digits of its absolute value are a numeral for it. -/
theorem IsSignOf.exists_writes {digits : Text} (h : IsSignOf sign n) (hdigits : digits.AreDigits)
    (hvalue : Text.valueOfDigits digits = n.natAbs) :
    ∃ numeral : Text.Numeral, (sign ++ digits).Writes numeral ∧ numeral.value = n ∧
      numeral.digits = digits := by
  have hpositive : 0 ≤ n → (⟨false, digits⟩ : Text.Numeral).value = n := by
    intro hn
    rw [Text.Numeral.value, if_neg nofun, hvalue, Int.natAbs_of_nonneg hn]
  have hnegative : n ≤ 0 → (⟨true, digits⟩ : Text.Numeral).value = n := by
    intro hn
    rw [Text.Numeral.value, if_pos rfl, hvalue]
    omega
  cases h with
  | none hn => exact ⟨_, .unsigned hdigits, hpositive hn, rfl⟩
  | plus hn => exact ⟨_, .plus hdigits, hpositive hn, rfl⟩
  | minus hn => exact ⟨_, .minus hdigits, hnegative hn, rfl⟩

/-- The fields that an integer is read from are the ways to write it. -/
theorem spells_iff_writesInteger : Spells written n ↔ WritesInteger written n := by
  constructor
  · intro h
    cases h with
    | blank hblank =>
      have htrimmed := @Text.stripped_append [] written [] Text.isBlank hblank nofun nofun
      rw [List.append_nil, List.append_nil] at htrimmed
      exact .empty htrimmed
    | @numeral left right sign _ zeros hleft hright hsign hlimit =>
      obtain ⟨hdigits, hvalue⟩ := Text.areDigits_zeros zeros n.natAbs
      obtain ⟨numeral, hwrites, rfl, hnumeral⟩ := hsign.exists_writes hdigits hvalue
      have htrimmed := Text.stripped_append hleft hright (List.forall_mem_append.2
        ⟨hsign.not_blank, fun c hc => Text.isBlank_of_isDigit (hdigits.2 c hc)⟩)
      rw [← Text.trimmed] at htrimmed
      rw [← htrimmed] at hwrites
      refine .numeral hwrites ?_
      rw [hnumeral, List.length_append, List.length_replicate]
      exact hlimit
  · intro h
    obtain ⟨left, right, hleft, hright, hwritten⟩ := Text.exists_stripped written Text.isBlank
    rw [← Text.trimmed] at hwritten
    cases h with
    | empty hempty =>
      rw [hempty, List.append_nil] at hwritten
      rw [hwritten]
      exact .blank (List.forall_mem_append.2 ⟨hleft, hright⟩)
    | @numeral numeral hwrites hlimit =>
      obtain ⟨sign, hsign, htrimmed, hdigits⟩ := hwrites.exists_sign
      obtain ⟨zeros, hzeros⟩ := hdigits.exists_zeros
      rw [← numeral.natAbs_value] at hzeros
      rw [hwritten, htrimmed, hzeros]
      refine .numeral hleft hright hsign ?_
      rw [hzeros, List.length_append, List.length_replicate] at hlimit
      exact hlimit

/-! ## Slices -/

namespace Action
variable {t offset extent : Text} {o l start : Int}

/-- Where a slice starts: at the offset, or, when that is negative, so far from the end, but not in
front of the text. -/
theorem sliceStart_eq (size : Nat) (o : Int) :
    (sliceStart size o : Int) = if 0 ≤ o then o else max (size + o) 0 := by
  unfold sliceStart
  split <;> split <;> omega

/-- A slice without a length goes on to the end. -/
theorem substringOf_between (ho : WritesInteger offset o)
    (hstart : start = if 0 ≤ o then o else max (t.length + o) 0) :
    substringOf t offset none = .ok (t.between start t.length) := by
  rw [← sliceStart_eq] at hstart
  rw [substringOf, integerField_eq_ok_iff.2 ho, Text.between_length (by omega), hstart,
    Int.toNat_natCast]
  dsimp only
  split
  · next hbehind => rw [List.drop_of_length_le (Nat.le_of_lt hbehind)]
  · rfl

/-- A slice with a length goes on for so many characters, or to so many in front of the end. It is
empty where it starts behind the end, and given up where it starts behind its stop. -/
theorem substringOf_extent (ho : WritesInteger offset o) (hl : WritesInteger extent l)
    (hstart : start = if 0 ≤ o then o else max (t.length + o) 0) :
    substringOf t offset (some extent) =
      if t.length < start then .ok []
      else if 0 ≤ l then .ok (t.between start (start + l))
      else if start ≤ t.length + l then .ok (t.between start (t.length + l))
      else .error (.evaluation ⟨.negativeSlice extent.trimmed, none⟩) := by
  rw [← sliceStart_eq] at hstart
  rw [substringOf, integerField_eq_ok_iff.2 ho]
  dsimp only
  rw [integerField_eq_ok_iff.2 hl]
  by_cases hbehind : t.length < sliceStart t.length o
  · rw [if_pos hbehind, if_pos (by omega)]
  have hpart : ∀ stop, t.between start stop =
      (t.drop (sliceStart t.length o)).take (stop - start).toNat := by
    intro stop
    rw [Text.between_eq (by omega), hstart, Int.toNat_natCast]
  rw [if_neg hbehind, if_neg (by omega), hpart, hpart]
  dsimp only
  rw [slice]
  split
  · have hcount : (start + l - start).toNat = l.toNat := by omega
    rw [hcount]
  split
  · rw [if_neg (by omega)]
  · have hcount : (t.length + l - start).toNat = (t.length + l).toNat - sliceStart t.length o := by
      omega
    rw [if_pos (by omega), hcount]

/-- A slice from the start on whose length is an integer stops where a slice with this offset
starts, if that is not too far in front of the end. -/
theorem substringOf_front (ho : WritesInteger offset 0) (hl : WritesInteger extent l)
    (hle : -t.length ≤ l) (hstart : start = if 0 ≤ l then l else max (t.length + l) 0) :
    substringOf t offset (some extent) = .ok (t.between 0 start) := by
  rw [substringOf_extent ho hl rfl, if_pos (Int.le_refl 0), if_neg (by omega), Int.zero_add]
  by_cases hl : 0 ≤ l
  · rw [if_pos hl, hstart, if_pos hl]
  · have hstop : start = t.length + l := by
      rw [hstart, if_neg hl]
      omega
    rw [if_neg hl, if_pos (by omega), hstop]

/-- The slice up to a position and the one from there on are the two parts of a text. -/
theorem substringOf_parts {front back : Text} (ho : WritesInteger offset 0)
    (hfront : WritesInteger front l) (hback : WritesInteger back l) (hle : -t.length ≤ l) :
    ∃ before behind, substringOf t offset (some front) = .ok before ∧
      substringOf t back none = .ok behind ∧ before ++ behind = t := by
  refine ⟨_, _, substringOf_front ho hfront hle rfl, substringOf_between hback rfl,
    Text.between_append ?_⟩
  split <;> omega

end Action

end

end ParameterExpansion
