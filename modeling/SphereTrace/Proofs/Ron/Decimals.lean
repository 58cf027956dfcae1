import SphereTrace.Proofs.Binary32.Rounding
import SphereTrace.Ron.Number

/-! # Reading decimals

What the reader makes of a decimal that is put together from a sign, digits around a point and an
exponent. It cuts exponents that are far off, which changes no answer, so every decimal is read as
the number nearest to its exact value.
-/

namespace SphereTrace.Ron.Reader

/-- All characters are decimal digits. -/
def Digital (cs : List Char) : Prop :=
  ∀ c ∈ cs, c.isDigit = true

namespace Digital

variable {cs ds : List Char}

theorem append (hcs : Digital cs) (hds : Digital ds) : Digital (cs ++ ds) :=
  fun c hc => (List.mem_append.mp hc).elim (hcs c) (hds c)

theorem replicate_zero (n : Nat) : Digital (List.replicate n '0') :=
  fun _ hc => (List.mem_replicate.mp hc).2 ▸ rfl

theorem toDigits (n : Nat) : Digital (Nat.toDigits 10 n) :=
  fun _ hc => Nat.isDigit_of_mem_toDigits (by decide) (Nat.le_refl 10) hc

theorem of_append_left (h : Digital (cs ++ ds)) : Digital cs :=
  fun c hc => h c (List.mem_append_left ds hc)

theorem of_append_right (h : Digital (cs ++ ds)) : Digital ds :=
  fun c hc => h c (List.mem_append_right cs hc)

end Digital

section Value

theorem wholeOf_eq (digits : List Char) : wholeOf digits = Nat.ofDigitChars 10 digits 0 := by
  simp only [wholeOf, Nat.ofDigitChars, Nat.mul_comm]

theorem wholeOf_toDigits (n : Nat) : wholeOf (Nat.toDigits 10 n) = n := by
  rw [wholeOf_eq, Nat.ofDigitChars_ten_toDigits]

theorem wholeOf_zeros_append (n : Nat) (digits : List Char) :
    wholeOf (List.replicate n '0' ++ digits) = wholeOf digits := by
  rw [wholeOf_eq, wholeOf_eq, Nat.ofDigitChars_append, Nat.ofDigitChars_replicate_zero,
    Nat.mul_zero]

theorem wholeOf_append_zeros (digits : List Char) (n : Nat) :
    wholeOf (digits ++ List.replicate n '0') = wholeOf digits * 10 ^ n := by
  rw [wholeOf_eq, wholeOf_eq, Nat.ofDigitChars_append, Nat.ofDigitChars_replicate_zero,
    Nat.mul_comm]

theorem wholeOf_concat (digits : List Char) (c : Char) :
    wholeOf (digits ++ [c]) = wholeOf digits * 10 + (c.toNat - '0'.toNat) := by
  rw [wholeOf, List.foldl_append]
  rfl

theorem toNat_of_isDigit {c : Char} (h : c.isDigit = true) : 48 ≤ c.toNat ∧ c.toNat ≤ 57 := by
  delta Char.isDigit at h
  simp only [Bool.and_eq_true, decide_eq_true_eq, UInt32.le_iff_toNat_le] at h
  exact h

theorem toNat_sub_le_of_isDigit {c : Char} (h : c.isDigit = true) : c.toNat - '0'.toNat ≤ 9 := by
  have hrange := toNat_of_isDigit h
  have hzero : '0'.toNat = 48 := rfl
  omega

theorem wholeOf_lt {digits : List Char} (h : Digital digits) :
    wholeOf digits < 10 ^ digits.length := by
  -- The last digit adds a place, so the induction takes the digits from the end.
  induction hreverse : digits.reverse generalizing digits with
  | nil =>
      rw [List.reverse_eq_nil_iff] at hreverse
      subst hreverse
      decide
  | cons c rest ih =>
      obtain rfl : digits = rest.reverse ++ [c] := by
        rw [← List.reverse_reverse digits, hreverse, List.reverse_cons]
      have hinit := ih h.of_append_left (List.reverse_reverse rest)
      have hlast := toNat_sub_le_of_isDigit (h c (by simp))
      rw [wholeOf_concat, List.length_append, List.length_singleton, Nat.pow_succ]
      omega

/-- Cutting the exponent makes no difference. -/
theorem nearest_eq (negative : Bool) {digits : List Char} (h : Digital digits) (exponent : Int) :
    nearest negative digits exponent = .ofDecimal negative (wholeOf digits) exponent := by
  have hlt := wholeOf_lt h
  rw [nearest]
  rcases Nat.eq_zero_or_pos (wholeOf digits) with hzero | hpos
  · rw [hzero, Binary32.ofDecimal_zero, Binary32.ofDecimal_zero]
  · rcases Int.lt_or_le 60 exponent with hlarge | hle
    · rw [Binary32.ofDecimal_of_le negative hpos (by omega),
        Binary32.ofDecimal_of_le negative hpos (by omega)]
    · rcases Int.lt_or_le exponent (-(digits.length : Int) - 60) with hsmall | hge
      · rw [Binary32.ofDecimal_of_lt negative hlt (by omega),
          Binary32.ofDecimal_of_lt negative hlt (by omega)]
      · rw [Int.min_eq_left hle, Int.max_eq_right hge]

end Value

section Form

/-- A text behind the sign of a number. -/
def signed (negative : Bool) (cs : List Char) : List Char :=
  if negative then '-' :: cs else cs

/-- A sign is split off where there is one; nothing is left of a plus. -/
theorem splitSign_eq (cs : List Char) :
    cs = signed (splitSign cs).1 (splitSign cs).2 ∨
      (splitSign cs).1 = false ∧ cs = '+' :: (splitSign cs).2 := by
  unfold splitSign
  split
  next => exact .inl rfl
  next => exact .inr ⟨rfl, rfl⟩
  next => exact .inl rfl

theorem splitSign_signed_cons (negative : Bool) {c : Char} (hplus : c ≠ '+') (hminus : c ≠ '-')
    (rest : List Char) : splitSign (signed negative (c :: rest)) = (negative, c :: rest) := by
  cases negative with
  | true => rfl
  | false =>
      change splitSign (c :: rest) = (false, c :: rest)
      unfold splitSign
      split
      next heq => cases heq; exact absurd rfl hminus
      next heq => cases heq; exact absurd rfl hplus
      next => rfl

theorem splitSign_signed (negative : Bool) {cs : List Char} (h : Digital cs) (hne : cs ≠ [])
    (rest : List Char) : splitSign (signed negative (cs ++ rest)) = (negative, cs ++ rest) := by
  obtain ⟨c, others, rfl⟩ := List.exists_cons_of_ne_nil hne
  have hc := h c List.mem_cons_self
  apply splitSign_signed_cons <;>
    · rintro rfl
      exact absurd hc (by decide)

theorem takeWhile_isDigit {cs rest : List Char} (h : Digital cs)
    (hrest : rest.head?.any Char.isDigit = false) : (cs ++ rest).takeWhile Char.isDigit = cs := by
  rw [List.takeWhile_append_of_pos h]
  cases rest with
  | nil => simp
  | cons c others =>
      have hc : c.isDigit = false := hrest
      simp [hc]

theorem dropWhile_isDigit {cs rest : List Char} (h : Digital cs)
    (hrest : rest.head?.any Char.isDigit = false) : (cs ++ rest).dropWhile Char.isDigit = rest := by
  have happend := List.takeWhile_append_dropWhile (p := Char.isDigit) (l := cs ++ rest)
  rw [takeWhile_isDigit h hrest] at happend
  exact List.append_cancel_left happend

/-- A whole number is written as the digits of its absolute value behind its sign. -/
theorem toList_toString_int (n : Int) :
    (toString n).toList = signed (decide (n < 0)) (Nat.toDigits 10 n.natAbs) := by
  cases n with
  | ofNat m =>
      change (toString m).toList = _
      rw [Nat.toString_eq_repr, Nat.toList_repr]
      rfl
  | negSucc m =>
      change ("-" ++ toString (m + 1)).toList = _
      rw [String.toList_append, Nat.toString_eq_repr, Nat.toList_repr, Int.natAbs_negSucc,
        decide_eq_true (Int.negSucc_lt_zero m)]
      rfl

theorem ite_neg_natAbs (n : Int) :
    (if decide (n < 0) = true then -(n.natAbs : Int) else n.natAbs) = n := by
  split
  next hneg =>
    rw [decide_eq_true_eq] at hneg
    omega
  next hpos =>
    rw [decide_eq_true_eq] at hpos
    omega

/-- The exponent of a decimal. -/
theorem exponent?_toString (n : Int) : exponent? ('e' :: (toString n).toList) = some n := by
  have hall : (Nat.toDigits 10 n.natAbs).all Char.isDigit = true :=
    List.all_eq_true.mpr (Digital.toDigits n.natAbs)
  have hread : ∀ negative : Bool, exponent? ('e' :: signed negative (Nat.toDigits 10 n.natAbs)) =
      some (if negative = true then -(n.natAbs : Int) else n.natAbs) := by
    intro negative
    have hsign := splitSign_signed negative (Digital.toDigits n.natAbs) Nat.toDigits_ne_nil []
    rw [List.append_nil] at hsign
    simp [exponent?, hsign, hall, Nat.toDigits_ne_nil, wholeOf_toDigits]
  rw [toList_toString_int, hread, ite_neg_natAbs]

variable {whole fraction rest : List Char}

/-- A decimal with a point. -/
theorem decimal?_point (negative : Bool) (hwhole : Digital whole) (hfraction : Digital fraction)
    (hne : whole ++ fraction ≠ []) (hrest : rest.head?.any Char.isDigit = false) :
    decimal? (signed negative (whole ++ '.' :: (fraction ++ rest))) =
      (exponent? rest).map fun e =>
        .ofDecimal negative (wholeOf (whole ++ fraction)) (e - fraction.length) := by
  have hsign : splitSign (signed negative (whole ++ '.' :: (fraction ++ rest))) =
      (negative, whole ++ '.' :: (fraction ++ rest)) := by
    rcases List.eq_nil_or_concat whole with rfl | ⟨init, c, rfl⟩
    · exact splitSign_signed_cons negative (by decide) (by decide) _
    · exact splitSign_signed negative hwhole (by simp) _
  have htake : (whole ++ '.' :: (fraction ++ rest)).takeWhile Char.isDigit = whole :=
    takeWhile_isDigit hwhole rfl
  simp only [decimal?, hsign, htake, List.drop_left, takeWhile_isDigit hfraction hrest,
    dropWhile_isDigit hfraction hrest, nearest_eq negative (hwhole.append hfraction)]
  rw [if_neg]
  simpa using hne

/-- A decimal with an exponent right behind its whole part. -/
theorem decimal?_exponent (negative : Bool) (hwhole : Digital whole) (hne : whole ≠ [])
    {letter : Char} (hletter : letter = 'e' ∨ letter = 'E') (rest : List Char) :
    decimal? (signed negative (whole ++ letter :: rest)) =
      (exponent? (letter :: rest)).map fun e => .ofDecimal negative (wholeOf whole) e := by
  have hsign := splitSign_signed negative hwhole hne (letter :: rest)
  have htake : (whole ++ letter :: rest).takeWhile Char.isDigit = whole :=
    takeWhile_isDigit hwhole (by rcases hletter with rfl | rfl <;> rfl)
  simp only [decimal?, hsign, htake, List.drop_left]
  rcases hletter with rfl | rfl <;> simp [hne, nearest_eq negative hwhole]

end Form

end SphereTrace.Ron.Reader
