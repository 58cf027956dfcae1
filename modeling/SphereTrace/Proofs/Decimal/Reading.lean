import SphereTrace.Glsl.Literal
import SphereTrace.Proofs.Ron.Decimals

/-! # Reading numbers back

The digits that are chosen for a number identify it, and every layout of digits keeps their value.
So a finite number is read back from its text bit for bit, with the sign of a zero, whatever the
range is in which it is written positionally.
-/

namespace SphereTrace

open Ron.Reader (Digital decimal? signed wholeOf)

namespace Decimal

section Shortest

variable {magnitude : Nat}

/-- Only zeros are cut from the end of the digits. -/
theorem exists_zeros (n places : Nat) : ∃ zeros,
    Nat.toDigits 10 n = (Digits.ofScaled n places).digits ++ List.replicate zeros '0' := by
  have hsplit := List.takeWhile_append_dropWhile (p := (· == '0')) (l := (wholeDigits n).reverse)
  have hzeros : ∀ c ∈ (wholeDigits n).reverse.takeWhile (· == '0'), c = '0' := fun c hc =>
    beq_iff_eq.mp (List.all_eq_true.mp List.all_takeWhile c hc)
  rw [List.eq_replicate_of_mem hzeros] at hsplit
  refine ⟨((wholeDigits n).reverse.takeWhile (· == '0')).length, ?_⟩
  have hreverse := congrArg List.reverse hsplit
  rw [List.reverse_append, List.reverse_replicate, List.reverse_reverse] at hreverse
  exact hreverse.symm

theorem digital_ofScaled (n places : Nat) : Digital (Digits.ofScaled n places).digits := by
  obtain ⟨zeros, hzeros⟩ := exists_zeros n places
  exact (hzeros ▸ Digital.toDigits n).of_append_left

/-- What is left of the digits has the value that it stands for. -/
theorem ofDecimal_ofScaled (negative : Bool) (n places : Nat) :
    Binary32.ofDecimal negative (wholeOf (Digits.ofScaled n places).digits)
        ((Digits.ofScaled n places).point - (Digits.ofScaled n places).digits.length) =
      .ofDecimal negative n (places - 149) := by
  obtain ⟨zeros, hzeros⟩ := exists_zeros n places
  have hvalue : n = wholeOf (Digits.ofScaled n places).digits * 10 ^ zeros := by
    rw [← Ron.Reader.wholeOf_append_zeros, ← hzeros, Ron.Reader.wholeOf_toDigits]
  have hlength := congrArg List.length hzeros
  rw [List.length_append, List.length_replicate] at hlength
  have hpoint : (Digits.ofScaled n places).point =
      ((Nat.toDigits 10 n).length + places : Int) - 149 := rfl
  have hexponent : (places : Int) - 149 =
      (Digits.ofScaled n places).point - (Digits.ofScaled n places).digits.length - zeros := by
    omega
  have hshift := Binary32.ofDecimal_mul_pow negative
    (wholeOf (Digits.ofScaled n places).digits) zeros
    ((Digits.ofScaled n places).point - (Digits.ofScaled n places).digits.length)
  rw [← hvalue, ← hexponent] at hshift
  exact hshift.symm

theorem digits_ofScaled_ne_nil {n : Nat} (h : 0 < n) (places : Nat) :
    (Digits.ofScaled n places).digits ≠ [] := by
  intro hnil
  obtain ⟨zeros, hzeros⟩ := exists_zeros n places
  have hvalue := Ron.Reader.wholeOf_toDigits n
  rw [hzeros, hnil, List.nil_append, ← List.append_nil (List.replicate zeros '0'),
    Ron.Reader.wholeOf_zeros_append] at hvalue
  exact Nat.ne_of_gt h hvalue.symm

/-- The places are counted in units that the least number is a whole multiple of. -/
theorem unitsPerOne_mul_scale : Binary32.unitsPerOne * Nat.pow 5 149 = 10 ^ 149 := by
  rw [← Nat.pow_eq]
  decide

theorem scale_pos : 0 < Nat.pow 5 149 :=
  Nat.pow_pos (by decide)

theorem readsBack_of_gridPoint? {places n : Nat} (h : gridPoint? magnitude places = some n) :
    readsBack magnitude n places = true := by
  -- The equation is taken at the function: at its arguments, checking it would compute `readsBack`.
  have hopen := Eq.refl gridPoint?
  conv_rhs at hopen => delta gridPoint?
  rw [hopen] at h
  dsimp only at h
  generalize readsBack magnitude = reads at h ⊢
  split at h
  next hbelow habove =>
    split at h
    next => exact Option.some.inj h ▸ hbelow
    next => exact Option.some.inj h ▸ habove
  next hbelow _ => exact Option.some.inj h ▸ hbelow
  next habove => exact Option.some.inj h ▸ habove
  next => cases h

/-- The exact expansion reads back. -/
theorem readsBack_expansion (h : magnitude < Binary32.infinityMagnitude) :
    readsBack magnitude (expansion magnitude) 0 = true := by
  have hunit : Nat.pow 10 0 = 1 := rfl
  have hratio : expansion magnitude * Nat.pow 10 0 * 1 =
      Binary32.unitsOf magnitude * Nat.pow 5 149 := by
    rw [hunit, Nat.mul_one, Nat.mul_one, expansion]
  have hnearest := Binary32.nearestMagnitude_congr hratio scale_pos Nat.one_pos
  rw [readsBack, hnearest, Binary32.nearestMagnitude_unitsOf h, beq_self_eq_true]

/-- The search only ends on a grid that has a point, or with what is not cut. -/
theorem exists_search {P : Nat → Nat → Prop} {grid : Nat → Option Nat} {uncut : Nat}
    (hgrid : ∀ places n, grid places = some n → P n places) (huncut : P uncut 0) (places : Nat) :
    ∃ n cut, search grid uncut places = Digits.ofScaled n cut ∧ P n cut := by
  induction places with
  | zero => exact ⟨uncut, 0, rfl, huncut⟩
  | succ places ih =>
      unfold search
      split
      next n hn => exact ⟨n, places + 1, rfl, hgrid _ n hn⟩
      next => exact ih

/-- The digits of a number stand for a multiple of a power of ten that reads back. -/
theorem exists_shortest (hfinite : magnitude < Binary32.infinityMagnitude) : ∃ n cut,
    shortest magnitude = Digits.ofScaled n cut ∧ readsBack magnitude n cut = true := by
  have hexpansion := readsBack_expansion hfinite
  have hgrid : ∀ places n, gridPoint? magnitude places = some n →
      readsBack magnitude n places = true := fun _ _ => readsBack_of_gridPoint?
  rw [shortest]
  generalize readsBack magnitude = reads at hexpansion hgrid ⊢
  exact exists_search (P := fun n places => reads n places = true) hgrid hexpansion _

theorem pos_of_readsBack {n places : Nat} (h : readsBack magnitude n places = true)
    (hpos : 0 < magnitude) : 0 < n := by
  rw [readsBack, beq_iff_eq] at h
  rcases Nat.eq_zero_or_pos n with rfl | hn
  · rw [Nat.zero_mul, Binary32.nearestMagnitude_zero scale_pos] at h
    exact absurd h (Nat.ne_of_lt hpos)
  · exact hn

theorem shortest_digits (hfinite : magnitude < Binary32.infinityMagnitude) (hpos : 0 < magnitude) :
    Digital (shortest magnitude).digits ∧ (shortest magnitude).digits ≠ [] := by
  obtain ⟨n, cut, hshortest, hreads⟩ := exists_shortest hfinite
  rw [hshortest]
  exact ⟨digital_ofScaled n cut, digits_ofScaled_ne_nil (pos_of_readsBack hreads hpos) cut⟩

/-- The digits of a number other than zero identify it. -/
theorem ofDecimal_shortest (negative : Bool) (hfinite : magnitude < Binary32.infinityMagnitude) :
    Binary32.ofDecimal negative (wholeOf (shortest magnitude).digits)
        ((shortest magnitude).point - (shortest magnitude).digits.length) =
      .ofMagnitude negative magnitude := by
  obtain ⟨n, cut, hshortest, hreads⟩ := exists_shortest hfinite
  rw [readsBack, beq_iff_eq] at hreads
  rw [hshortest, ofDecimal_ofScaled]
  exact (Binary32.ofDecimal_sub_grid unitsPerOne_mul_scale scale_pos negative n cut).trans
    (congrArg _ hreads)

end Shortest

section Layout

variable {d : Digits}

/-- Digits with a point among them, or among zeros that fill the places up to it on either side. -/
theorem decimal?_filled (negative : Bool) (hd : Digital d.digits) {whole fraction : List Char}
    (leading trailing : Nat) (hne : whole ≠ [])
    (hdigits : whole ++ fraction =
      List.replicate leading '0' ++ (d.digits ++ List.replicate trailing '0'))
    (hplaces : (fraction.length : Int) = d.digits.length + trailing - d.point) :
    decimal? (signed negative (whole ++ '.' :: fraction)) =
      some (.ofDecimal negative (wholeOf d.digits) (d.point - d.digits.length)) := by
  have hall : Digital (whole ++ fraction) :=
    hdigits ▸ (Digital.replicate_zero _).append (hd.append (Digital.replicate_zero _))
  have hread := Ron.Reader.decimal?_point negative hall.of_append_left hall.of_append_right
    (List.append_ne_nil_of_left_ne_nil hne _)
    (show ([] : List Char).head?.any Char.isDigit = false from rfl)
  have hvalue : wholeOf (whole ++ fraction) = wholeOf d.digits * 10 ^ trailing := by
    rw [hdigits, Ron.Reader.wholeOf_zeros_append, Ron.Reader.wholeOf_append_zeros]
  have hexponent : 0 - (fraction.length : Int) = d.point - d.digits.length - trailing := by
    omega
  rwa [List.append_nil, Ron.Reader.exponent?, Option.map_some, hvalue, hexponent,
    Binary32.ofDecimal_mul_pow] at hread

theorem decimal?_positional (negative : Bool) (hd : Digital d.digits) :
    decimal? (signed negative (positional d)) =
      some (.ofDecimal negative (wholeOf d.digits) (d.point - d.digits.length)) := by
  unfold positional
  split
  next hpoint =>
    -- The point is in front of the digits.
    change decimal? (signed negative
      (['0'] ++ '.' :: (List.replicate (-d.point).toNat '0' ++ d.digits))) = _
    refine decimal?_filled negative hd ((-d.point).toNat + 1) 0 (List.cons_ne_nil _ _) ?_ ?_
    · rw [List.replicate_succ, List.replicate_zero, List.append_nil]
      rfl
    · rw [List.length_append, List.length_replicate]
      omega
  next hpoint =>
    have htake : (d.digits.take d.point.toNat).length = min d.point.toNat d.digits.length :=
      List.length_take
    dsimp only
    generalize hzeros : d.point.toNat - (d.digits.take d.point.toNat).length = zeros
    have hne : d.digits.take d.point.toNat ++ List.replicate zeros '0' ≠ [] := by
      apply List.ne_nil_of_length_pos
      rw [List.length_append, List.length_replicate]
      omega
    split
    next hempty =>
      -- The point is behind the digits, so the fraction is a zero of its own.
      rw [List.isEmpty_iff, List.drop_eq_nil_iff] at hempty
      refine decimal?_filled negative hd 0 (zeros + 1) hne ?_ ?_
      · rw [List.take_of_length_le hempty, List.append_assoc, List.replicate_succ']
        rfl
      · rw [List.length_singleton]
        omega
    next hempty =>
      rw [List.isEmpty_iff, List.drop_eq_nil_iff, Nat.not_le] at hempty
      obtain rfl : zeros = 0 := by omega
      refine decimal?_filled negative hd 0 0 hne ?_ ?_
      · rw [List.replicate_zero, List.append_nil, List.append_nil, List.take_append_drop,
          List.nil_append]
      · rw [List.length_drop]
        omega

theorem decimal?_scientific (negative : Bool) (hd : Digital d.digits) (hne : d.digits ≠ []) :
    decimal? (signed negative (scientific d)) =
      some (.ofDecimal negative (wholeOf d.digits) (d.point - d.digits.length)) := by
  unfold scientific
  dsimp only
  split
  next first second rest hdigits =>
    rw [hdigits] at hd ⊢
    have hfirst : Digital [first] := Digital.of_append_left hd
    have hrest : Digital (second :: rest) :=
      Digital.of_append_right (show Digital ([first] ++ second :: rest) from hd)
    have hread := Ron.Reader.decimal?_point negative hfirst hrest (List.cons_ne_nil _ _)
      (show ('e' :: (toString (d.point - 1)).toList).head?.any Char.isDigit = false from rfl)
    have hexponent : d.point - 1 - ((second :: rest).length : Int) =
        d.point - (first :: second :: rest).length := by
      rw [List.length_cons (a := first)]
      omega
    rwa [Ron.Reader.exponent?_toString, Option.map_some, hexponent] at hread
  next hshort =>
    have hlength : d.digits.length = 1 := by
      match hdigits : d.digits with
      | [] => exact absurd hdigits hne
      | [_] => rfl
      | first :: second :: rest => exact absurd hdigits (hshort first second rest)
    rw [Ron.Reader.decimal?_exponent negative hd hne (.inl rfl), Ron.Reader.exponent?_toString,
      Option.map_some, hlength]
    rfl

theorem decimal?_layout (range : PositionalRange) (negative : Bool) (hd : Digital d.digits)
    (hne : d.digits ≠ []) :
    decimal? (signed negative (range.layout d)) =
      some (.ofDecimal negative (wholeOf d.digits) (d.point - d.digits.length)) := by
  unfold PositionalRange.layout
  split
  next => exact decimal?_positional negative hd
  next => exact decimal?_scientific negative hd hne

end Layout

/-- A finite number is read back from its text, bit for bit. -/
theorem decimal?_render (range : PositionalRange) {x : Binary32} (h : x.isFinite = true) :
    decimal? (range.render x).toList = some x := by
  have hfinite : x.magnitude < Binary32.infinityMagnitude := of_decide_eq_true h
  rw [PositionalRange.render, String.toList_ofList]
  change decimal? (signed x.negative _) = some x
  rcases Nat.eq_zero_or_pos x.magnitude with hzero | hpos
  · have hisZero : x.isZero = true := beq_iff_eq.mpr hzero
    have hread := decimal?_positional (d := ⟨['0'], 1⟩) x.negative (Digital.replicate_zero 1)
    rw [hisZero, if_pos rfl]
    refine hread.trans (congrArg some ?_)
    have hvalue : wholeOf ['0'] = 0 := rfl
    rw [hvalue, Binary32.ofDecimal_zero, Binary32.zero, ← hzero, Binary32.ofMagnitude_magnitude]
  · have hisZero : x.isZero = false := beq_eq_false_iff_ne.mpr (Nat.ne_of_gt hpos)
    obtain ⟨hdigital, hne⟩ := shortest_digits hfinite hpos
    rw [hisZero, if_neg (by decide), decimal?_layout range x.negative hdigital hne,
      ofDecimal_shortest x.negative hfinite, Binary32.ofMagnitude_magnitude]

end Decimal

namespace Glsl

/-- A finite number is read back from its constant. -/
theorem decimal?_floatLiteral {x : Binary32} (h : x.isFinite = true) :
    decimal? (floatLiteral x).toList = some x := by
  rw [floatLiteral, if_pos h, Decimal.decimal?_render _ h]

end Glsl

end SphereTrace
