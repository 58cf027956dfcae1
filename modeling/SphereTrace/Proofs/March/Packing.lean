import SphereTrace.March.Pixel
import SphereTrace.Proofs.Binary32.Whole

/-! # Packed colours

A colour that is packed into a number as three bytes comes back as its levels. Every other number
has a colour too, told by the bits of its whole part: the two low channels only see their own bytes,
and the red one sees all that is above them.
-/

namespace SphereTrace.March

/-- A channel at one of the levels from 0 to 255. -/
def level (n : Nat) : Binary32 :=
  .ofInt n / .ofInt 255

/-- The red level of a whole part, which is not cut to one byte. -/
def redLevel (c : Int32) : Nat :=
  if c.toInt < 0 then 0 else if c.toInt < 0x1000000 then (c.toInt / 0x10000).toNat else 255

/-- One byte of a whole part in two's complement, with `below` bits below it. -/
def byteLevel (c : Int32) (below : Nat) : Nat :=
  (c.toBitVec.extractLsb' below 8).toNat

theorem redLevel_eq (c : Int32) : (redLevel c : Int) = max 0 (min 255 (c.toInt / 0x10000)) := by
  unfold redLevel
  split
  next => omega
  next => split <;> omega

theorem redLevel_le (c : Int32) : redLevel c ≤ 255 := by
  have heq := redLevel_eq c
  omega

theorem byteLevel_le (c : Int32) (below : Nat) : byteLevel c below ≤ 255 :=
  Nat.le_of_lt_succ (BitVec.isLt _)

/-- The value in two's complement is off by a multiple of all bytes, which division to the floor
does not see. -/
theorem byteLevel_eight (c : Int32) : (byteLevel c 8 : Int) = c.toInt / 0x100 % 0x100 := by
  have hvalue := BitVec.toInt_eq_toNat_cond c.toBitVec
  have hlt := c.toBitVec.isLt
  rw [byteLevel, BitVec.extractLsb'_toNat, Nat.shiftRight_eq_div_pow, ← Int32.toInt_toBitVec]
  omega

theorem byteLevel_zero (c : Int32) : (byteLevel c 0 : Int) = c.toInt % 0x100 := by
  have hvalue := BitVec.toInt_eq_toNat_cond c.toBitVec
  have hlt := c.toBitVec.isLt
  rw [byteLevel, BitVec.extractLsb'_toNat, Nat.shiftRight_zero, ← Int32.toInt_toBitVec]
  omega

theorem toInt_clampByte (n : Int32) : (clampByte n).toInt = max 0 (min 255 n.toInt) := by
  have hzero : (0 : Int32).toInt = 0 := rfl
  have htop : (255 : Int32).toInt = 255 := rfl
  unfold clampByte
  split
  next hneg =>
    rw [Int32.lt_iff_toInt_lt, hzero] at hneg
    omega
  next hneg =>
    rw [Int32.lt_iff_toInt_lt, hzero] at hneg
    split
    next hbig =>
      rw [Int32.lt_iff_toInt_lt, htop] at hbig
      omega
    next hbig =>
      rw [Int32.lt_iff_toInt_lt, htop] at hbig
      omega

/-- The sign moves in from the left. -/
theorem toInt_shiftRight (c : Int32) : (c >>> 16).toInt = c.toInt / 0x10000 := by
  have hbits : (c >>> 16).toBitVec = c.toBitVec.sshiftRight 16 := rfl
  rw [← Int32.toInt_toBitVec, hbits, BitVec.toInt_sshiftRight, Int.shiftRight_eq_div_pow,
    Int32.toInt_toBitVec]
  rfl

theorem toInt_low_byte (c : Int32) : (c &&& 0xff).toInt = c.toInt % 0x100 := by
  have hvalue := BitVec.toInt_eq_toNat_cond c.toBitVec
  have hmasked := BitVec.toInt_eq_toNat_cond (c &&& 0xff).toBitVec
  have hbits : (c &&& 0xff).toBitVec.toNat = c.toBitVec.toNat % 0x100 := by
    rw [Int32.toBitVec_and, BitVec.toNat_and]
    exact Nat.and_two_pow_sub_one_eq_mod _ 8
  have hlt := c.toBitVec.isLt
  rw [Int32.toInt_toBitVec] at hvalue hmasked
  omega

/-- What the mask leaves is not negative, so no sign moves in. -/
theorem toInt_middle_byte (c : Int32) :
    ((c &&& 0xff00) >>> 8).toInt = c.toInt / 0x100 % 0x100 := by
  have hvalue := BitVec.toInt_eq_toNat_cond c.toBitVec
  have hmasked := BitVec.toInt_eq_toNat_cond (c &&& 0xff00).toBitVec
  have hshift : ((c &&& 0xff00) >>> 8).toBitVec = (c &&& 0xff00).toBitVec.sshiftRight 8 := rfl
  have hnat : (c &&& 0xff00).toBitVec.toNat = c.toBitVec.toNat &&& 0xff00 := by
    rw [Int32.toBitVec_and, BitVec.toNat_and]
    rfl
  have hsmall : c.toBitVec.toNat &&& 0xff00 ≤ 0xff00 := Nat.and_le_right
  have hbits : (c.toBitVec.toNat &&& 0xff00) / 0x100 = c.toBitVec.toNat / 0x100 % 0x100 := by
    have hand := Nat.shiftRight_and_distrib (i := 8) (a := c.toBitVec.toNat) (b := 0xff00)
    rw [Nat.shiftRight_eq_div_pow, Nat.shiftRight_eq_div_pow] at hand
    exact hand.trans (Nat.and_two_pow_sub_one_eq_mod _ 8)
  have hlt := c.toBitVec.isLt
  rw [← Int32.toInt_toBitVec ((c &&& 0xff00) >>> 8), hshift, BitVec.toInt_sshiftRight,
    Int.shiftRight_eq_div_pow, hmasked, hnat]
  rw [Int32.toInt_toBitVec] at hvalue
  omega

/-- The channels of a number by division and remainder. -/
theorem colourOfNumber_eq_div (x : Binary32) :
    let packed := x.toInt32.toInt
    let channel (n : Int) : Binary32 := .ofInt n / Scalar.ofNat 255
    colourOfNumber x = ⟨channel (max 0 (min 255 (packed / 0x10000))),
      channel (packed / 0x100 % 0x100), channel (packed % 0x100)⟩ := by
  intro packed channel
  have hbyte : ∀ n : Int, max 0 (min 255 (n % 0x100)) = n % 0x100 := by omega
  simp only [colourOfNumber, toInt_clampByte, toInt_shiftRight, toInt_middle_byte, toInt_low_byte,
    hbyte]
  rfl

/-- The colour of a number is told by its whole part. -/
theorem colourOfNumber_eq (x : Binary32) :
    colourOfNumber x = ⟨level (redLevel x.toInt32), level (byteLevel x.toInt32 8),
      level (byteLevel x.toInt32 0)⟩ := by
  simp only [level, redLevel_eq, byteLevel_eight, byteLevel_zero, colourOfNumber_eq_div]
  rfl

/-- A packed colour comes back. -/
theorem colourOfNumber_packed {red green blue : Nat} (hred : red ≤ 255) (hgreen : green ≤ 255)
    (hblue : blue ≤ 255) :
    colourOfNumber (.ofInt (65536 * red + 256 * green + blue)) =
      ⟨level red, level green, level blue⟩ := by
  have hwhole := Binary32.toInt_toInt32_ofInt (n := 65536 * red + 256 * green + blue) (by omega)
  rw [colourOfNumber_eq]
  generalize (Binary32.ofInt (65536 * red + 256 * green + blue)).toInt32 = c at hwhole ⊢
  have hr := redLevel_eq c
  have hg := byteLevel_eight c
  have hb := byteLevel_zero c
  rw [hwhole] at hr hg hb
  obtain rfl : redLevel c = red := by omega
  obtain rfl : byteLevel c 8 = green := by omega
  obtain rfl : byteLevel c 0 = blue := by omega
  rfl

/-- Levels are in the range of a colour. -/
theorem level_mem {n : Nat} (h : n ≤ 255) : 0 ≤ level n ∧ level n ≤ 1 := by
  have hall : ∀ n : Fin 256, 0 ≤ level n ∧ level n ≤ 1 := by decide +kernel
  exact hall ⟨n, Nat.lt_succ_of_le h⟩

/-- The colour of a number that packs three bytes has the quotients of these bytes by 255 as its
channels. The channels of any number are such quotients, in the range of a colour and told by its
whole part: red is nothing below zero, full above three bytes and the third byte between, and green
and blue are the two low bytes in two's complement. -/
theorem colourOfNumber_levels :
    (∀ red green blue : Nat, red ≤ 255 → green ≤ 255 → blue ≤ 255 →
      colourOfNumber (.ofInt (65536 * red + 256 * green + blue)) =
        ⟨.ofInt red / .ofInt 255, .ofInt green / .ofInt 255, .ofInt blue / .ofInt 255⟩) ∧
    ∀ x : Binary32, (∀ channel ∈ (colourOfNumber x).toList, 0 ≤ channel ∧ channel ≤ 1) ∧
      ∃ c : Int32, x.IsWholePart c ∧
        ∃ red green blue : Nat, red ≤ 255 ∧ green ≤ 255 ∧ blue ≤ 255 ∧
          colourOfNumber x =
            ⟨.ofInt red / .ofInt 255, .ofInt green / .ofInt 255, .ofInt blue / .ofInt 255⟩ ∧
          (c.toInt < 0 → red = 0) ∧
          (0 ≤ c.toInt → c.toInt < 0x1000000 → (red : Int) = c.toInt / 0x10000) ∧
          (0x1000000 ≤ c.toInt → red = 255) ∧
          green = (c.toBitVec.extractLsb' 8 8).toNat ∧
          blue = (c.toBitVec.extractLsb' 0 8).toNat := by
  refine ⟨fun _ _ _ hred hgreen hblue => colourOfNumber_packed hred hgreen hblue, fun x => ?_⟩
  have hred := redLevel_eq x.toInt32
  constructor
  · rw [colourOfNumber_eq]
    simp only [Vec3.toList, List.forall_mem_cons]
    exact ⟨level_mem (redLevel_le _), level_mem (byteLevel_le _ _), level_mem (byteLevel_le _ _),
      nofun⟩
  · refine ⟨x.toInt32, x.isWholePart_toInt32, redLevel x.toInt32, byteLevel x.toInt32 8,
      byteLevel x.toInt32 0, redLevel_le _, byteLevel_le _ _, byteLevel_le _ _, colourOfNumber_eq x,
      ?_, ?_, ?_, rfl, rfl⟩ <;> omega

/-- Orange comes back from its three bytes, and minus one has all bits of its low bytes set. -/
theorem colourOfNumber_levels_orange :
    colourOfNumber 0xff8000 =
        ⟨.ofInt 255 / .ofInt 255, .ofInt 128 / .ofInt 255, .ofInt 0 / .ofInt 255⟩ ∧
      colourOfNumber (-1) =
        ⟨.ofInt 0 / .ofInt 255, .ofInt 255 / .ofInt 255, .ofInt 255 / .ofInt 255⟩ := by
  obtain ⟨hpacked, hany⟩ := colourOfNumber_levels
  refine ⟨hpacked 255 128 0 (by decide) (by decide) (by decide), ?_⟩
  obtain ⟨_, c, hwhole, red, green, blue, _, _, _, hcolour, hbelow, _, _, hgreen, hblue⟩ :=
    hany (-1)
  have hc : c.toInt = -1 := hwhole
  obtain rfl : c = -1 := Int32.toInt_inj.mp hc
  rw [hcolour, hbelow (by decide), hgreen, hblue]
  decide +kernel

end SphereTrace.March
