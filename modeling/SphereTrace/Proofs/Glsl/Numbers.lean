import Mathlib.Data.List.Basic
import SphereTrace.Glsl.Value
import SphereTrace.Proofs.Ron.Decimals

/-! # Numbers in the grammar

How the shading language writes numbers: whole numbers in three bases, and floats with a point or
an exponent. Each reader answers exactly for the texts of the grammar, so a text has one meaning, and
no text is both a whole number and a float.
-/

namespace SphereTrace.Glsl

open Ron.Reader (Digital signed wholeOf exponent? hexDigit? isFloatChar)

section Whole

/-- The value of digits in a base. -/
def valueIn (base : Nat) (digits : List Char) : Nat :=
  digits.foldl (fun n c => n * base + (hexDigit? c).getD 0) 0

/-- All characters are digits of a base. -/
def DigitalIn (base : Nat) (digits : List Char) : Prop :=
  ∀ c ∈ digits, (hexDigit? c).any (· < base) = true

instance (base : Nat) (digits : List Char) : Decidable (DigitalIn base digits) :=
  List.decidableBAll (fun c => (hexDigit? c).any (· < base) = true) digits

/-- A whole number. A zero in front is the mark of octal digits, also where none follow. -/
inductive Integer : List Char → Nat → Prop where
  | decimal {digits : List Char} (hne : digits ≠ []) (hzero : digits.head? ≠ some '0')
      (hdigits : DigitalIn 10 digits) : Integer digits (valueIn 10 digits)
  | octal {digits : List Char} (hdigits : DigitalIn 8 digits) :
      Integer ('0' :: digits) (valueIn 8 digits)
  | hexadecimal {mark : Char} {digits : List Char} (hmark : mark = 'x' ∨ mark = 'X')
      (hne : digits ≠ []) (hdigits : DigitalIn 16 digits) :
      Integer ('0' :: mark :: digits) (valueIn 16 digits)

/-- Reads the digits of a base. -/
def digits? (base : Nat) (digits : List Char) : Option Nat :=
  if DigitalIn base digits then some (valueIn base digits) else none

/-- Reads a whole number. -/
def integer? : List Char → Option Nat
  | [] => none
  | '0' :: 'x' :: digits => if digits = [] then none else digits? 16 digits
  | '0' :: 'X' :: digits => if digits = [] then none else digits? 16 digits
  | '0' :: digits => digits? 8 digits
  | digits => digits? 10 digits

variable {cs digits : List Char} {n : Nat}

theorem digits?_eq_some_iff {base : Nat} :
    digits? base digits = some n ↔ DigitalIn base digits ∧ n = valueIn base digits := by
  unfold digits?
  split
  next h => simp [h, eq_comm]
  next h => simp [h]

theorem hexDigit?_of_isDigit {c : Char} (h : c.isDigit = true) :
    hexDigit? c = some (c.toNat - '0'.toNat) := by
  have hrange : '0' ≤ c ∧ c ≤ '9' := by
    simpa [Char.isDigit, Char.le_def, UInt32.le_iff_toNat_le] using h
  exact if_pos hrange

/-- Letters are digits only in bases above ten. -/
theorem isDigit_of_hexDigit? {c : Char} {base : Nat} (hbase : base ≤ 10)
    (h : (hexDigit? c).any (· < base) = true) : c.isDigit = true := by
  unfold hexDigit? at h
  split at h
  next hrange => simpa [Char.isDigit, Char.le_def, UInt32.le_iff_toNat_le] using hrange
  next =>
    split at h
    next =>
      rw [Option.any_some, decide_eq_true_eq] at h
      omega
    next =>
      split at h
      next =>
        rw [Option.any_some, decide_eq_true_eq] at h
        omega
      next => cases h

theorem DigitalIn.digital {base : Nat} (hbase : base ≤ 10) (h : DigitalIn base digits) :
    Digital digits :=
  fun c hc => isDigit_of_hexDigit? hbase (h c hc)

/-- The mark of a base above ten is no octal digit. -/
theorem not_digitalIn_mark {mark : Char} (hmark : mark = 'x' ∨ mark = 'X') :
    ¬ DigitalIn 8 (mark :: digits) := by
  intro h
  have hfirst := h mark List.mem_cons_self
  rcases hmark with rfl | rfl <;> exact absurd hfirst (by decide)

theorem integer_of_integer? (h : integer? cs = some n) : Integer cs n := by
  unfold integer? at h
  split at h
  · cases h
  -- Both marks of hexadecimal digits are read alike.
  iterate 2
    split at h
    · cases h
    · next hne =>
      obtain ⟨hdigits, rfl⟩ := digits?_eq_some_iff.mp h
      exact .hexadecimal (by decide) hne hdigits
  · obtain ⟨hdigits, rfl⟩ := digits?_eq_some_iff.mp h
    exact .octal hdigits
  · next hne _ _ hzero =>
    obtain ⟨hdigits, rfl⟩ := digits?_eq_some_iff.mp h
    refine .decimal hne ?_ hdigits
    intro hhead
    obtain ⟨others, rfl⟩ := List.head?_eq_some_iff.mp hhead
    exact hzero others rfl

theorem Integer.integer?_eq (h : Integer cs n) : integer? cs = some n := by
  cases h with
  | decimal hne hzero hdigits =>
      unfold integer?
      split
      next => exact absurd rfl hne
      next => exact absurd rfl hzero
      next => exact absurd rfl hzero
      next => exact absurd rfl hzero
      next => exact digits?_eq_some_iff.mpr ⟨hdigits, rfl⟩
  | octal hdigits =>
      unfold integer?
      split
      next heq => cases heq
      next heq => cases heq; exact absurd hdigits (not_digitalIn_mark (.inl rfl))
      next heq => cases heq; exact absurd hdigits (not_digitalIn_mark (.inr rfl))
      next heq => cases heq; exact digits?_eq_some_iff.mpr ⟨hdigits, rfl⟩
      next hzero => exact absurd rfl (hzero _)
  | hexadecimal hmark hne hdigits =>
      rcases hmark with rfl | rfl <;>
        simp only [integer?, hne, if_false, digits?_eq_some_iff.mpr ⟨hdigits, rfl⟩]

theorem integer?_eq_some_iff : integer? cs = some n ↔ Integer cs n :=
  ⟨integer_of_integer?, Integer.integer?_eq⟩

/-- Without the mark of a base there are only digits. -/
theorem Integer.digital_or_mark (h : Integer cs n) :
    Digital cs ∨ 'x' ∈ cs ∨ 'X' ∈ cs := by
  cases h with
  | decimal _ _ hdigits => exact .inl (hdigits.digital (Nat.le_refl 10))
  | octal hdigits =>
      exact .inl (List.forall_mem_cons.mpr ⟨by decide, hdigits.digital (by decide)⟩)
  | hexadecimal hmark => rcases hmark with rfl | rfl <;> simp

theorem Integer.head (h : Integer cs n) : ∃ c rest, cs = c :: rest ∧ c.isDigit = true := by
  cases h with
  | decimal hne _ hdigits =>
      obtain ⟨c, rest, rfl⟩ := List.exists_cons_of_ne_nil hne
      exact ⟨c, rest, rfl, hdigits.digital (Nat.le_refl 10) c List.mem_cons_self⟩
  | octal | hexadecimal => exact ⟨'0', _, rfl, by decide⟩

end Whole

section Float

/-- The power of ten of a float, behind its letter. -/
inductive Exponent : List Char → Int → Prop where
  | signed {letter : Char} {digits : List Char} (hletter : letter = 'e' ∨ letter = 'E')
      (negative : Bool) (hne : digits ≠ []) (hdigits : Digital digits) :
      Exponent (letter :: signed negative digits)
        (if negative then -(wholeOf digits : Int) else wholeOf digits)
  | plus {letter : Char} {digits : List Char} (hletter : letter = 'e' ∨ letter = 'E')
      (hne : digits ≠ []) (hdigits : Digital digits) :
      Exponent (letter :: '+' :: digits) (wholeOf digits)

/-- A float without a suffix, with the value of its digits and the power of ten that this is
multiplied by. Digits may be missing on one side of a point; without a point there has to be an
exponent. -/
inductive Unsuffixed : List Char → Nat → Int → Prop where
  | point {whole fraction : List Char} (hne : whole ++ fraction ≠ [])
      (hdigits : Digital (whole ++ fraction)) :
      Unsuffixed (whole ++ '.' :: fraction) (wholeOf (whole ++ fraction)) (-fraction.length)
  | both {whole fraction part : List Char} {e : Int} (hne : whole ++ fraction ≠ [])
      (hdigits : Digital (whole ++ fraction)) (hpart : Exponent part e) :
      Unsuffixed (whole ++ '.' :: (fraction ++ part)) (wholeOf (whole ++ fraction))
        (e - fraction.length)
  | exponent {whole part : List Char} {e : Int} (hne : whole ≠ []) (hdigits : Digital whole)
      (hpart : Exponent part e) : Unsuffixed (whole ++ part) (wholeOf whole) e

/-- A float, with an optional suffix. -/
inductive Floating : List Char → Nat → Int → Prop where
  | plain {cs : List Char} {significand : Nat} {e : Int} (h : Unsuffixed cs significand e) :
      Floating cs significand e
  | suffixed {cs : List Char} {suffix : Char} {significand : Nat} {e : Int}
      (h : Unsuffixed cs significand e) (hsuffix : suffix = 'f' ∨ suffix = 'F') :
      Floating (cs ++ [suffix]) significand e

/-- Reads a float without a suffix. -/
def unsuffixed? (cs : List Char) : Option (Nat × Int) :=
  let whole := cs.takeWhile Char.isDigit
  match cs.dropWhile Char.isDigit with
  | [] => none
  | '.' :: rest =>
    let fraction := rest.takeWhile Char.isDigit
    if whole ++ fraction = [] then none
    else (exponent? (rest.dropWhile Char.isDigit)).map fun e =>
      (wholeOf (whole ++ fraction), e - fraction.length)
  | part => if whole = [] then none else (exponent? part).map fun e => (wholeOf whole, e)

/-- Drops a suffix of a float if there is one. -/
def dropSuffix (cs : List Char) : List Char :=
  if cs.getLast? = some 'f' ∨ cs.getLast? = some 'F' then cs.dropLast else cs

/-- Reads a float. -/
def floating? (cs : List Char) : Option (Nat × Int) :=
  unsuffixed? (dropSuffix cs)

variable {cs part : List Char} {significand : Nat} {e : Int}

theorem Exponent.head (h : Exponent part e) :
    ∃ letter rest, part = letter :: rest ∧ (letter = 'e' ∨ letter = 'E') := by
  cases h with
  | signed hletter | plus hletter => exact ⟨_, _, rfl, hletter⟩

theorem Exponent.not_digit (h : Exponent part e) : part.head?.any Char.isDigit = false := by
  obtain ⟨_, _, rfl, rfl | rfl⟩ := h.head <;> rfl

theorem exponent_of_exponent? (h : exponent? part = some e) :
    part = [] ∧ e = 0 ∨ Exponent part e := by
  unfold exponent? at h
  split at h
  · exact .inl ⟨rfl, (Option.some.inj h).symm⟩
  · next letter rest =>
    split at h
    · next hletter =>
      have hsign := Ron.Reader.splitSign_eq rest
      generalize Ron.Reader.splitSign rest = split at h hsign
      obtain ⟨negative, digits⟩ := split
      dsimp only at h hsign
      split at h
      · cases h
      · next hdigits =>
        obtain ⟨hne, hall⟩ : digits ≠ [] ∧ Digital digits := by simpa [Digital] using hdigits
        obtain rfl := Option.some.inj h
        rcases hsign with rfl | ⟨rfl, rfl⟩
        · exact .inr (.signed hletter negative hne hall)
        · exact .inr (.plus hletter hne hall)
    · cases h

theorem exponent?_of_splitSign (negative : Bool) {letter : Char} {rest digits : List Char}
    (hletter : letter = 'e' ∨ letter = 'E') (hne : digits ≠ []) (hdigits : Digital digits)
    (hsign : Ron.Reader.splitSign rest = (negative, digits)) :
    exponent? (letter :: rest) =
      some (if negative then -(wholeOf digits : Int) else wholeOf digits) := by
  have hall : digits.all Char.isDigit = true := List.all_eq_true.mpr hdigits
  simp [exponent?, hletter, hsign, hne, hall]

theorem Exponent.exponent?_eq (h : Exponent part e) : exponent? part = some e := by
  cases h with
  | signed hletter negative hne hdigits =>
      have hsign := Ron.Reader.splitSign_signed negative hdigits hne []
      rw [List.append_nil] at hsign
      exact exponent?_of_splitSign negative hletter hne hdigits hsign
  | plus hletter hne hdigits => exact exponent?_of_splitSign false hletter hne hdigits rfl

/-- Every text has a longest run of digits in front. -/
theorem exists_span_digits (cs : List Char) : ∃ whole rest, Digital whole ∧ whole ++ rest = cs ∧
    cs.takeWhile Char.isDigit = whole ∧ cs.dropWhile Char.isDigit = rest :=
  ⟨_, _, List.all_eq_true.mp List.all_takeWhile, List.takeWhile_append_dropWhile, rfl, rfl⟩

/-- Digits that are followed by none are this run. -/
theorem span_digits {whole : List Char} (hwhole : Digital whole) (rest : List Char)
    (hrest : rest.head?.any Char.isDigit = false) :
    (whole ++ rest).takeWhile Char.isDigit = whole ∧
      (whole ++ rest).dropWhile Char.isDigit = rest :=
  ⟨Ron.Reader.takeWhile_isDigit hwhole hrest, Ron.Reader.dropWhile_isDigit hwhole hrest⟩

theorem unsuffixed_of_unsuffixed? (h : unsuffixed? cs = some (significand, e)) :
    Unsuffixed cs significand e := by
  obtain ⟨whole, tail, hwhole, rfl, htake, hdrop⟩ := exists_span_digits cs
  simp only [unsuffixed?, htake, hdrop] at h
  split at h
  · cases h
  · next rest =>
    obtain ⟨fraction, part, hfraction, rfl, htake, hdrop⟩ := exists_span_digits rest
    simp only [htake, hdrop] at h
    split at h
    · cases h
    · next hne =>
      obtain ⟨e', hpart, heq⟩ := Option.map_eq_some_iff.mp h
      cases heq
      rcases exponent_of_exponent? hpart with ⟨rfl, rfl⟩ | hpart
      · rw [List.append_nil, Int.zero_sub]
        exact .point hne (hwhole.append hfraction)
      · exact .both hne (hwhole.append hfraction) hpart
  · next hnil _ =>
    split at h
    · cases h
    · next hne =>
      obtain ⟨e', hpart, heq⟩ := Option.map_eq_some_iff.mp h
      cases heq
      rcases exponent_of_exponent? hpart with ⟨rfl, _⟩ | hpart
      · exact absurd rfl hnil
      · exact .exponent hne hwhole hpart

theorem Unsuffixed.unsuffixed?_eq (h : Unsuffixed cs significand e) :
    unsuffixed? cs = some (significand, e) := by
  cases h with
  | @point whole fraction hne hdigits =>
      have hwhole := span_digits hdigits.of_append_left ('.' :: fraction) rfl
      have hfraction := span_digits hdigits.of_append_right [] rfl
      rw [List.append_nil] at hfraction
      simp [unsuffixed?, hwhole, hfraction, hne, exponent?]
  | @both whole fraction part e hne hdigits hpart =>
      have hwhole := span_digits hdigits.of_append_left ('.' :: (fraction ++ part)) rfl
      have hfraction := span_digits hdigits.of_append_right part hpart.not_digit
      simp [unsuffixed?, hwhole, hfraction, hne, hpart.exponent?_eq]
  | exponent hne hdigits hpart =>
      have hwhole := span_digits hdigits _ hpart.not_digit
      have hread := hpart.exponent?_eq
      -- The first character of the exponent tells the reader that there is no point.
      obtain ⟨letter, rest, rfl, hletter⟩ := hpart.head
      rcases hletter with rfl | rfl <;> simp [unsuffixed?, hwhole, hne, hread]

theorem isFloatChar_of_digital (h : Digital cs) : ∀ c ∈ cs, isFloatChar c = true :=
  fun c hc => by simp [isFloatChar, h c hc]

theorem Exponent.isFloatChar (h : Exponent part e) : ∀ c ∈ part, isFloatChar c = true := by
  have hletter : ∀ {letter : Char}, (letter = 'e' ∨ letter = 'E') →
      Ron.Reader.isFloatChar letter = true := by
    rintro letter (rfl | rfl) <;> decide
  cases h with
  | signed h negative _ hdigits =>
      refine List.forall_mem_cons.mpr ⟨hletter h, ?_⟩
      cases negative with
      | true => exact List.forall_mem_cons.mpr ⟨by decide, isFloatChar_of_digital hdigits⟩
      | false => exact isFloatChar_of_digital hdigits
  | plus h _ hdigits =>
      exact List.forall_mem_cons.mpr ⟨hletter h,
        List.forall_mem_cons.mpr ⟨by decide, isFloatChar_of_digital hdigits⟩⟩

theorem Unsuffixed.isFloatChar (h : Unsuffixed cs significand e) :
    ∀ c ∈ cs, isFloatChar c = true := by
  have hpoint : Ron.Reader.isFloatChar '.' = true := by decide
  cases h with
  | point _ hdigits =>
      obtain ⟨hwhole, hfraction⟩ := List.forall_mem_append.mp (isFloatChar_of_digital hdigits)
      exact List.forall_mem_append.mpr ⟨hwhole, List.forall_mem_cons.mpr ⟨hpoint, hfraction⟩⟩
  | both _ hdigits hpart =>
      obtain ⟨hwhole, hfraction⟩ := List.forall_mem_append.mp (isFloatChar_of_digital hdigits)
      exact List.forall_mem_append.mpr ⟨hwhole, List.forall_mem_cons.mpr
        ⟨hpoint, List.forall_mem_append.mpr ⟨hfraction, hpart.isFloatChar⟩⟩⟩
  | exponent _ hdigits hpart =>
      exact List.forall_mem_append.mpr ⟨isFloatChar_of_digital hdigits, hpart.isFloatChar⟩

/-- Only what has no suffix is left when a suffix is dropped. -/
theorem Unsuffixed.dropSuffix_eq (h : Unsuffixed cs significand e) : dropSuffix cs = cs := by
  refine if_neg ?_
  rintro (hlast | hlast) <;>
    exact absurd (h.isFloatChar _ (List.mem_of_getLast? hlast)) (by decide)

theorem floating?_eq_some_iff :
    floating? cs = some (significand, e) ↔ Floating cs significand e := by
  constructor
  · intro h
    have hread := unsuffixed_of_unsuffixed? h
    unfold dropSuffix at hread
    split at hread
    · next hlast =>
      rcases hlast with hlast | hlast
      all_goals
        rw [← List.dropLast_append_getLast? _ hlast]
        exact .suffixed hread (by decide)
    · exact .plain hread
  · intro h
    cases h with
    | plain h => rw [floating?, h.dropSuffix_eq, h.unsuffixed?_eq]
    | suffixed h hsuffix =>
        rw [floating?, dropSuffix, List.getLast?_concat, List.dropLast_concat,
          if_pos (by simpa using hsuffix), h.unsuffixed?_eq]

/-- A float shows that it is one. -/
theorem Unsuffixed.exists_mark (h : Unsuffixed cs significand e) :
    ∃ c ∈ cs, c = '.' ∨ c = 'e' ∨ c = 'E' := by
  cases h with
  | point | both => exact ⟨'.', by simp, .inl rfl⟩
  | exponent _ _ hpart =>
      obtain ⟨letter, rest, rfl, hletter⟩ := hpart.head
      exact ⟨letter, by simp, .inr hletter⟩

/-- A float starts with a digit or with its point. -/
theorem Unsuffixed.head (h : Unsuffixed cs significand e) :
    ∃ c rest, cs = c :: rest ∧ (c.isDigit = true ∨ c = '.') := by
  have hdigit : ∀ {whole rest : List Char}, whole ≠ [] → Digital whole →
      ∃ c others, whole ++ rest = c :: others ∧ (c.isDigit = true ∨ c = '.') := by
    intro whole rest hne hwhole
    obtain ⟨c, others, rfl⟩ := List.exists_cons_of_ne_nil hne
    exact ⟨c, others ++ rest, rfl, .inl (hwhole c List.mem_cons_self)⟩
  cases h with
  | @point whole _ _ hdigits | @both whole _ _ _ _ hdigits =>
      rcases whole.eq_nil_or_concat with rfl | ⟨init, c, rfl⟩
      · exact ⟨'.', _, rfl, .inr rfl⟩
      · exact hdigit (by simp) hdigits.of_append_left
  | exponent hne hdigits => exact hdigit hne hdigits

theorem Floating.head (h : Floating cs significand e) :
    ∃ c rest, cs = c :: rest ∧ (c.isDigit = true ∨ c = '.') := by
  cases h with
  | plain h => exact h.head
  | suffixed h =>
      obtain ⟨c, rest, rfl, hc⟩ := h.head
      exact ⟨c, _, rfl, hc⟩

theorem Floating.isFloatChar_or (h : Floating cs significand e) :
    ∀ c ∈ cs, isFloatChar c = true ∨ c = 'f' ∨ c = 'F' := by
  cases h with
  | plain h => exact fun c hc => .inl (h.isFloatChar c hc)
  | suffixed h hsuffix =>
      intro c hc
      rcases List.mem_append.mp hc with hc | hc
      · exact .inl (h.isFloatChar c hc)
      · exact .inr (List.mem_singleton.mp hc ▸ hsuffix)

theorem Floating.exists_mark (h : Floating cs significand e) :
    ∃ c ∈ cs, c = '.' ∨ c = 'e' ∨ c = 'E' := by
  cases h with
  | plain h => exact h.exists_mark
  | suffixed h =>
      obtain ⟨c, hc, hmark⟩ := h.exists_mark
      exact ⟨c, List.mem_append_left _ hc, hmark⟩

end Float

section Scalar

/-- A number behind an optional minus. What a whole number means is its bit pattern, which has to
fit in 32 bits; a float means the number nearest to it. -/
inductive Scalar : List Char → Value → Prop where
  | int {body : List Char} {n : Nat} (negative : Bool) (h : Integer body n)
      (hfits : n < 0x100000000) :
      Scalar (signed negative body) (.int (if negative then -Int32.ofNat n else Int32.ofNat n))
  | float {body : List Char} {significand : Nat} {e : Int} (negative : Bool)
      (h : Floating body significand e) :
      Scalar (signed negative body) (.float (.ofDecimal negative significand e))

/-- Reads a number behind its sign. -/
def number? (negative : Bool) (body : List Char) : Option Value :=
  match integer? body with
  | some n =>
    if n < 0x100000000 then some (.int (if negative then -Int32.ofNat n else Int32.ofNat n))
    else none
  | none => (floating? body).map fun (significand, e) => .float (.ofDecimal negative significand e)

/-- Reads a number and its sign. -/
def scalar? : List Char → Option Value
  | '-' :: body => number? true body
  | body => number? false body

variable {cs body : List Char} {significand n : Nat} {e : Int} {v : Value} {negative : Bool}

/-- No text is both a whole number and a float. -/
theorem Floating.not_integer (h : Floating body significand e) : ¬ Integer body n := by
  intro hinteger
  obtain ⟨mark, hmem, hmark⟩ := h.exists_mark
  rcases hinteger.digital_or_mark with hdigital | hbase | hbase
  · have hdigit := hdigital mark hmem
    rcases hmark with rfl | rfl | rfl <;> exact absurd hdigit (by decide)
  · exact absurd (h.isFloatChar_or _ hbase) (by decide)
  · exact absurd (h.isFloatChar_or _ hbase) (by decide)

theorem number?_of_integer (h : Integer body n) (hfits : n < 0x100000000) :
    number? negative body =
      some (.int (if negative then -Int32.ofNat n else Int32.ofNat n)) := by
  rw [number?, integer?_eq_some_iff.mpr h]
  exact if_pos hfits

theorem number?_of_floating (h : Floating body significand e) :
    number? negative body = some (.float (.ofDecimal negative significand e)) := by
  have hnone : integer? body = none := by
    rw [Option.eq_none_iff_forall_ne_some]
    exact fun n hn => h.not_integer (integer?_eq_some_iff.mp hn)
  rw [number?, hnone, floating?_eq_some_iff.mpr h]
  rfl

theorem scalar_of_number? (negative : Bool) (h : number? negative body = some v) :
    Scalar (signed negative body) v := by
  unfold number? at h
  split at h
  · next n hn =>
    split at h
    · next hfits =>
      obtain rfl := Option.some.inj h
      exact .int negative (integer?_eq_some_iff.mp hn) hfits
    · cases h
  · obtain ⟨⟨significand, e⟩, hread, rfl⟩ := Option.map_eq_some_iff.mp h
    exact .float negative (floating?_eq_some_iff.mp hread)

theorem scalar?_signed {c : Char} (hc : c.isDigit = true ∨ c = '.') (rest : List Char) :
    scalar? (signed negative (c :: rest)) = number? negative (c :: rest) := by
  cases negative with
  | true => rfl
  | false =>
      change scalar? (c :: rest) = _
      unfold scalar?
      split
      next heq =>
        cases heq
        exact absurd hc (by decide)
      next => rfl

theorem scalar?_eq_some_iff : scalar? cs = some v ↔ Scalar cs v := by
  constructor
  · intro h
    unfold scalar? at h
    split at h
    · exact scalar_of_number? true h
    · exact scalar_of_number? false h
  · intro h
    cases h with
    | int negative h hfits =>
        obtain ⟨c, rest, rfl, hc⟩ := h.head
        rw [scalar?_signed (.inl hc), number?_of_integer h hfits]
    | float negative h =>
        obtain ⟨c, rest, rfl, hc⟩ := h.head
        rw [scalar?_signed hc, number?_of_floating h]

end Scalar

end SphereTrace.Glsl
