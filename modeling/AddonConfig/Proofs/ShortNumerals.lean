import AddonConfig.Proofs.Numerals

/-!
# Short decimals

The JSON reader rounds the digits of a number before it scales them, the YAML reader rounds once. Both give the same
number wherever the digits and the power of ten lose nothing by themselves (`Binary64.ofScaledDecimal_short`), and so
do both readings of a numeral that writes such a decimal (`ShortNumeral.float_agrees`).
-/

namespace AddonConfig

/-! ### Rounding ratios -/

namespace Binary64
variable {num den n power : Nat}

theorem scaleRatio_div (num den : Nat) (shift : Int) :
    ((scaleRatio num den shift).1 : ℚ) / (scaleRatio num den shift).2 = num / den * 2 ^ shift := by
  unfold scaleRatio
  split
  · next h =>
    obtain ⟨size, rfl⟩ := Int.eq_ofNat_of_zero_le h
    simp [Nat.pow_eq, div_mul_eq_mul_div]
  · next h =>
    obtain ⟨size, hsize⟩ := Int.eq_ofNat_of_zero_le (Int.le_of_lt (Int.neg_pos_of_neg (Int.not_le.1 h)))
    obtain rfl : shift = -(size : Int) := by omega
    simp only [neg_neg, Int.toNat_natCast, Nat.pow_eq, Nat.cast_mul, Nat.cast_pow, Nat.cast_ofNat, zpow_neg,
      zpow_natCast]
    rw [div_mul_eq_div_div, div_eq_mul_inv _ ((2 : ℚ) ^ size)]

theorem scaleRatio_den_pos (num : Nat) (hden : 0 < den) (shift : Int) : 0 < (scaleRatio num den shift).2 := by
  unfold scaleRatio
  split
  · exact hden
  · exact Nat.mul_pos hden (Nat.two_pow_pos _)

theorem scaleRatio_mul (num den k : Nat) (shift : Int) :
    scaleRatio (num * k) (den * k) shift = ((scaleRatio num den shift).1 * k, (scaleRatio num den shift).2 * k) := by
  unfold scaleRatio
  split <;> simp [Nat.mul_right_comm]

/-- The estimate by lengths is right or one too large. -/
theorem ratioLog2_eq_log (hnum : 0 < num) (hden : 0 < den) : ratioLog2 num den = Int.log 2 ((num : ℚ) / den) := by
  have hdenQ : (0 : ℚ) < den := Nat.cast_pos.2 hden
  have hratio : (0 : ℚ) < num / den := div_pos (Nat.cast_pos.2 hnum) hdenQ
  have hle (k : Int) : k ≤ Int.log 2 ((num : ℚ) / den) ↔ (2 : ℚ) ^ k ≤ num / den :=
    (Int.zpow_le_iff_le_log (b := 2) one_lt_two hratio).symm
  have hnumLow : (2 : ℚ) ^ num.log2 ≤ num := by exact_mod_cast Nat.log2_self_le hnum.ne'
  have hnumHigh : (num : ℚ) < 2 ^ (num.log2 + 1) := by exact_mod_cast Nat.lt_log2_self
  have hdenLow : (2 : ℚ) ^ den.log2 ≤ den := by exact_mod_cast Nat.log2_self_le hden.ne'
  have hdenHigh : (den : ℚ) < 2 ^ (den.log2 + 1) := by exact_mod_cast Nat.lt_log2_self
  have hlow : (num.log2 : Int) - den.log2 - 1 ≤ Int.log 2 ((num : ℚ) / den) := by
    rw [hle, le_div_iff₀ hdenQ]
    calc (2 : ℚ) ^ ((num.log2 : Int) - den.log2 - 1) * den
        ≤ 2 ^ ((num.log2 : Int) - den.log2 - 1) * 2 ^ (den.log2 + 1) :=
          mul_le_mul_of_nonneg_left hdenHigh.le (zpow_nonneg two_pos.le _)
      _ = 2 ^ num.log2 := by
          rw [← zpow_natCast, ← zpow_natCast, ← zpow_add₀ two_ne_zero]
          congr 1
          push_cast
          ring
      _ ≤ num := hnumLow
  have hhigh : Int.log 2 ((num : ℚ) / den) < (num.log2 : Int) - den.log2 + 1 := by
    rw [← not_le, hle, not_le, div_lt_iff₀ hdenQ]
    calc (num : ℚ) < 2 ^ (num.log2 + 1) := hnumHigh
      _ = 2 ^ ((num.log2 : Int) - den.log2 + 1) * 2 ^ den.log2 := by
          rw [← zpow_natCast, ← zpow_natCast, ← zpow_add₀ two_ne_zero]
          congr 1
          push_cast
          ring
      _ ≤ 2 ^ ((num.log2 : Int) - den.log2 + 1) * den :=
          mul_le_mul_of_nonneg_left hdenLow (zpow_nonneg two_pos.le _)
  have htest : (scaleRatio num den (-((num.log2 : Int) - den.log2))).2
      ≤ (scaleRatio num den (-((num.log2 : Int) - den.log2))).1 ↔
        (num.log2 : Int) - den.log2 ≤ Int.log 2 ((num : ℚ) / den) := by
    have hpos : (0 : ℚ) < (scaleRatio num den (-((num.log2 : Int) - den.log2))).2 :=
      Nat.cast_pos.2 (scaleRatio_den_pos num hden _)
    rw [hle, ← Nat.cast_le (α := ℚ), ← one_le_div hpos, scaleRatio_div, zpow_neg, ← div_eq_mul_inv,
      one_le_div (zpow_pos two_pos _)]
  unfold ratioLog2
  dsimp only
  split
  · next h => exact le_antisymm (htest.1 h) (Int.lt_add_one_iff.1 hhigh)
  · next h =>
    have := mt htest.2 h
    omega

theorem roundHalfEven_mul {k : Nat} (hk : 0 < k) : roundHalfEven (num * k) (den * k) = roundHalfEven num den := by
  unfold roundHalfEven
  simp only [Nat.mul_div_mul_right _ _ hk, Nat.mul_mod_mul_right, ← Nat.mul_assoc, Nat.mul_lt_mul_right hk]

theorem ofRatio_mul (negative : Bool) {k : Nat} (hden : 0 < den) (hk : 0 < k) :
    ofRatio negative (num * k) (den * k) = ofRatio negative num den := by
  unfold ofRatio
  rcases Nat.eq_zero_or_pos num with rfl | hnum
  · simp
  · have hlog : ratioLog2 (num * k) (den * k) = ratioLog2 num den := by
      rw [ratioLog2_eq_log (Nat.mul_pos hnum hk) (Nat.mul_pos hden hk), ratioLog2_eq_log hnum hden]
      push_cast
      rw [mul_div_mul_right _ _ (Nat.cast_ne_zero.2 hk.ne')]
    rw [if_neg (Nat.mul_pos hnum hk).ne', if_neg hnum.ne', hlog]
    simp only [scaleRatio_mul, roundHalfEven_mul hk]

theorem negate_ofRatio (num den : Nat) : (ofRatio false num den).negate = ofRatio true num den := by
  unfold ofRatio
  split_ifs
  · rfl
  · dsimp only
    split_ifs <;> rfl

theorem ratioLog2_le (num den : Nat) : ratioLog2 num den ≤ num.log2 := by
  unfold ratioLog2
  dsimp only
  split <;> omega

theorem isFinite_ofRatio (negative : Bool) (h : num < 2 ^ 128) : (ofRatio negative num den).isFinite = true := by
  unfold ofRatio
  rcases Nat.eq_zero_or_pos num with rfl | hnum
  · rfl
  · have hlog : num.log2 < 128 := (Nat.log2_lt hnum.ne').2 h
    have hexponent : max (ratioLog2 num den - 52) minExponent ≤ 969 := by
      have := ratioLog2_le num den
      unfold minExponent
      omega
    generalize max (ratioLog2 num den - 52) minExponent = exponent at hexponent
    rw [if_neg hnum.ne']
    dsimp only
    split
    · rw [if_neg (by unfold maxExponent; dsimp only; omega)]
      rfl
    · rw [if_neg (by unfold maxExponent; dsimp only; omega)]
      rfl

theorem ratio_den_pos (x : Binary64) : 0 < x.ratio.2 := by
  cases x with
  | finite negative significand exponent => exact scaleRatio_den_pos _ one_pos _
  | infinite negative => exact one_pos
  | nan => exact one_pos

/-- The magnitude is that natural number, with nothing lost. -/
def IsNat (x : Binary64) (n : Nat) : Prop := x.isFinite = true ∧ x.ratio.1 = n * x.ratio.2

/-- Of at most 53 binary digits none is lost. -/
theorem isNat_ofRatio (h : n < 2 ^ 53) : (ofRatio false n 1).IsNat n := by
  rcases Nat.eq_zero_or_pos n with rfl | hn
  · exact ⟨rfl, by decide +kernel⟩
  · have hlog : n.log2 < 53 := (Nat.log2_lt hn.ne').2 h
    obtain ⟨size, hsize⟩ : ∃ size, n.log2 + size = 52 := ⟨52 - n.log2, by omega⟩
    have hexponent : max (ratioLog2 n 1 - 52) minExponent = -(size : Int) := by
      rw [ratioLog2_eq_log hn one_pos, Nat.cast_one, div_one, Int.log_natCast, ← Nat.log2_eq_log_two]
      unfold minExponent
      omega
    have hsmall : n * 2 ^ size < 2 ^ 53 := by
      calc n * 2 ^ size < 2 ^ (n.log2 + 1) * 2 ^ size :=
            Nat.mul_lt_mul_of_pos_right Nat.lt_log2_self (Nat.two_pow_pos _)
        _ = 2 ^ 53 := by rw [← Nat.pow_add]; congr 1; omega
    have hscale : scaleRatio n 1 (- -(size : Int)) = (n * 2 ^ size, 1) := by
      simp [scaleRatio, Nat.pow_eq]
    have hwhole : roundHalfEven (n * 2 ^ size) 1 = n * 2 ^ size := by simp [roundHalfEven, Nat.mod_one]
    have hround : ofRatio false n 1 = .finite false (n * 2 ^ size) (-(size : Int)) := by
      unfold ofRatio
      rw [if_neg hn.ne', hexponent]
      simp only [hscale, hwhole, Nat.pow_eq, hsmall.ne, if_false]
      exact if_neg (by unfold maxExponent; omega)
    rw [hround]
    refine ⟨rfl, ?_⟩
    rcases Nat.eq_zero_or_pos size with rfl | hsize
    · simp [ratio, magnitude, scaleRatio]
    · simp [ratio, magnitude, scaleRatio, Nat.pow_eq, hsize.ne']

/-- Nor is any of a power of ten as long as its odd part is that short. -/
theorem isNat_power : ∀ power < 23, (ofRatio false (10 ^ power) 1).IsNat (10 ^ power) := by
  unfold IsNat
  decide +kernel

theorem scaleByPower_eq {value : Nat × Nat} (hvalue : value.1 = n * value.2) (hpos : 0 < value.2) (up : Bool)
    (hpower : power < 23) :
    scaleByPower value up power = if up then ofRatio false (n * 10 ^ power) 1 else ofRatio false n (10 ^ power) := by
  obtain ⟨hfinite, hscale⟩ := isNat_power power hpower
  have hscalePos := ratio_den_pos (ofRatio false (10 ^ power) 1)
  unfold scaleByPower
  rw [Nat.pow_eq]
  generalize ofRatio false (10 ^ power) 1 = scale at hfinite hscale hscalePos
  cases scale with
  | infinite negative => cases hfinite
  | nan => cases hfinite
  | finite negative significand exponent =>
    dsimp only [ratio] at hscale hscalePos ⊢
    generalize magnitude significand exponent = scale at hscale hscalePos
    have hboth := Nat.mul_pos hpos hscalePos
    rw [hvalue, hscale]
    cases up with
    | true =>
      calc ofRatio false (n * value.2 * (10 ^ power * scale.2)) (value.2 * scale.2)
          = ofRatio false (n * 10 ^ power * (value.2 * scale.2)) (1 * (value.2 * scale.2)) := by congr 1 <;> ring
        _ = ofRatio false (n * 10 ^ power) 1 := ofRatio_mul false one_pos hboth
    | false =>
      calc ofRatio false (n * value.2 * scale.2) (value.2 * (10 ^ power * scale.2))
          = ofRatio false (n * (value.2 * scale.2)) (10 ^ power * (value.2 * scale.2)) := by congr 1 <;> ring
        _ = ofRatio false n (10 ^ power) := ofRatio_mul false (Nat.pow_pos (by norm_num)) hboth

end Binary64

/-- A decimal whose digits are a number of at most 53 binary digits, and whose power of ten is exact too. -/
structure Decimal.Short (d : Decimal) : Prop where
  digits : d.digits < 2 ^ 53
  exponent : d.exponent.natAbs < 23

instance (d : Decimal) : Decidable d.Short :=
  decidable_of_iff (d.digits < 2 ^ 53 ∧ d.exponent.natAbs < 23)
    ⟨fun ⟨digits, exponent⟩ => ⟨digits, exponent⟩, fun h => ⟨h.digits, h.exponent⟩⟩

namespace Binary64
variable {d : Decimal}

theorem ofDecimal_short (h : d.Short) : ofDecimal d = ofRatio d.negative d.magnitude.1 d.magnitude.2 := by
  have hexponent := h.exponent
  unfold ofDecimal
  split_ifs with hzero hlarge hsmall
  · unfold Decimal.magnitude
    split <;> simp [hzero, ofRatio]
  · omega
  · omega
  · rfl

theorem isFinite_short (h : d.Short) : (ofDecimal d).isFinite = true := by
  rw [ofDecimal_short h]
  refine isFinite_ofRatio _ ?_
  have hexponent := h.exponent
  have hdigits := h.digits
  unfold Decimal.magnitude
  split
  · calc d.digits * Nat.pow 10 d.exponent.toNat ≤ 2 ^ 53 * 10 ^ 22 :=
          Nat.mul_le_mul hdigits.le (Nat.pow_le_pow_right (by norm_num) (by omega))
      _ < 2 ^ 128 := by norm_num
  · exact hdigits.trans (by norm_num)

/-- A short decimal is rounded to the same number, whether its digits are rounded before they are scaled or not. -/
theorem ofScaledDecimal_short (h : d.Short) : ofScaledDecimal d = some (ofDecimal d) := by
  have hexponent := h.exponent
  have hfinite := isFinite_short h
  have hhead := (isNat_ofRatio h.digits).2
  have hpos := ratio_den_pos (ofRatio false d.digits 1)
  have hsigned (num den : Nat) :
      (if d.negative then (ofRatio false num den).negate else ofRatio false num den) = ofRatio d.negative num den := by
    cases d.negative with
    | true => exact negate_ofRatio num den
    | false => rfl
  rw [ofDecimal_short h] at hfinite ⊢
  unfold Decimal.magnitude at hfinite ⊢
  unfold ofScaledDecimal
  split at hfinite
  · next hup =>
    have hpower : d.exponent.toNat < 23 := by omega
    rw [if_pos hup, if_pos hup]
    by_cases hzero : d.digits = 0
    · rw [if_pos hzero, hzero, Nat.zero_mul]
      exact congrArg some (hsigned 0 1)
    · dsimp only
      rw [if_neg hzero, if_neg (by omega), scaleByPower_eq hhead hpos true hpower, if_pos rfl, ← Nat.pow_eq]
      have hvalue := hsigned (d.digits * Nat.pow 10 d.exponent.toNat) 1
      generalize ofRatio false (d.digits * Nat.pow 10 d.exponent.toNat) 1 = scaled at hvalue
      rw [← hvalue] at hfinite ⊢
      cases scaled with
      | infinite negative => cases hnegative : d.negative <;> rw [hnegative] at hfinite <;> cases hfinite
      | finite | nan => rfl
  · next hdown =>
    rw [if_neg hdown, if_neg hdown]
    have hdrop : (-d.exponent).toNat < 23 := by omega
    dsimp only
    rw [if_pos (by omega), scaleByPower_eq hhead hpos false hdrop, if_neg Bool.false_ne_true, hsigned]
    rfl

/-- Digits that do not fit are rounded twice. -/
example : let long : Decimal := ⟨false, 40428809385235596, -5⟩
    ofScaledDecimal long ≠ some (ofDecimal long) := by
  decide +kernel

end Binary64

/-! ### Digits of a numeral -/

theorem le_foldl_digits (digits : List Char) (start : Nat) :
    start ≤ digits.foldl (fun n c => n * 10 + digitValue c) start := by
  induction digits generalizing start with
  | nil => exact le_refl start
  | cons c digits ih => exact le_trans (by omega) (ih (start * 10 + digitValue c))

theorem ofDigits_append (digits others : List Char) :
    ofDigits (digits ++ others) = others.foldl (fun n c => n * 10 + digitValue c) (ofDigits digits) :=
  List.foldl_append

namespace Json
variable {g : Gathered} {run text : List Char} {negative : Bool} {digits : Nat} {exponent : Int} {n : Number}
  {x : Binary64} {c : Char}

/-- Digits whose number fits are all taken. -/
theorem run_of_fits (hg : g.dropped = 0)
    (hfits : run.foldl (fun n c => n * 10 + digitValue c) g.digits ≤ digitLimit) :
    g.run run = ⟨run.foldl (fun n c => n * 10 + digitValue c) g.digits, 0, g.taken + run.length⟩ := by
  induction run generalizing g with
  | nil => cases g; cases hg; rfl
  | cons c run ih =>
    have hnext : g.digits * 10 + digitValue c ≤ digitLimit := (le_foldl_digits run _).trans hfits
    have hadd : g.add c = ⟨g.digits * 10 + digitValue c, 0, g.taken + 1⟩ := by
      unfold Gathered.add
      dsimp only
      rw [if_pos ⟨hg, hnext⟩, hg]
    show (g.add c).run run = _
    rw [hadd, ih rfl hfits, List.foldl_cons, List.length_cons]
    simp only [Gathered.mk.injEq, true_and]
    omega

/-- The digits are gathered if their number fits. -/
def Gathered.Holds (g : Gathered) (digits : List Char) : Prop :=
  ofDigits digits ≤ digitLimit → g.digits = ofDigits digits ∧ g.dropped = 0

theorem run_holds (digits : List Char) : (Gathered.run ⟨0, 0, 0⟩ digits).Holds digits := by
  intro hfits
  have hexact : Gathered.run ⟨0, 0, 0⟩ digits = ⟨ofDigits digits, 0, _⟩ := run_of_fits rfl hfits
  rw [hexact]
  exact ⟨rfl, rfl⟩

/-- The size of an exponent is not cut where it is in bounds. -/
theorem exponentSize_eq {start : Nat} (h : run.foldl (fun n c => n * 10 + digitValue c) start ≤ exponentLimit) :
    run.foldl (fun n c => if n ≤ exponentLimit then n * 10 + digitValue c else n) start
      = run.foldl (fun n c => n * 10 + digitValue c) start := by
  induction run generalizing start with
  | nil => rfl
  | cons c run ih =>
    rw [List.foldl_cons] at h
    have hstart : start ≤ exponentLimit := by
      have := le_foldl_digits run (start * 10 + digitValue c)
      omega
    rw [List.foldl_cons, List.foldl_cons, if_pos hstart, ih h]

theorem splitPower_eq (text : List Char) : splitPower text = splitSign text := by
  unfold splitPower splitSign
  split
  · rfl
  · rfl
  · next hplus hminus =>
    split
    · next rest => exact (hminus rest rfl).elim
    · next rest => exact (hplus rest rfl).elim
    · rfl

/-- An exponent scales the digits by the power of ten that it writes. -/
theorem readExponent_whole (hc : c = 'e' ∨ c = 'E') (h : readExponent negative digits exponent text = .ok (n, [])) :
    ∃ power, exponentOf? (c :: text) = some power ∧
      (power.natAbs ≤ exponentLimit → floatOf negative digits (exponent + power) = .ok n) := by
  obtain ⟨hrun, hrest, hpower⟩ := readExponent_eq_ok.1 h
  rw [splitPower_eq] at hrun hrest hpower
  rw [exponentOf?, if_pos hc]
  generalize splitSign text = split at hrun hrest hpower
  obtain ⟨down, run⟩ := split
  have hall : run.takeWhile Char.isDigit = run := by
    have := List.takeWhile_append_dropWhile (p := Char.isDigit) (l := run)
    rwa [hrest, List.append_nil] at this
  have hdigits : ∀ c ∈ run, c.isDigit = true := fun c hc => digits_takeWhile run c (hall.symm ▸ hc)
  dsimp only at hrun hpower ⊢
  rw [hall] at hrun hpower
  rw [Yaml.naturalOf?_ten hrun hdigits]
  refine ⟨_, rfl, fun hbound => ?_⟩
  have hsize : ofDigits run ≤ exponentLimit := by
    cases down <;> simpa using hbound
  unfold powerOf at hpower
  rw [exponentSize_eq hsize] at hpower
  dsimp only at hpower
  rw [if_neg (by show ¬exponentLimit < ofDigits run; omega)] at hpower
  rw [← hpower]
  cases down with
  | true => rfl
  | false => rfl

theorem readScale_whole (h : readScale negative digits exponent text = .ok (n, [])) :
    ∃ power, exponentOf? text = some power ∧
      (power.natAbs ≤ exponentLimit → floatOf negative digits (exponent + power) = .ok n) := by
  unfold readScale at h
  split at h
  · exact readExponent_whole (.inl rfl) h
  · exact readExponent_whole (.inr rfl) h
  · obtain ⟨x, hx, hread⟩ := bind_ok_inv h
    cases hread
    exact ⟨0, rfl, fun _ => by rw [Int.add_zero, hx]⟩

theorem marked_of_readFraction {tail : List Char} (h : readFraction negative g tail = .ok (n, [])) :
    ∀ c rest, tail = c :: rest → c = '.' ∨ c = 'e' ∨ c = 'E' := by
  rintro c rest rfl
  unfold readFraction at h
  split at h
  · next heq => exact .inl (List.cons.inj heq).1
  · next heq => exact .inr (.inl (List.cons.inj heq).1)
  · next heq => exact .inr (.inr (List.cons.inj heq).1)
  · split at h
    · cases h
    · obtain ⟨x, -, hread⟩ := bind_ok_inv h
      cases hread

/-- The integer digits of a numeral are gathered before what follows them. -/
theorem readDigits_whole (h : readDigits negative text = .ok (n, [])) :
    ∃ whole tail g, text = whole ++ tail ∧ IsNumeral whole tail ∧ readFraction negative g tail = .ok (n, []) ∧
      g.Holds whole := by
  cases text with
  | nil => cases h
  | cons c text =>
    by_cases hzero : c = '0'
    · subst hzero
      obtain ⟨-, hfraction⟩ := readDigits_zero.1 h
      have hnumeral : IsNumeral ['0'] text :=
        ⟨by simp, by simp, by rintro rest ⟨⟩; rfl, marked_of_readFraction hfraction⟩
      exact ⟨['0'], text, _, rfl, hnumeral, hfraction, fun _ => ⟨rfl, rfl⟩⟩
    · cases hc : c.isDigit with
      | false => simp [readDigits, hc] at h
      | true =>
        rw [readDigits_run hzero hc] at h
        have hwhole : (c :: text).takeWhile Char.isDigit = c :: text.takeWhile Char.isDigit := by simp [hc]
        have hleading : ∀ rest, (c :: text).takeWhile Char.isDigit = '0' :: rest → rest = [] := by
          intro rest heq
          rw [hwhole] at heq
          exact (hzero (List.cons.inj heq).1).elim
        have hnumeral : IsNumeral ((c :: text).takeWhile Char.isDigit) ((c :: text).dropWhile Char.isDigit) :=
          ⟨by simp [hwhole], digits_takeWhile _, hleading, marked_of_readFraction h⟩
        exact ⟨_, _, _, List.takeWhile_append_dropWhile.symm, hnumeral, h, run_holds _⟩

/-- The digits after a point, if there is one, and the text after them. -/
def splitFraction : List Char → List Char × List Char
  | '.' :: rest => (rest.takeWhile Char.isDigit, rest.dropWhile Char.isDigit)
  | rest => ([], rest)

/-- What follows the integer digits of a numeral scales all its digits. -/
theorem readFraction_whole {whole tail : List Char}
    (hg : g.Holds whole) (hne : tail ≠ [])
    (h : readFraction negative g tail = .ok (n, [])) :
    ∃ fraction rest power, splitFraction tail = (fraction, rest) ∧ exponentOf? rest = some power ∧
      (ofDigits (whole ++ fraction) ≤ digitLimit → power.natAbs ≤ exponentLimit →
        floatOf negative (ofDigits (whole ++ fraction)) (power - fraction.length) = .ok n) := by
  have hexponent : ∀ {c : Char} {after : List Char}, c = 'e' ∨ c = 'E' →
      readExponent negative g.digits g.dropped after = .ok (n, []) →
      ∃ power, exponentOf? (c :: after) = some power ∧ (ofDigits (whole ++ []) ≤ digitLimit →
        power.natAbs ≤ exponentLimit → floatOf negative (ofDigits (whole ++ [])) (power - 0) = .ok n) := by
    intro c after hc h
    obtain ⟨power, hpower, hfloat⟩ := readExponent_whole hc h
    refine ⟨power, hpower, fun hfits hbound => ?_⟩
    rw [List.append_nil] at hfits ⊢
    obtain ⟨hdigits, hdropped⟩ := hg hfits
    rw [← hfloat hbound, hdigits, hdropped, Int.sub_zero, Int.natCast_zero, Int.zero_add]
  unfold readFraction at h
  split at h
  case h_1 after =>
    dsimp only at h
    split at h
    · cases h
    · obtain ⟨power, hpower, hfloat⟩ := readScale_whole h
      refine ⟨after.takeWhile Char.isDigit, _, power, rfl, hpower, fun hfits hbound => ?_⟩
      rw [ofDigits_append] at hfits ⊢
      obtain ⟨hdigits, hdropped⟩ := hg ((le_foldl_digits _ _).trans hfits)
      rw [← hdigits] at hfits ⊢
      have hexact : Gathered.run ⟨g.digits, 0, 0⟩ (after.takeWhile Char.isDigit)
          = ⟨_, 0, 0 + (after.takeWhile Char.isDigit).length⟩ := run_of_fits rfl hfits
      rw [← hfloat hbound, hexact, hdropped]
      congr 1
      push_cast
      ring
  case h_2 after =>
    obtain ⟨power, hpower, hfloat⟩ := hexponent (.inl rfl) h
    exact ⟨[], _, power, rfl, hpower, hfloat⟩
  case h_3 after =>
    obtain ⟨power, hpower, hfloat⟩ := hexponent (.inr rfl) h
    exact ⟨[], _, power, rfl, hpower, hfloat⟩
  case h_4 =>
    split at h
    · cases h
      exact (hne rfl).elim
    · obtain ⟨x, -, hread⟩ := bind_ok_inv h
      cases hread
      exact (hne rfl).elim

/-- Without a fraction and an exponent only a negative zero and an integer too long to fit are no integers. -/
theorem readFraction_end {whole : List Char}
    (hg : g.Holds whole)
    (h : readFraction negative g [] = .ok (.float x, [])) (hshort : ofDigits whole < 2 ^ 53) :
    negative = true ∧ ofDigits whole = 0 := by
  obtain ⟨hdigits, hdropped⟩ := hg (hshort.le.trans (by decide))
  simp only [readFraction, if_pos hdropped, hdigits] at h
  have hnumber : wholeNumber negative (ofDigits whole) = .float x := (Prod.mk.inj (Except.ok.inj h)).1
  unfold wholeNumber at hnumber
  split at hnumber
  · next hnegative =>
    split at hnumber
    · next hout =>
      refine ⟨hnegative, hout.resolve_right fun hlarge => ?_⟩
      rw [Nat.pow_eq] at hlarge
      omega
    · cases hnumber
  · cases hnumber

theorem IsNumeral.eq_zero {whole tail : List Char} (h : IsNumeral whole tail) (hzero : ofDigits whole = 0) :
    whole = ['0'] := by
  obtain ⟨c, rest, rfl, hc⟩ := h.exists_cons
  have hvalue : digitValue c = 0 := by
    have := le_foldl_digits rest (0 * 10 + digitValue c)
    rw [ofDigits, List.foldl_cons] at hzero
    omega
  obtain rfl : c = '0' := by
    have hrange : 48 ≤ c.toNat := by
      have htoNat : c.toNat = c.val.toNat := rfl
      simp [Char.isDigit, UInt32.le_iff_toNat_le] at hc
      omega
    have hcode : c.toNat - 48 = 0 := hvalue
    exact Char.toNat_inj.1 (by show c.toNat = 48; omega)
  rw [h.leading rest rfl]

theorem readNumber_whole {word : List Char} (h : readNumber word = .ok (n, [])) :
    ∃ negative whole tail g, word = (if negative then '-' :: (whole ++ tail) else whole ++ tail) ∧
      IsNumeral whole tail ∧ readFraction negative g tail = .ok (n, []) ∧
      g.Holds whole := by
  unfold readNumber at h
  split at h
  case h_1 after =>
    obtain ⟨whole, tail, g, rfl, hrest⟩ := readDigits_whole h
    exact ⟨true, whole, tail, g, rfl, hrest⟩
  case h_2 =>
    obtain ⟨whole, tail, g, rfl, hrest⟩ := readDigits_whole h
    exact ⟨false, whole, tail, g, rfl, hrest⟩

end Json

/-! ### Numerals in YAML -/

namespace Yaml
open Json (IsNumeral splitFraction)
variable {whole tail fraction rest : List Char} {negative : Bool} {power : Int} {c : Char}

/-- The integer digits end where the tail begins. -/
theorem span_numeral (h : IsNumeral whole tail) :
    (whole ++ tail).takeWhile Char.isDigit = whole ∧ (whole ++ tail).dropWhile Char.isDigit = tail := by
  rw [List.takeWhile_append_of_pos h.isDigit, List.dropWhile_append_of_pos h.isDigit]
  cases tail with
  | nil => simp
  | cons c tail =>
    have hc : c.isDigit = false := by rcases h.marked c tail rfl with rfl | rfl | rfl <;> rfl
    simp [hc]

/-- The decimal that a numeral writes. -/
theorem ofChars?_numeral (h : IsNumeral whole tail) (hfraction : splitFraction tail = (fraction, rest))
    (hpower : exponentOf? rest = some power) :
    Decimal.ofChars? (if negative then '-' :: (whole ++ tail) else whole ++ tail)
      = some ⟨negative, ofDigits (whole ++ fraction), power - fraction.length⟩ := by
  obtain ⟨htake, hdrop⟩ := span_numeral h
  have hdigits : ∀ c ∈ whole ++ fraction, c.isDigit = true := by
    obtain rfl : (splitFraction tail).1 = fraction := by rw [hfraction]
    intro c hc
    rcases List.mem_append.1 hc with hc | hc
    · exact h.isDigit c hc
    · unfold splitFraction at hc
      split at hc
      · exact Json.digits_takeWhile _ c hc
      · cases hc
  have heq (text : List Char) : Decimal.ofChars? text =
      let after := (splitSign text).2
      let tail := splitFraction (after.dropWhile Char.isDigit)
      (naturalOf? 10 (after.takeWhile Char.isDigit ++ tail.1)).bind fun digits =>
        (exponentOf? tail.2).bind fun power => some ⟨(splitSign text).1, digits, power - tail.1.length⟩ := rfl
  rw [heq, splitSign_numeral h]
  have hnatural := naturalOf?_ten (List.append_ne_nil_of_left_ne_nil h.nonempty fraction) hdigits
  simp only [htake, hdrop, hfraction, hnatural, hpower]
  rfl

/-- A character that is no digit is none of a number. -/
theorem naturalOf?_eq_none {base : Nat} {digits : List Char} (hmem : c ∈ digits) (hc : digitIn? base c = none) :
    naturalOf? base digits = none := by
  have hfold : ∀ (digits : List Char) (start : Nat), c ∈ digits →
      digits.foldlM (fun n c => (digitIn? base c).map (n * base + ·)) start = none := by
    intro digits
    induction digits with
    | nil => nofun
    | cons d digits ih =>
      intro start hmem
      rw [List.foldlM_cons]
      rcases List.mem_cons.1 hmem with rfl | hmem
      · rw [hc]
        rfl
      · cases digitIn? base d with
        | none => rfl
        | some value => exact ih _ hmem
  rw [naturalOf?, if_neg (by simpa using List.ne_nil_of_mem hmem)]
  exact hfold digits 0 hmem

/-- A numeral with a fraction or an exponent is no integer. -/
theorem integerOf?_numeral (h : IsNumeral whole tail) (hne : tail ≠ []) :
    integerOf? 64 (if negative then '-' :: (whole ++ tail) else whole ++ tail) = none := by
  obtain ⟨c, rest, rfl⟩ := List.exists_cons_of_ne_nil hne
  have hc : digitIn? 10 c = none := by rcases h.marked c rest rfl with rfl | rfl | rfl <;> rfl
  have hnone : naturalOf? 10 (whole ++ c :: rest) = none := naturalOf?_eq_none (by simp) hc
  rw [integerOf?, hasLeadingZero_numeral h]
  simp only [splitSign_numeral h, splitBase_numeral h, hnone]
  rfl

/-- A numeral with a fraction or an exponent means its decimal, rounded once. -/
theorem ofPlain_numeral (h : IsNumeral whole tail) (hne : tail ≠ []) {d : Decimal}
    (hdecimal : Decimal.ofChars? (if negative then '-' :: (whole ++ tail) else whole ++ tail) = some d)
    (hfinite : (Binary64.ofDecimal d).isFinite = true) :
    Datum.ofPlain (String.ofList (if negative then '-' :: (whole ++ tail) else whole ++ tail))
      = .float (Binary64.ofDecimal d) := by
  have hinteger : integerOf? 64 (if negative then '-' :: (whole ++ tail) else whole ++ tail) = none :=
    integerOf?_numeral h hne
  have hzero : hasLeadingZero (if negative then '-' :: (whole ++ tail) else whole ++ tail) = false :=
    hasLeadingZero_numeral h
  have hbegins : beginsNumeral (if negative then '-' :: (whole ++ tail) else whole ++ tail) = true :=
    beginsNumeral_numeral h
  generalize (if negative then '-' :: (whole ++ tail) else whole ++ tail) = word at *
  have hwords : ∀ text ∈ ["", "null", "Null", "NULL", "~", "true", "True", "TRUE", "false", "False", "FALSE",
      ".inf", ".Inf", ".INF", "+.inf", "+.Inf", "+.INF", "-.inf", "-.Inf", "-.INF", ".nan", ".NaN", ".NAN"],
      String.ofList word ≠ text :=
    fun text htext => ne_of_beginsNumeral hbegins (by revert text; decide)
  have hfloat : floatOf? word = some (Binary64.ofDecimal d) := by
    simp [floatOf?, hwords, hdecimal, hfinite]
  simp [Datum.ofPlain, isNullWord, boolOf?, hwords, hinteger, hzero, hfloat]

end Yaml

/-! ### Short numerals -/

/-- A numeral that loses nothing before it is rounded. To YAML `-0` is an integer. -/
structure ShortNumeral (word : List Char) : Prop where
  signed : word ≠ ['-', '0']
  length : word.length < 2 ^ 30
  decimal : ∀ d, Decimal.ofChars? word = some d → d.Short

instance (word : List Char) : Decidable (ShortNumeral word) :=
  decidable_of_iff (word ≠ ['-', '0'] ∧ word.length < 2 ^ 30 ∧ ∀ d ∈ Decimal.ofChars? word, d.Short)
    ⟨fun ⟨signed, length, decimal⟩ => ⟨signed, length, decimal⟩, fun h => ⟨h.signed, h.length, h.decimal⟩⟩

theorem splitFraction_length (tail : List Char) : (Json.splitFraction tail).1.length ≤ tail.length := by
  unfold Json.splitFraction
  split
  · next rest => exact (List.takeWhile_prefix _).length_le.trans (Nat.le_succ _)
  · exact Nat.zero_le _

/-- What JSON reads as a floating point number YAML does too if it is short. -/
theorem ShortNumeral.float_agrees {word : List Char} {x : Binary64} (h : ShortNumeral word)
    (hread : Json.readNumber word = .ok (.float x, [])) :
    Yaml.Datum.ofPlain (String.ofList word) = .float x ∧ x.isFinite = true := by
  obtain ⟨negative, whole, tail, g, rfl, hnumeral, hfraction, hg⟩ := Json.readNumber_whole hread
  by_cases hne : tail = []
  · subst hne
    have hshort := h.decimal _ (Yaml.ofChars?_numeral hnumeral rfl rfl)
    obtain ⟨rfl, hzero⟩ := Json.readFraction_end hg hfraction (by simpa using hshort.digits)
    exact (h.signed (by simp [hnumeral.eq_zero hzero])).elim
  · obtain ⟨fraction, rest, power, hsplit, hpower, hfloat⟩ := Json.readFraction_whole hg hne hfraction
    have hdecimal : Decimal.ofChars? (if negative then '-' :: (whole ++ tail) else whole ++ tail)
        = some ⟨negative, ofDigits (whole ++ fraction), power - fraction.length⟩ :=
      Yaml.ofChars?_numeral hnumeral hsplit hpower
    have hshort := h.decimal _ hdecimal
    have hfits : ofDigits (whole ++ fraction) ≤ Json.digitLimit := hshort.digits.le.trans (by decide)
    have hbound : power.natAbs ≤ Json.exponentLimit := by
      have hlength := h.length
      have hexponent := hshort.exponent
      have htail := splitFraction_length tail
      rw [hsplit] at htail
      have hword : tail.length ≤ (if negative then '-' :: (whole ++ tail) else whole ++ tail).length := by
        cases negative with
        | true => simp; omega
        | false => simp
      simp only [Json.exponentLimit, Nat.pow_eq]
      dsimp only at hexponent htail
      omega
    have hfloat' := hfloat hfits hbound
    simp only [Json.floatOf, Binary64.ofScaledDecimal_short hshort] at hfloat'
    cases hfloat'
    have hfinite := Binary64.isFinite_short hshort
    exact ⟨Yaml.ofPlain_numeral hnumeral hne hdecimal hfinite, hfinite⟩

end AddonConfig
