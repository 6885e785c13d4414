import AddonConfig.Proofs.JsonGrammar
import AddonConfig.Yaml.Datum

/-!
# Numerals in JSON and in YAML

A numeral is integer digits after an optional sign, with a fraction or an exponent behind them (`IsNumeral`). YAML
finds no base, no leading zero and none of its words in one, so what JSON reads as an integer YAML does too
(`integer_agrees`).
-/

namespace AddonConfig

namespace Json

/-! ### Integers -/

section Integers
variable {negative : Bool} {digits : Nat} {exponent : Int} {text rest : List Char} {n : Int} {g : Gathered}

theorem floatOf_ne_int : floatOf negative digits exponent ≠ .ok (.int n) := by
  unfold floatOf
  split <;> nofun

theorem readExponent_ne_int : readExponent negative digits exponent text ≠ .ok (.int n, rest) := by
  intro h
  obtain ⟨-, -, hpower⟩ := readExponent_eq_ok.1 h
  unfold powerOf at hpower
  dsimp only at hpower
  split at hpower
  · split at hpower <;> cases hpower
  · exact floatOf_ne_int hpower

theorem readScale_ne_int : readScale negative digits exponent text ≠ .ok (.int n, rest) := by
  intro h
  unfold readScale at h
  split at h
  · exact readExponent_ne_int h
  · exact readExponent_ne_int h
  · obtain ⟨x, hx, hread⟩ := bind_ok_inv h
    cases hread
    exact floatOf_ne_int hx

/-- Only digits without fraction and exponent make an integer. -/
theorem readFraction_int (h : readFraction negative g text = .ok (.int n, rest)) :
    text = rest ∧ g.dropped = 0 ∧ wholeNumber negative g.digits = .int n := by
  unfold readFraction at h
  split at h
  · dsimp only at h
    split at h
    · cases h
    · exact (readScale_ne_int h).elim
  · exact (readExponent_ne_int h).elim
  · exact (readExponent_ne_int h).elim
  · split at h
    · obtain ⟨hnumber, hrest⟩ := Prod.mk.inj (Except.ok.inj h)
      exact ⟨hrest, by assumption, hnumber⟩
    · obtain ⟨x, hx, hread⟩ := bind_ok_inv h
      cases hread
      exact (floatOf_ne_int hx).elim

theorem dropped_le_run (g : Gathered) (text : List Char) : g.dropped ≤ (g.run text).dropped := by
  induction text generalizing g with
  | nil => exact Nat.le_refl _
  | cons c text ih =>
    refine Nat.le_trans ?_ (ih (g.add c))
    unfold Gathered.add
    dsimp only
    split <;> simp

/-- Digits that all fit are gathered into their number. -/
theorem run_exact (hg : g.digits ≤ digitLimit) (h : (g.run text).dropped = 0) :
    (g.run text).digits = text.foldl (fun n c => n * 10 + digitValue c) g.digits ∧
      (g.run text).digits ≤ digitLimit := by
  induction text generalizing g with
  | nil => exact ⟨rfl, hg⟩
  | cons c text ih =>
    have hnone := Nat.le_zero.1 (h ▸ dropped_le_run (g.add c) text)
    have hadd : (g.add c).digits = g.digits * 10 + digitValue c ∧ (g.add c).digits ≤ digitLimit := by
      unfold Gathered.add at hnone ⊢
      dsimp only at hnone ⊢
      split at hnone
      · next hfits => exact ⟨by rw [if_pos hfits], by rw [if_pos hfits]; exact hfits.2⟩
      · cases hnone
    obtain ⟨hdigits, hlimit⟩ := ih hadd.2 h
    refine ⟨?_, hlimit⟩
    rw [List.foldl_cons, ← hadd.1]
    exact hdigits

/-- The digits of an integer: no zero leads others, and their number fits. -/
structure IsWhole (digits : List Char) : Prop where
  nonempty : digits ≠ []
  isDigit : ∀ c ∈ digits, c.isDigit = true
  leading : ∀ rest, digits = '0' :: rest → rest = []
  bound : ofDigits digits ≤ digitLimit

theorem readDigits_int (h : readDigits negative text = .ok (.int n, [])) :
    IsWhole text ∧ wholeNumber negative (ofDigits text) = .int n := by
  unfold readDigits at h
  split at h
  case h_1 => cases h
  case h_2 after =>
    have hafter : after = [] ∧ wholeNumber negative 0 = .int n := by
      split at h
      · split at h
        · cases h
        · exact ⟨(readFraction_int h).1, (readFraction_int h).2.2⟩
      · exact ⟨rfl, (readFraction_int h).2.2⟩
    obtain ⟨rfl, hnumber⟩ := hafter
    refine ⟨⟨by simp, by simp, ?_, Nat.zero_le _⟩, hnumber⟩
    rintro rest ⟨⟩
    rfl
  case h_3 c after hzero =>
    split at h
    · obtain ⟨hrest, hdropped, hnumber⟩ := readFraction_int h
      have hall : (c :: after).takeWhile Char.isDigit = c :: after := by
        have := List.takeWhile_append_dropWhile (p := Char.isDigit) (l := c :: after)
        rwa [hrest, List.append_nil] at this
      rw [hall] at hdropped hnumber
      obtain ⟨hdigits, hlimit⟩ := run_exact (Nat.zero_le _) hdropped
      rw [hdigits] at hnumber hlimit
      refine ⟨⟨by simp, ?_, ?_, hlimit⟩, hnumber⟩
      · exact fun x hx => digits_takeWhile (c :: after) x (hall.symm ▸ hx)
      · rintro rest heq
        exact (hzero (List.cons.inj heq).1).elim
    · cases h

/-- A numeral that is read as an integer is its digits, after a sign if it has one. -/
theorem readNumber_int (h : readNumber text = .ok (.int n, [])) :
    ∃ negative digits, text = (if negative then '-' :: digits else digits) ∧ IsWhole digits ∧
      wholeNumber negative (ofDigits digits) = .int n := by
  unfold readNumber at h
  split at h
  case h_1 after => exact ⟨true, after, rfl, readDigits_int h⟩
  case h_2 => exact ⟨false, text, rfl, readDigits_int h⟩

end Integers

/-- A numeral after its sign: the integer digits, and a fraction or an exponent if it has one. -/
structure IsNumeral (whole tail : List Char) : Prop where
  nonempty : whole ≠ []
  isDigit : ∀ c ∈ whole, c.isDigit = true
  leading : ∀ rest, whole = '0' :: rest → rest = []
  marked : ∀ c rest, tail = c :: rest → c = '.' ∨ c = 'e' ∨ c = 'E'

theorem IsWhole.isNumeral {digits : List Char} (h : IsWhole digits) : IsNumeral digits [] :=
  ⟨h.nonempty, h.isDigit, h.leading, nofun⟩

namespace IsNumeral
variable {whole tail rest : List Char}

theorem exists_cons (h : IsNumeral whole tail) : ∃ c rest, whole = c :: rest ∧ c.isDigit = true := by
  obtain ⟨c, rest, rfl⟩ := List.exists_cons_of_ne_nil h.nonempty
  exact ⟨c, rest, rfl, h.isDigit c List.mem_cons_self⟩

theorem of_zero (h : IsNumeral whole tail) (hzero : whole ++ tail = '0' :: rest) : whole = ['0'] ∧ rest = tail := by
  obtain ⟨c, digits, rfl, -⟩ := h.exists_cons
  obtain ⟨rfl, rfl⟩ := List.cons.inj hzero
  obtain rfl := h.leading digits rfl
  exact ⟨rfl, rfl⟩

end IsNumeral

end Json

namespace Yaml
open Json (IsWhole IsNumeral wholeNumber readNumber digitLimit)

section Integers
variable {negative : Bool} {digits whole tail : List Char} {n : Int} {c : Char}

theorem digitIn?_ten (h : c.isDigit = true) : digitIn? 10 c = some (digitValue c) := by
  have hrange : 48 ≤ c.toNat ∧ c.toNat ≤ 57 := by
    have htoNat : c.toNat = c.val.toNat := rfl
    simp [Char.isDigit, UInt32.le_iff_toNat_le] at h
    omega
  have hsmall : digitValue c < 10 := by
    show c.toNat - 48 < 10
    omega
  simp [digitIn?, hexValue?, h, hsmall]

theorem naturalOf?_ten (hne : digits ≠ []) (h : ∀ c ∈ digits, c.isDigit = true) :
    naturalOf? 10 digits = some (ofDigits digits) := by
  have hfold : ∀ (rest : List Char) (start : Nat), (∀ c ∈ rest, c.isDigit = true) →
      rest.foldlM (fun n c => (digitIn? 10 c).map (n * 10 + ·)) start
        = some (rest.foldl (fun n c => n * 10 + digitValue c) start) := by
    intro rest
    induction rest with
    | nil => exact fun _ _ => rfl
    | cons c rest ih =>
      intro start hrest
      rw [List.foldlM_cons, digitIn?_ten (hrest c List.mem_cons_self)]
      exact ih _ fun x hx => hrest x (List.mem_cons_of_mem c hx)
  rw [naturalOf?, if_neg (by simpa using hne)]
  exact hfold digits 0 h

theorem splitSign_numeral (h : IsNumeral whole tail) :
    splitSign (if negative then '-' :: (whole ++ tail) else whole ++ tail) = (negative, whole ++ tail) := by
  cases negative with
  | true => rfl
  | false =>
    obtain ⟨c, rest, rfl, hc⟩ := h.exists_cons
    unfold splitSign
    split
    case h_1 heq => obtain ⟨rfl, -⟩ := List.cons.inj heq; cases hc
    case h_2 heq => obtain ⟨rfl, -⟩ := List.cons.inj heq; cases hc
    case h_3 => rfl

/-- No base is told by what may follow a zero. -/
theorem splitBase_numeral (h : IsNumeral whole tail) : splitBase (whole ++ tail) = (10, whole ++ tail) := by
  have hmark : ∀ {c rest}, whole ++ tail = '0' :: c :: rest → c = '.' ∨ c = 'e' ∨ c = 'E' :=
    fun heq => h.marked _ _ (h.of_zero heq).2.symm
  unfold splitBase
  split
  case h_1 heq => simpa using hmark heq
  case h_2 heq => simpa using hmark heq
  case h_3 heq => simpa using hmark heq
  case h_4 => rfl

theorem hasLeadingZero_numeral (h : IsNumeral whole tail) :
    hasLeadingZero (if negative then '-' :: (whole ++ tail) else whole ++ tail) = false := by
  rw [hasLeadingZero, splitSign_numeral h]
  split
  case h_1 rest heq =>
    obtain ⟨-, rfl⟩ := h.of_zero heq
    cases rest with
    | nil => rfl
    | cons c rest => rcases h.marked c rest rfl with rfl | rfl | rfl <;> rfl
  case h_2 => rfl

theorem integerOf?_whole (h : IsWhole digits) (hnumber : wholeNumber negative (ofDigits digits) = .int n) :
    integerOf? 64 (if negative then '-' :: digits else digits) = some n := by
  have hbound := h.bound
  have hzero : hasLeadingZero (if negative then '-' :: digits else digits) = false := by
    simpa using hasLeadingZero_numeral h.isNumeral
  have hsign : splitSign (if negative then '-' :: digits else digits) = (negative, digits) := by
    simpa using splitSign_numeral h.isNumeral
  have hbase : splitBase digits = (10, digits) := by simpa using splitBase_numeral h.isNumeral
  rw [integerOf?, hzero]
  simp only [hsign, hbase, naturalOf?_ten h.nonempty h.isDigit]
  unfold wholeNumber at hnumber
  cases negative with
  | true =>
    rw [if_pos rfl] at hnumber
    split at hnumber
    · cases hnumber
    · next hlarge =>
      cases hnumber
      have hsmall : ofDigits digits ≤ Nat.pow 2 (64 - 1) := Nat.le_of_not_lt fun hlt => hlarge (.inr hlt)
      exact if_pos hsmall
  | false =>
    cases hnumber
    have hsmall : ofDigits digits < Nat.pow 2 64 := Nat.lt_of_le_of_lt hbound (by simp [digitLimit])
    exact if_pos hsmall

/-- A digit comes first, or a hyphen before one. -/
def beginsNumeral : List Char → Bool
  | '-' :: d :: _ => d.isDigit
  | c :: _ => c.isDigit
  | [] => false

/-- A numeral is none of the words that mean something else. -/
theorem ne_of_beginsNumeral {chars : List Char} (h : beginsNumeral chars = true) {word : String}
    (hword : beginsNumeral word.toList = false) : String.ofList chars ≠ word := by
  rintro rfl
  rw [String.toList_ofList, h] at hword
  cases hword

theorem beginsNumeral_numeral (h : IsNumeral whole tail) :
    beginsNumeral (if negative then '-' :: (whole ++ tail) else whole ++ tail) = true := by
  obtain ⟨c, rest, rfl, hc⟩ := h.exists_cons
  cases negative with
  | true => exact hc
  | false =>
    have hne : c ≠ '-' := by rintro rfl; cases hc
    simp [beginsNumeral, hc, hne]

/-- What JSON reads as an integer YAML does too. -/
theorem integer_agrees {word : List Char} (h : readNumber word = .ok (.int n, [])) :
    Datum.ofPlain (String.ofList word) = .int n := by
  obtain ⟨negative, digits, rfl, hwhole, hnumber⟩ := Json.readNumber_int h
  have hbegins : beginsNumeral (if negative then '-' :: digits else digits) = true := by
    simpa using beginsNumeral_numeral hwhole.isNumeral
  have hne : ∀ text ∈ ["", "null", "Null", "NULL", "~", "true", "True", "TRUE", "false", "False", "FALSE"],
      String.ofList (if negative then '-' :: digits else digits) ≠ text :=
    fun text htext => ne_of_beginsNumeral hbegins (by revert text; decide)
  simp [Datum.ofPlain, isNullWord, boolOf?, hne, integerOf?_whole hwhole hnumber]

end Integers

end Yaml

end AddonConfig
