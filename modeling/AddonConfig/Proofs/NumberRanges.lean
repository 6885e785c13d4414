import AddonConfig.Proofs.DecodedParts
import AddonConfig.Proofs.FloatsRead
import AddonConfig.Proofs.OauthEntities

/-!
# The ranges of an accepted configuration

The rule for ranges refuses a second bound below the first. `Binary64.lt` compares finite numbers as multiples of
the smallest one, which is the order of what they stand for (`Binary64.lt_iff`) wherever they are such multiples,
and so are all numbers that are made by rounding or read from a text. Two bounds that stand for something are
therefore in order when they are accepted. A NaN stands for nothing; it is below nothing and is not refused.
-/

namespace AddonConfig

namespace Binary64

/-- The rational that a finite number stands for. -/
def rational (negative : Bool) (significand : Nat) (exponent : Int) : ℚ :=
  (if negative then -1 else 1) * significand * 2 ^ exponent

/-- What a number stands for, between the two infinities; nothing for a NaN. -/
def value? : Binary64 → Option (WithBot (WithTop ℚ))
  | .finite negative significand exponent => some (rational negative significand exponent : WithTop ℚ)
  | .infinite negative => some (if negative then ⊥ else ⊤)
  | .nan => none

/-- Both numbers stand for something, the one for at most what the other does. -/
def AtMost (x y : Binary64) : Prop := ∃ a b, x.value? = some a ∧ y.value? = some b ∧ a ≤ b

theorem exists_value {x : Binary64} (h : x ≠ .nan) : ∃ a, x.value? = some a := by
  cases x with
  | finite negative significand exponent => exact ⟨_, rfl⟩
  | infinite negative => exact ⟨_, rfl⟩
  | nan => exact absurd rfl h

theorem not_nan_atMost (y : Binary64) : ¬ nan.AtMost y := by
  rintro ⟨a, b, hvalue, -⟩
  cases hvalue

/-! ### Multiples of the smallest number -/

/-- A finite number is a multiple of the smallest one. -/
def OnGrid : Binary64 → Prop
  | .finite _ _ exponent => minExponent ≤ exponent
  | _ => True

theorem ofRatio_onGrid (negative : Bool) (num den : Nat) : (ofRatio negative num den).OnGrid := by
  unfold ofRatio
  split_ifs
  · exact le_refl _
  · have hleast : minExponent ≤ max (ratioLog2 num den - 52) minExponent := le_max_right _ _
    generalize max (ratioLog2 num den - 52) minExponent = exponent at hleast ⊢
    dsimp only
    split_ifs
    · trivial
    · exact hleast.trans (Int.le_add_one le_rfl)
    · trivial
    · exact hleast

theorem ofDecimal_onGrid (d : Decimal) : (ofDecimal d).OnGrid := by
  unfold ofDecimal
  split_ifs
  · exact le_refl _
  · trivial
  · exact le_refl _
  · exact ofRatio_onGrid _ _ _

theorem onGrid_of_text {text : List Char} {x : Binary64} (h : Yaml.floatOf? text = some x) : x.OnGrid := by
  unfold Yaml.floatOf? at h
  dsimp only at h
  split_ifs at h
  · cases h; trivial
  · cases h; trivial
  · cases h; trivial
  · split at h
    · rename_i value hvalue
      split_ifs at h
      cases h
      obtain ⟨d, -, rfl⟩ := Option.map_eq_some_iff.1 hvalue
      exact ofDecimal_onGrid d
    · cases h

/-! ### The order -/

theorem scaled_eq {negative : Bool} {significand : Nat} {exponent : Int} (h : minExponent ≤ exponent) :
    (scaled negative significand exponent : ℚ) = rational negative significand exponent * 2 ^ (-minExponent) := by
  have hpow : ((2 : ℚ) ^ (exponent - minExponent).toNat) = 2 ^ exponent * 2 ^ (-minExponent) := by
    rw [← zpow_add₀ two_ne_zero, ← zpow_natCast, Int.toNat_of_nonneg (Int.sub_nonneg.2 h), sub_eq_add_neg]
  have hsize : ((significand * Nat.pow 2 (exponent - minExponent).toNat : Int) : ℚ)
      = significand * 2 ^ exponent * 2 ^ (-minExponent) := by
    rw [Nat.pow_eq]
    push_cast
    rw [hpow, mul_assoc]
  unfold scaled rational
  cases negative with
  | false => simpa using hsize
  | true => simpa using hsize

theorem scaled_lt_scaled {n m : Bool} {s t : Nat} {e f : Int} (he : minExponent ≤ e) (hf : minExponent ≤ f) :
    scaled n s e < scaled m t f ↔ rational n s e < rational m t f := by
  rw [← Int.cast_lt (R := ℚ), scaled_eq he, scaled_eq hf, mul_lt_mul_iff_left₀ (zpow_pos two_pos _)]

/-- Numbers on the grid are compared as what they stand for. -/
theorem lt_iff {x y : Binary64} (hx : x.OnGrid) (hy : y.OnGrid) {a b : WithBot (WithTop ℚ)}
    (ha : x.value? = some a) (hb : y.value? = some b) : x.lt y = true ↔ a < b := by
  cases x with
  | nan => cases ha
  | infinite n =>
    cases ha
    cases y with
    | nan => cases hb
    | infinite m => cases hb; cases n <;> cases m <;> simp [lt]
    | finite m t f => cases hb; cases n <;> simp [lt]
  | finite n s e =>
    cases ha
    cases y with
    | nan => cases hb
    | infinite m =>
      cases hb
      have htop : ((rational n s e : WithTop ℚ) : WithBot (WithTop ℚ)) < ⊤ :=
        WithBot.coe_lt_coe.2 (WithTop.coe_lt_top _)
      cases m <;> simp [lt, htop]
    | finite m t f =>
      cases hb
      rw [WithBot.coe_lt_coe, WithTop.coe_lt_coe, ← scaled_lt_scaled hx hy]
      exact decide_eq_true_iff

theorem atMost_of_not_lt {x y : Binary64} (hx : x.OnGrid) (hy : y.OnGrid) (hxnan : x ≠ .nan) (hynan : y ≠ .nan)
    (h : y.lt x = false) : x.AtMost y := by
  obtain ⟨a, ha⟩ := exists_value hxnan
  obtain ⟨b, hb⟩ := exists_value hynan
  refine ⟨a, b, ha, hb, le_of_not_gt fun hlt => ?_⟩
  rw [(lt_iff hy hx hb ha).2 hlt] at h
  cases h

end Binary64

/-! ### Ranges that are read -/

theorem Json.Floats.hereditary (p : Binary64 → Prop) : Json.Hereditary (Json.Floats p) := by
  constructor
  · rintro items (_ | _ | _ | _ | _ | h | _)
    exact h
  · rintro members (_ | _ | _ | _ | _ | _ | h)
    exact h

theorem double_onGrid {x : Binary64} (h : DecodedFrom (Json.Floats Binary64.OnGrid) Decoder.double x) : x.OnGrid := by
  obtain ⟨part, hpart, hread⟩ := h
  cases hpart with
  | int value => cases hread; exact Binary64.ofRatio_onGrid _ _ _
  | float h => cases hread; exact h
  | null | bool value | str value | arr h | obj h => cases hread

theorem range_onGrid {range : List Binary64} {message : Option String}
    (h : DecodedFrom (Json.Floats Binary64.OnGrid) Validator.decode (.number range message)) :
    ∀ bound ∈ range, bound.OnGrid := by
  have hbounds := DecodedFrom.list (Json.Floats.hereditary _) (h.range (Json.Floats.hereditary _))
  exact fun bound hbound => double_onGrid (hbounds bound hbound)

/-- The validators of a configuration's fields were decoded from parts of the document. -/
theorem Config.validators_decoded {P : Json → Prop} (hP : Json.Hereditary P) {config : Config}
    (h : DecodedFrom P Config.decode config) :
    ∀ entity ∈ config.entities, ∀ view ∈ entity.fields, ∀ validator ∈ view.validators,
      DecodedFrom P Validator.decode validator := by
  intro entity hentity view hview validator hvalidator
  have hdecoded : DecodedFrom P Entity.decode entity := by
    rcases List.mem_append.1 hentity with hentity | hentity
    · obtain ⟨tab, htab, hentity⟩ := List.mem_flatMap.1 hentity
      exact Tab.entities_decoded hP (Config.tabs_decoded hP h tab htab) entity hentity
    · obtain ⟨service, hservice, hentity⟩ := List.mem_flatMap.1 hentity
      exact Service.entities_decoded hP (Config.services_decoded hP h service hservice) entity hentity
  obtain ⟨hown, hoptions⟩ := Entity.parts_decoded hP hdecoded
  rcases Entity.mem_fields.1 hview with ⟨-, rfl⟩ | ⟨-, sub, hsub, rfl⟩
  · exact hown validator hvalidator
  · cases hentityOptions : entity.options with
    | none => simp [Entity.below, hentityOptions] at hsub
    | some options =>
      have hsub : sub ∈ Entity.subFields options := by simpa [Entity.below, hentityOptions] using hsub
      have hdecodedSub := EntityOptions.subFields_decoded hP (hoptions options hentityOptions) sub hsub
      exact OAuthField.validators_decoded hP hdecodedSub validator hvalidator

theorem Config.floats_of_yaml {text : String} {config : Config} (h : Config.ofYaml? text = some config) :
    DecodedFrom (Json.Floats Binary64.OnGrid) Config.decode config := by
  obtain ⟨value, hvalue, h⟩ := Option.bind_eq_some_iff.1 h
  refine ⟨value, Yaml.Shape.floats_of_text (fun _ _ => Binary64.onGrid_of_text) hvalue, ?_⟩
  cases hread : Config.decode value with
  | error e => rw [hread] at h; cases h
  | ok decoded => rw [hread] at h; cases h; rfl

/-- The range of every number validator in an accepted configuration that was read from YAML has two bounds, and
these are in order if neither is a NaN. -/
theorem accepted_ranges_ordered [PatternEngine] (text : String) (config : Config)
    (read : Config.ofYaml? text = some config) (accepted : config.check = .ok ()) :
    ∀ entity ∈ config.entities, ∀ view ∈ entity.fields, ∀ range message,
      Validator.number range message ∈ view.validators →
        ∃ low high, range = [low, high] ∧ (low ≠ .nan → high ≠ .nan → low.AtMost high) := by
  intro entity hentity view hview range message hmem
  obtain ⟨low, high, rfl, hnot⟩ :=
    (Validator.check_eq_ok _ _).1 (Config.view_validator_ok accepted hentity hview hmem)
  have hgrid := range_onGrid
    (Config.validators_decoded (Json.Floats.hereditary _) (Config.floats_of_yaml read) entity hentity view hview _ hmem)
  refine ⟨low, high, rfl, fun hlow hhigh => ?_⟩
  exact Binary64.atMost_of_not_lt (hgrid low (by simp)) (hgrid high (by simp)) hlow hhigh hnot

/-- A field with a range from a NaN to one, and a range from negative infinity to two and a half. -/
def rangesText : String :=
  "\x7bmeta: \x7bname: a, restRoot: a, " ++ "version: 1, displayName: A\x7d, " ++
    "pages: \x7binputs: \x7bservices: [" ++ "\x7bname: s, title: S, entity: [" ++
    "\x7bfield: n, label: N, type: text, " ++ "validators: [" ++ "\x7btype: number, range: [.nan, 1]\x7d, " ++
    "\x7btype: number, range: [-.inf, 2.5]\x7d" ++ "]\x7d]\x7d]\x7d\x7d\x7d"

theorem rangesText_read : ∃ config, Config.ofYaml? rangesText = some config ∧
    (∀ [PatternEngine], config.check = .ok ()) ∧ ∃ entity ∈ config.entities, ∃ view ∈ entity.fields,
      view.validators = [.number [.nan, .ofInt 1] none, .number [.infinite true, .ofRatio false 5 2] none] := by
  have hread : (Config.ofYaml? rangesText).map (fun config =>
      (decide (@Config.check .refusing config = .ok ()), config.patterns,
        (config.entities.flatMap Entity.fields).map (·.validators)))
        = some (true, [], [[.number [.nan, .ofInt 1] none, .number [.infinite true, .ofRatio false 5 2] none]]) := by
    unfold rangesText Config.ofYaml? Yaml.Shape.ofText? Yaml.Document.single? Yaml.Token.ofText
    -- the characters of short texts are found faster than those of one long text
    simp only [String.toList_append]
    decide +kernel
  obtain ⟨config, hconfig, hread⟩ := Option.map_eq_some_iff.1 hread
  obtain ⟨haccepted, hread⟩ := Prod.mk.inj hread
  obtain ⟨hpatterns, hviews⟩ := Prod.mk.inj hread
  refine ⟨config, hconfig, ?_, ?_⟩
  · intro
    exact (config.check_congr_engine (by simp [hpatterns])).trans (of_decide_eq_true haccepted)
  obtain ⟨view, hview, hvalidators⟩ := List.mem_map.1 (hviews ▸ List.mem_singleton_self _)
  obtain ⟨entity, hentity, hview⟩ := List.mem_flatMap.1 hview
  exact ⟨entity, hentity, view, hview, hvalidators⟩

theorem rangesText_ordered : ∃ config, Config.ofYaml? rangesText = some config ∧
    (∀ [PatternEngine], config.check = .ok ()) ∧ ∃ entity ∈ config.entities, ∃ view ∈ entity.fields,
      .number [.infinite true, .ofRatio false 5 2] none ∈ view.validators ∧
        (Binary64.infinite true).AtMost (.ofRatio false 5 2) := by
  obtain ⟨config, hread, haccepted, entity, hentity, view, hview, hvalidators⟩ := rangesText_read
  have hmem : .number [.infinite true, .ofRatio false 5 2] none ∈ view.validators := by simp [hvalidators]
  refine ⟨config, hread, haccepted, entity, hentity, view, hview, hmem, ?_⟩
  obtain ⟨low, high, hrange, hordered⟩ := @accepted_ranges_ordered .refusing rangesText config hread
    (@haccepted .refusing) entity hentity view hview _ _ hmem
  obtain ⟨rfl, rfl⟩ : Binary64.infinite true = low ∧ Binary64.ofRatio false 5 2 = high := by simpa using hrange
  exact hordered (by decide) (by decide)

/-- A range with a NaN is in no order, and yet it is accepted. -/
theorem nan_range_accepted :
    ¬ ∃ _ : PatternEngine, ∀ (text : String) (config : Config), Config.ofYaml? text = some config →
      config.check = .ok () → ∀ entity ∈ config.entities, ∀ view ∈ entity.fields, ∀ range message,
        Validator.number range message ∈ view.validators → ∃ low high, range = [low, high] ∧ low.AtMost high := by
  rintro ⟨_, h⟩
  obtain ⟨config, hread, haccepted, entity, hentity, view, hview, hvalidators⟩ := rangesText_read
  have hmem : .number [.nan, .ofInt 1] none ∈ view.validators := by simp [hvalidators]
  obtain ⟨low, high, hrange, hordered⟩ := h rangesText config hread haccepted entity hentity view hview _ _ hmem
  obtain ⟨rfl, rfl⟩ : Binary64.nan = low ∧ Binary64.ofInt 1 = high := by simpa using hrange
  exact Binary64.not_nan_atMost _ hordered

end AddonConfig
