import Mathlib
import PageTrial.Clock

/-!
# Doubles that a clock shows

A clock that starts at zero and only ever adds spans shows no negative double and no negative
zero. On such a double, adding a zero of either sign changes nothing, bit for bit. If the spans are
numbers, so are its readings, and numbers can be put in order (`Elapsed.lt_of_not_le`).
These facts are read off the definition of addition, which works on unpacked doubles and packs the
result; so it is shown first that packing and unpacking lose nothing that matters here.
-/

set_option autoImplicit false

namespace PageTrial.Double

open Float.Model Float.Model.UnpackedFloat

/-- The bits of a double. -/
abbrev Bits : Type := BitVec Format.binary64.numBits

/-! ## Packing -/

theorem toBitVec_ofBitVec (bit : BitVec 1) : (Sign.ofBitVec bit).toBitVec = bit := by
  rcases BitVec.eq_zero_or_eq_one bit with rfl | rfl <;> rfl

theorem packComponents_unpacked (bits : Bits) :
    packComponents .binary64 (Sign.ofBitVec (unpackSign bits)) (unpackExponent bits)
      (unpackMantissa bits) = bits := by
  unfold packComponents
  rw [toBitVec_ofBitVec]
  -- Bit by bit: each one is back where it was cut out.
  apply BitVec.eq_of_getElem_eq
  intro i hi
  simp only [unpackSign, unpackExponent, unpackMantissa, BitVec.extractLsb]
  grind

/-- The mantissa of a normal double has its leading bit added. -/
theorem toNat_leading (mantissa : BitVec 52) :
    (1#1 ++ mantissa).toNat = 2 ^ 52 + mantissa.toNat := by
  rw [BitVec.toNat_append, ← Nat.shiftLeft_add_eq_or_of_lt mantissa.isLt]
  rfl

/-- The exponent that stored bits stand for, up to the place of the leading bit. -/
def placed (exponent : BitVec 11) : Int :=
  (exponent.toNat : Int) - ((Format.binary64.exponentBias : Int) + (52 : Nat))

theorem pack_normal (sign : Sign) {exponent : BitVec 11} (mantissa : BitVec 52)
    (hfinite : exponent ≠ -1#11) (hpositive : 0 < (1#1 ++ mantissa).toNat) :
    UnpackedFloat.pack .binary64
        (.finite sign (1#1 ++ mantissa).toNat (placed exponent) hpositive) =
      packComponents .binary64 sign exponent mantissa := by
  have hexponent : exponent.toNat + 1 < 2 ^ 11 := by
    have hne : exponent.toNat ≠ 2 ^ 11 - 1 := fun h => hfinite (BitVec.eq_of_toNat_eq h)
    have := exponent.isLt
    omega
  have hbiased : (placed exponent + Format.binary64.exponentBias + (52 : Nat)).toNat =
      exponent.toNat := by
    unfold placed
    omega
  -- The leading bit tells how long the mantissa is, and so which exponent to store.
  have hlog : (1#1 ++ mantissa).toNat.log2 = 52 := by
    have := mantissa.isLt
    rw [toNat_leading, Nat.log2_eq_iff (by omega)]
    omega
  have hmantissa : BitVec.ofNat 52 (1#1 ++ mantissa).toNat = mantissa := by
    apply BitVec.eq_of_toNat_eq
    rw [BitVec.toNat_ofNat, toNat_leading]
    have := mantissa.isLt
    omega
  unfold UnpackedFloat.pack
  simp only [hlog]
  show (if 2 ^ 11 ≤ Int.toNat _ + 1 then _ else _) = _
  have hlong : 52 + 1 = Format.binary64.mantissaBits := rfl
  rw [hbiased, if_neg (by omega), if_pos hlong, hmantissa, BitVec.ofNat_toNat,
    BitVec.setWidth_eq]

theorem pack_subnormal (sign : Sign) (mantissa : BitVec 52) (hpositive : 0 < mantissa.toNat) :
    UnpackedFloat.pack .binary64 (.finite sign mantissa.toNat (placed 0#11 + 1) hpositive) =
      packComponents .binary64 sign 0#11 mantissa := by
  have hbiased : (placed 0#11 + 1 + Format.binary64.exponentBias + (52 : Nat)).toNat = 1 := by
    unfold placed
    rw [BitVec.toNat_zero]
    omega
  -- A mantissa without a leading bit is shorter, and its exponent is stored as zero.
  have hlog : mantissa.toNat.log2 < 52 := by
    rw [Nat.log2_lt (by omega)]
    exact mantissa.isLt
  have hshort : ¬ mantissa.toNat.log2 + 1 = Format.binary64.mantissaBits := by
    show ¬ mantissa.toNat.log2 + 1 = 53
    omega
  unfold UnpackedFloat.pack
  dsimp only
  show (if 2 ^ 11 ≤ Int.toNat _ + 1 then _ else _) = _
  rw [hbiased, if_neg (by decide), if_neg hshort, BitVec.ofNat_toNat, BitVec.setWidth_eq]

/-- Only the canonical bits stand for no number, so packing gives back what was unpacked. -/
theorem pack_unpack {bits : Bits} (h : Format.binary64.Valid bits) :
    UnpackedFloat.pack .binary64 (UnpackedFloat.unpack .binary64 bits) = bits := by
  have whole := packComponents_unpacked bits
  unfold UnpackedFloat.unpack
  dsimp only
  split
  · next hexponent =>
    split
    · next hmantissa =>
      rw [hexponent, hmantissa] at whole
      exact whole
    · next hmantissa => exact (h.eq_packedNaN hexponent hmantissa).symm
  · next hfinite =>
    split
    · next hexponent =>
      split
      · next hmantissa =>
        rw [hexponent, hmantissa] at whole
        exact whole
      · next hmantissa =>
        rw [hexponent] at whole ⊢
        exact (pack_subnormal _ _ _).trans whole
    · exact (pack_normal _ _ hfinite _).trans whole

theorem model_pack_unpack (x : Float.Model) : Float.Model.pack x.unpack = x := by
  obtain ⟨bits, hvalid⟩ := x
  have hbits := pack_unpack hvalid
  simp only [Float.Model.pack, Float.Model.unpack, hbits]

/-! ## Doubles without a minus sign -/

theorem unpackSign_packComponents (sign : Sign) (exponent : BitVec 11) (mantissa : BitVec 52) :
    unpackSign (packComponents .binary64 sign exponent mantissa) = sign.toBitVec := by
  apply BitVec.eq_of_getElem_eq
  intro i hi
  simp [unpackSign, packComponents]
  grind

theorem unpackExponent_packComponents (sign : Sign) (exponent : BitVec 11) (mantissa : BitVec 52) :
    unpackExponent (packComponents .binary64 sign exponent mantissa) = exponent := by
  apply BitVec.eq_of_getElem_eq
  intro i hi
  simp [unpackExponent, packComponents]
  grind

theorem unpackMantissa_packComponents (sign : Sign) (exponent : BitVec 11) (mantissa : BitVec 52) :
    unpackMantissa (packComponents .binary64 sign exponent mantissa) = mantissa := by
  apply BitVec.eq_of_getElem_eq
  intro i hi
  simp [unpackMantissa, packComponents]
  grind

/-- No number, or one with a plus sign. -/
def Upright : UnpackedFloat → Prop
  | .notANumber => True
  | .infinity sign | .zero sign | .finite sign _ _ _ => sign = .positive

/-- A number with a plus sign. -/
def Plus : UnpackedFloat → Prop
  | .notANumber => False
  | .infinity sign | .zero sign | .finite sign _ _ _ => sign = .positive

theorem Plus.upright {x : UnpackedFloat} (h : Plus x) : Upright x := by
  cases x with
  | notANumber => cases h
  | infinity | zero | finite => exact h

theorem unpack_upright {bits : Bits} (h : unpackSign bits = 0#1) :
    Upright (UnpackedFloat.unpack .binary64 bits) := by
  unfold UnpackedFloat.unpack
  rw [h]
  dsimp only
  split
  · split
    · rfl
    · trivial
  · split
    · split
      · rfl
      · rfl
    · rfl

theorem unpackSign_pack {x : UnpackedFloat} (h : Upright x) :
    unpackSign (UnpackedFloat.pack .binary64 x) = 0#1 := by
  unfold UnpackedFloat.pack
  cases x with
  | notANumber => exact unpackSign_packComponents .positive _ _
  | infinity sign =>
    cases h
    exact unpackSign_packComponents .positive _ _
  | zero sign =>
    cases h
    exact unpackSign_packComponents .positive _ _
  | finite sign mantissa exponent hpositive =>
    cases h
    dsimp only
    split
    · exact unpackSign_packComponents .positive _ _
    · split
      · exact unpackSign_packComponents .positive _ _
      · exact unpackSign_packComponents .positive _ _

theorem unpack_plus {bits : Bits} (hsign : unpackSign bits = 0#1)
    (h : unpackExponent bits = -1#11 → unpackMantissa bits = 0#52) :
    Plus (UnpackedFloat.unpack .binary64 bits) := by
  unfold UnpackedFloat.unpack
  rw [hsign]
  dsimp only
  split
  · next hexponent =>
    split
    · rfl
    · next hmantissa => exact absurd (h hexponent) hmantissa
  · split
    · split
      · rfl
      · rfl
    · rfl

theorem packComponents_plus {exponent : BitVec 11} {mantissa : BitVec 52}
    (h : exponent = -1#11 → mantissa = 0#52) :
    Plus (UnpackedFloat.unpack .binary64
      (packComponents .binary64 .positive exponent mantissa)) := by
  apply unpack_plus (unpackSign_packComponents .positive exponent mantissa)
  intro hexponent
  exact (unpackMantissa_packComponents _ _ _).trans
    (h ((unpackExponent_packComponents _ _ _).symm.trans hexponent))

theorem pack_plus {x : UnpackedFloat} (h : Plus x) :
    Plus (UnpackedFloat.unpack .binary64 (UnpackedFloat.pack .binary64 x)) := by
  cases x with
  | notANumber => cases h
  | infinity sign =>
    cases h
    exact packComponents_plus fun _ => rfl
  | zero sign =>
    cases h
    exact packComponents_plus fun _ => rfl
  | finite sign mantissa exponent hpositive =>
    cases h
    unfold UnpackedFloat.pack
    dsimp only
    split
    · exact packComponents_plus fun _ => rfl
    · next hbounded =>
      split
      · refine packComponents_plus fun hexponent => ?_
        -- An exponent that is stored as it is stays below the one that stands for no number.
        have hstored := congrArg BitVec.toNat hexponent
        rw [BitVec.toNat_ofNat, Nat.mod_eq_of_lt (by omega)] at hstored
        have htop : (-1#11).toNat = 2 ^ 11 - 1 := rfl
        omega
      · exact packComponents_plus fun hexponent => absurd hexponent (by decide)

theorem round_plus (mantissa : Nat) (exponent : Int) :
    Plus (UnpackedFloat.round .binary64 .positive mantissa exponent) := by
  unfold UnpackedFloat.round roundWithAccuracy
  dsimp only
  split
  · rfl
  · rfl

theorem normalize_plus {mantissa : Int} (h : 0 ≤ mantissa) (exponent : Int) :
    Plus (UnpackedFloat.normalize .binary64 mantissa exponent .positive) := by
  unfold UnpackedFloat.normalize
  split
  · next hneg => exact absurd (Int.compare_eq_lt.mp hneg) (by omega)
  · rfl
  · exact round_plus _ _

theorem add_upright {x y : UnpackedFloat} (hx : Upright x) (hy : Upright y) :
    Upright (UnpackedFloat.add .binary64 x y) := by
  -- Unless both are finite, the sum is one of the two.
  cases x <;> cases y <;> cases hx <;> cases hy <;> try trivial
  exact (normalize_plus (Int.add_nonneg (Int.natCast_nonneg _) (Int.natCast_nonneg _)) _).upright

theorem add_plus {x y : UnpackedFloat} (hx : Plus x) (hy : Plus y) :
    Plus (UnpackedFloat.add .binary64 x y) := by
  -- Unless both are finite, the sum is one of the two.
  cases x <;> cases y <;> cases hx <;> cases hy <;> try rfl
  exact normalize_plus (Int.add_nonneg (Int.natCast_nonneg _) (Int.natCast_nonneg _)) _

/-! ## Sums with zero, and comparisons with it -/

theorem add_zero {x : UnpackedFloat} (hx : Upright x) (sign : Sign) :
    UnpackedFloat.add .binary64 x (.zero sign) = x := by
  cases x with
  | zero own =>
    cases hx
    cases sign <;> rfl
  | notANumber | infinity | finite => rfl

theorem zero_add {x : UnpackedFloat} (hx : ∀ sign, x ≠ .zero sign) (sign : Sign) :
    UnpackedFloat.add .binary64 (.zero sign) x = x := by
  cases x with
  | zero own => exact absurd rfl (hx own)
  | notANumber | infinity | finite => rfl

/-- What is neither above zero nor below it, but can be compared with it, is a zero. -/
theorem eq_zero_of_compare {x : UnpackedFloat} {sign : Sign}
    (hle : UnpackedFloat.le (.zero sign) x = true)
    (hlt : UnpackedFloat.lt (.zero sign) x = false) : ∃ own, x = .zero own := by
  cases x with
  | zero own => exact ⟨own, rfl⟩
  | notANumber => cases hle
  | infinity own => cases own <;> simp_all [UnpackedFloat.le, UnpackedFloat.lt, UnpackedFloat.compare]
  | finite own => cases own <;> simp_all [UnpackedFloat.le, UnpackedFloat.lt, UnpackedFloat.compare]

/-- What can be compared with zero and is not at or below it has a plus sign and is no zero. -/
theorem upright_of_compare {x : UnpackedFloat} {sign : Sign}
    (h : UnpackedFloat.le x (.zero sign) = false) : Upright x ∧ ∀ own, x ≠ .zero own := by
  cases x with
  | zero own => simp [UnpackedFloat.le, UnpackedFloat.compare] at h
  | notANumber => exact ⟨trivial, fun own => by simp⟩
  | infinity own =>
    cases own with
    | negative => simp [UnpackedFloat.le, UnpackedFloat.compare] at h
    | positive => exact ⟨rfl, fun own => by simp⟩
  | finite own =>
    cases own with
    | negative => simp [UnpackedFloat.le, UnpackedFloat.compare] at h
    | positive => exact ⟨rfl, fun own => by simp⟩

theorem swap_compare (e₁ e₂ : Int) (m₁ m₂ : Nat) :
    ((compare e₁ e₂).then (compare m₁ m₂)).swap = (compare e₂ e₁).then (compare m₂ m₁) := by
  have hexponents : compare e₂ e₁ = (compare e₁ e₂).swap := Std.OrientedCmp.eq_swap
  have hmantissas : compare m₂ m₁ = (compare m₁ m₂).swap := Std.OrientedCmp.eq_swap
  rw [hexponents, hmantissas, Ordering.swap_then]

theorem compare_lt_of_not_isLE {e₁ e₂ : Int} {m₁ m₂ : Nat}
    (h : ((compare e₁ e₂).then (compare m₁ m₂)).isLE = false) :
    (compare e₂ e₁).then (compare m₂ m₁) = .lt := by
  rw [← swap_compare]
  cases hcompare : (compare e₁ e₂).then (compare m₁ m₂) <;> simp_all

theorem lt_of_le_eq_false {x y : UnpackedFloat} (hx : Plus x) (hy : Plus y)
    (h : UnpackedFloat.le x y = false) : UnpackedFloat.lt y x = true := by
  -- Unless both are finite, only one of the two can be the larger one.
  cases x <;> cases y <;> cases hx <;> cases hy <;> try cases h <;> try rfl
  have hsmaller := compare_lt_of_not_isLE h
  simp only [UnpackedFloat.lt, UnpackedFloat.compare, hsmaller, BEq.rfl]

theorem not_isLE_of_compare_lt {e₁ e₂ : Int} {m₁ m₂ : Nat}
    (h : (compare e₁ e₂).then (compare m₁ m₂) = .lt) :
    ((compare e₂ e₁).then (compare m₂ m₁)).isLE = false := by
  rw [← swap_compare, h]
  rfl

theorem le_eq_false_of_lt {x y : UnpackedFloat} (hx : Plus x) (hy : Plus y)
    (h : UnpackedFloat.lt x y = true) : UnpackedFloat.le y x = false := by
  -- Unless both are finite, only one of the two can be the smaller one.
  cases x <;> cases y <;> cases hx <;> cases hy <;> try cases h <;> try rfl
  have hcompare := eq_of_beq h
  simp only [UnpackedFloat.compare, Option.some.injEq] at hcompare
  exact not_isLE_of_compare_lt hcompare

/-- What can be compared with something is a number, both of the two. -/
theorem ne_nan_of_le {x y : UnpackedFloat} (h : UnpackedFloat.le x y = true) :
    x ≠ .notANumber ∧ y ≠ .notANumber := by
  constructor
  · rintro rfl
    cases h
  · rintro rfl
    cases x <;> cases h

theorem isLE_or_isLE (e₁ e₂ : Int) (m₁ m₂ : Nat) :
    ((compare e₁ e₂).then (compare m₁ m₂)).isLE = true ∨
      ((compare e₂ e₁).then (compare m₂ m₁)).isLE = true := by
  cases h : ((compare e₁ e₂).then (compare m₁ m₂)).isLE with
  | true => exact .inl rfl
  | false => exact .inr (by rw [compare_lt_of_not_isLE h]; rfl)

theorem le_total {x y : UnpackedFloat} (hx : x ≠ .notANumber) (hy : y ≠ .notANumber) :
    UnpackedFloat.le x y = true ∨ UnpackedFloat.le y x = true := by
  cases x with
  | notANumber => exact absurd rfl hx
  | zero own =>
    cases y with
    | notANumber => exact absurd rfl hy
    | zero other => exact .inl rfl
    | infinity other => cases other <;> simp [UnpackedFloat.le, UnpackedFloat.compare]
    | finite other => cases other <;> simp [UnpackedFloat.le, UnpackedFloat.compare]
  | infinity own =>
    cases y with
    | notANumber => exact absurd rfl hy
    | zero other => cases own <;> simp [UnpackedFloat.le, UnpackedFloat.compare]
    | infinity other => cases own <;> cases other <;> decide
    | finite other => cases own <;> simp [UnpackedFloat.le, UnpackedFloat.compare]
  | finite own m₁ e₁ =>
    cases y with
    | notANumber => exact absurd rfl hy
    | zero other => cases own <;> simp [UnpackedFloat.le, UnpackedFloat.compare]
    | infinity other => cases other <;> simp [UnpackedFloat.le, UnpackedFloat.compare]
    | finite other m₂ e₂ =>
      cases own with
      | positive =>
        cases other with
        | positive => exact isLE_or_isLE e₁ e₂ m₁ m₂
        | negative => exact .inr rfl
      | negative =>
        cases other with
        | positive => exact .inl rfl
        | negative =>
          show (Ordering.swap _).isLE = true ∨ (Ordering.swap _).isLE = true
          rw [swap_compare, swap_compare]
          exact isLE_or_isLE e₂ e₁ m₂ m₁

theorem plus_of_lt_zero {x : UnpackedFloat} {sign : Sign}
    (h : UnpackedFloat.lt (.zero sign) x = true) : Plus x := by
  cases x with
  | notANumber => cases h
  | zero own => cases h
  | infinity own => cases own <;> simp_all [UnpackedFloat.lt, UnpackedFloat.compare, Plus]
  | finite own => cases own <;> simp_all [UnpackedFloat.lt, UnpackedFloat.compare, Plus]

/-! ## Clock readings -/

theorem zero_unpack : (0 : Float).toModel.unpack = .zero .positive := by rfl

theorem le_iff {x y : Float} :
    x ≤ y ↔ UnpackedFloat.le x.toModel.unpack y.toModel.unpack = true := by
  show decide (UnpackedFloat.le x.toModel.unpack y.toModel.unpack = true) = true ↔ _
  rw [decide_eq_true_iff]

theorem lt_iff {x y : Float} :
    x < y ↔ UnpackedFloat.lt x.toModel.unpack y.toModel.unpack = true := by
  show decide (UnpackedFloat.lt x.toModel.unpack y.toModel.unpack = true) = true ↔ _
  rw [decide_eq_true_iff]

theorem add_eq (x y : Float) :
    x + y = .ofModel (.pack (UnpackedFloat.add .binary64 x.toModel.unpack y.toModel.unpack)) := rfl

/-- A double that a clock may show. -/
def Shown (t : Float) : Prop := Upright t.toModel.unpack

theorem shown_zero : Shown 0 := by
  unfold Shown
  rw [zero_unpack]
  rfl

theorem Shown.add {t span : Float} (ht : Shown t) (hspan : ¬ span ≤ 0) : Shown (t + span) := by
  rw [le_iff, zero_unpack, Bool.not_eq_true] at hspan
  have hsum := add_upright ht (upright_of_compare hspan).1
  rw [add_eq]
  exact unpack_upright (unpackSign_pack hsum)

/-- Waiting no time leaves the clock as it is. -/
theorem Shown.add_nothing {t span : Float} (ht : Shown t) (hle : 0 ≤ span) (hlt : ¬ 0 < span) :
    t + span = t := by
  rw [le_iff, zero_unpack] at hle
  rw [lt_iff, zero_unpack, Bool.not_eq_true] at hlt
  obtain ⟨sign, hzero⟩ := eq_zero_of_compare hle hlt
  rw [add_eq, hzero, add_zero ht, model_pack_unpack]

/-- A double that a clock shows which has counted spans since it was at zero. -/
def Elapsed (t : Float) : Prop := Plus t.toModel.unpack

theorem elapsed_zero : Elapsed 0 := by
  unfold Elapsed
  rw [zero_unpack]
  rfl

theorem elapsed_of_pos {span : Float} (h : 0 < span) : Elapsed span := by
  rw [lt_iff, zero_unpack] at h
  exact plus_of_lt_zero h

theorem Elapsed.add {t span : Float} (ht : Elapsed t) (hspan : Elapsed span) :
    Elapsed (t + span) := by
  rw [add_eq]
  exact pack_plus (add_plus ht hspan)

/-- Of two clock readings one is before the other or not. -/
theorem Elapsed.lt_of_not_le {t limit : Float} (ht : Elapsed t) (hlimit : Elapsed limit)
    (h : ¬ limit ≤ t) : t < limit := by
  rw [le_iff, Bool.not_eq_true] at h
  rw [lt_iff]
  exact lt_of_le_eq_false hlimit ht h

theorem Elapsed.not_le_of_lt {t limit : Float} (ht : Elapsed t) (hlimit : Elapsed limit)
    (h : t < limit) : ¬ limit ≤ t := by
  rw [lt_iff] at h
  rw [le_iff, Bool.not_eq_true]
  exact le_eq_false_of_lt ht hlimit h

theorem add_nan {x y : Float} (h : x.toModel.unpack = .notANumber) :
    (x + y).toModel.unpack = .notANumber := by
  have hsum : UnpackedFloat.add .binary64 .notANumber y.toModel.unpack = .notANumber := by
    cases y.toModel.unpack <;> rfl
  have hpacked : (Float.Model.pack .notANumber).unpack = .notANumber := by rfl
  rw [add_eq, h, hsum]
  exact hpacked

/-- Of two doubles that can be compared with anything the later one is not before either. -/
theorem le_latest {limit now : Float} (hlimit : limit.toModel.unpack ≠ .notANumber)
    (hnow : now.toModel.unpack ≠ .notANumber) : limit ≤ Timescale.latest now limit := by
  unfold Timescale.latest
  split
  · exact le_iff.mpr (or_self_iff.mp (le_total hlimit hlimit))
  · next hafter =>
    rw [le_iff] at hafter ⊢
    exact (le_total hlimit hnow).resolve_right hafter

theorem not_le_of_pos {x : Float} (h : 0 < x) : ¬ x ≤ 0 :=
  elapsed_zero.not_le_of_lt (elapsed_of_pos h) h

theorem le_of_lt {x y : Float} (h : x < y) : x ≤ y := by
  rw [lt_iff] at h
  rw [le_iff]
  have hcompare := eq_of_beq h
  simp [UnpackedFloat.le, hcompare]

/-- What can be compared is a number. -/
theorem isNaN_of_le {x y : Float} (h : x ≤ y) : y.isNaN = false := by
  rw [le_iff] at h
  show y.toModel.unpack.isNaN = false
  have hnumber := (ne_nan_of_le h).2
  cases hunpacked : y.toModel.unpack with
  | notANumber => exact absurd hunpacked hnumber
  | infinity | zero | finite => rfl

/-- What is at zero or above it, but not at zero or below it, is above it. -/
theorem pos_of_not_le {x : Float} (hle : 0 ≤ x) (hlt : ¬ x ≤ 0) : 0 < x := by
  by_contra hpos
  rw [le_iff, zero_unpack] at hle hlt
  rw [lt_iff, zero_unpack, Bool.not_eq_true] at hpos
  obtain ⟨sign, hzero⟩ := eq_zero_of_compare hle hpos
  rw [hzero] at hlt
  exact hlt (by cases sign <;> rfl)

theorem zero_add_of_pos {x : Float} (h : 0 < x) : 0 + x = x := by
  have hnonzero := not_le_of_pos h
  rw [le_iff, zero_unpack, Bool.not_eq_true] at hnonzero
  rw [add_eq, zero_unpack, zero_add (upright_of_compare hnonzero).2, model_pack_unpack]

end PageTrial.Double
