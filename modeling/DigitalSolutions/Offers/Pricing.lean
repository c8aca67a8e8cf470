import DigitalSolutions.Foundation.Checks
import DigitalSolutions.Foundation.Doubles
import DigitalSolutions.Offers.OfferRequests

namespace DigitalSolutions
namespace Offers
namespace Pricing

open Foundation

/-!
# Prices

Amounts are whole minor units.  They come in as numbers, are multiplied as
numbers or as big integers, and leave as numbers again.
-/

variable {discountBps amount : Int}

def annualDiscountMinBps : Int := 0

def annualDiscountMaxBps : Int := 1000

def offerDiscountMinBps : Int := 0

def offerDiscountMaxBps : Int := 10000

structure AnnualPricing where
  monthlyAmountMinor : Int
  discountBps : Int
  grossAnnualMinor : Int
  annualAmountMinor : Int
  savingsMinor : Int
  effectiveMonthlyMinor : Int
  deriving DecidableEq

structure OfferPricing where
  catalogAmountMinor : Int
  discountBps : Int
  discountAmountMinor : Int
  finalAmountMinor : Int
  deriving DecidableEq

/-- The amount that has been asserted. -/
def assertMinorUnits (value : JsNumber) (field : String) : Except String Int :=
  match value with
  | .integer amount => if ¬ IsSafe amount ∨ amount < 1 then .error ("INVALID_" ++ field) else .ok amount
  | .other => .error ("INVALID_" ++ field)

/-- The discount, where it is an integer between two bounds. -/
def assertDiscount (value : JsNumber) (lowest highest : Int) (message : String) : Except String Int :=
  match value with
  | .integer discountBps =>
    if discountBps < lowest ∨ highest < discountBps then .error message else .ok discountBps
  | .other => .error message

def roundRatioHalfUp (numerator denominator : Int) : Except String Int :=
  if denominator ≤ 0 ∨ numerator < 0 then .error "INVALID_MONEY_RATIO"
  else
    let rounded := (numerator + denominator.tdiv 2).tdiv denominator
    let value := toDouble rounded
    if ¬ IsSafe value then .error "MONEY_OVERFLOW" else .ok value

def calculateAnnualPricing (monthlyAmountMinor discountBps : JsNumber) : Except String AnnualPricing := do
  let monthlyAmountMinor <- assertMinorUnits monthlyAmountMinor "MONTHLY_AMOUNT"
  let discountBps <- assertDiscount discountBps annualDiscountMinBps annualDiscountMaxBps "INVALID_ANNUAL_DISCOUNT"
  let grossAnnualMinor := toDouble (monthlyAmountMinor * 12)
  rejectIf (¬ IsSafe grossAnnualMinor) "MONEY_OVERFLOW"
  let annualAmountMinor <- roundRatioHalfUp (grossAnnualMinor * toDouble (10000 - discountBps)) 10000
  let effectiveMonthlyMinor <- roundRatioHalfUp annualAmountMinor 12
  return { monthlyAmountMinor, discountBps, grossAnnualMinor, annualAmountMinor
           savingsMinor := toDouble (grossAnnualMinor - annualAmountMinor), effectiveMonthlyMinor }

def applyOfferDiscount (catalogAmountMinor discountBps : JsNumber) : Except String OfferPricing := do
  let catalogAmountMinor <- assertMinorUnits catalogAmountMinor "CATALOG_AMOUNT"
  let discountBps <- assertDiscount discountBps offerDiscountMinBps offerDiscountMaxBps "INVALID_OFFER_DISCOUNT"
  let finalAmountMinor <- roundRatioHalfUp (catalogAmountMinor * toDouble (10000 - discountBps)) 10000
  rejectIf (finalAmountMinor < 0 ∨ catalogAmountMinor < finalAmountMinor) "INVALID_DISCOUNTED_AMOUNT"
  return { catalogAmountMinor, discountBps
           discountAmountMinor := toDouble (catalogAmountMinor - finalAmountMinor), finalAmountMinor }

/-! ## The exact prices -/

/-- What is left of an amount, rounded half up. -/
def discounted (amount discountBps : Int) : Int := round (((amount * (10000 - discountBps) : Int) : ℚ) / 10000)

/-- The prices with a discount on an amount. -/
structure OfferExact (amount discountBps : Int) (offer : OfferPricing) : Prop where
  catalog : offer.catalogAmountMinor = amount
  discount : offer.discountBps = discountBps
  exact : offer.finalAmountMinor = discounted amount discountBps
  nonnegative : 0 ≤ offer.finalAmountMinor
  bounded : offer.finalAmountMinor ≤ amount
  sum : offer.discountAmountMinor + offer.finalAmountMinor = amount

/-- The prices of a year with a discount on twelve months. -/
structure AnnualExact (monthly discountBps : Int) (pricing : AnnualPricing) : Prop where
  source : pricing.monthlyAmountMinor = monthly
  discount : pricing.discountBps = discountBps
  gross : pricing.grossAnnualMinor = 12 * monthly
  exact : pricing.annualAmountMinor = discounted (12 * monthly) discountBps
  nonnegative : 0 ≤ pricing.annualAmountMinor
  bounded : pricing.annualAmountMinor ≤ pricing.grossAnnualMinor
  sum : pricing.savingsMinor + pricing.annualAmountMinor = 12 * monthly
  effective : pricing.effectiveMonthlyMinor = round ((pricing.annualAmountMinor : ℚ) / 12)
  effectiveBounded : pricing.effectiveMonthlyMinor ≤ monthly

theorem discounted_bounds (nonnegative : 0 ≤ amount) (lowest : 0 ≤ discountBps)
    (highest : discountBps ≤ 10000) :
    0 ≤ discounted amount discountBps ∧ discounted amount discountBps ≤ amount := by
  have least : 0 ≤ amount * (10000 - discountBps) := Int.mul_nonneg nonnegative (by omega)
  have most : amount * (10000 - discountBps) ≤ amount * 10000 := Int.mul_le_mul_of_nonneg_left (by omega) nonnegative
  have leastRational : (0 : ℚ) ≤ ((amount * (10000 - discountBps) : Int) : ℚ) := by exact_mod_cast least
  have mostRational : ((amount * (10000 - discountBps) : Int) : ℚ) ≤ amount * 10000 := by exact_mod_cast most
  constructor
  · rw [← @round_zero ℚ]
    apply round_mono
    linarith
  · have whole : round (amount : ℚ) = amount := round_intCast amount
    rw [← whole, discounted, whole]
    apply le_trans (round_mono (by linarith : _ ≤ (amount : ℚ)))
    exact whole.le

theorem discounted_mono {larger smaller : Int} (nonnegative : 0 ≤ amount) (le : amount ≤ larger)
    (less : smaller ≤ discountBps) (highest : discountBps ≤ 10000) :
    discounted amount discountBps ≤ discounted larger smaller := by
  have product : amount * (10000 - discountBps) ≤ larger * (10000 - smaller) :=
    Int.mul_le_mul le (by omega) (by omega) (by omega)
  have rational : ((amount * (10000 - discountBps) : Int) : ℚ) ≤ ((larger * (10000 - smaller) : Int) : ℚ) := by
    exact_mod_cast product
  apply round_mono
  linarith

/-! ## What is computed -/

theorem assertMinorUnits_ok_iff {value : JsNumber} {field : String} :
    assertMinorUnits value field = .ok amount ↔ value = .integer amount ∧ 1 ≤ amount ∧ IsSafe amount := by
  cases value with
  | other => simp only [assertMinorUnits, reduceCtorEq, false_and]
  | integer stored =>
    simp only [assertMinorUnits, JsNumber.integer.injEq]
    split
    · rename_i refused
      constructor
      · nofun
      · rintro ⟨rfl, positive, safe⟩
        rcases refused with notSafe | small
        · exact absurd safe notSafe
        · omega
    · rename_i accepted
      rw [not_or, not_not, Int.not_lt] at accepted
      constructor
      · intro same
        cases same
        exact ⟨rfl, accepted.2, accepted.1⟩
      · rintro ⟨rfl, _⟩
        rfl

theorem assertDiscount_ok_iff {value : JsNumber} {lowest highest : Int} {message : String} :
    assertDiscount value lowest highest message = .ok discountBps ↔
      value = .integer discountBps ∧ lowest ≤ discountBps ∧ discountBps ≤ highest := by
  cases value with
  | other => simp only [assertDiscount, reduceCtorEq, false_and]
  | integer stored =>
    simp only [assertDiscount, JsNumber.integer.injEq]
    split
    · rename_i refused
      constructor
      · nofun
      · rintro ⟨rfl, least, most⟩
        omega
    · rename_i accepted
      constructor
      · intro same
        cases same
        exact ⟨rfl, by omega, by omega⟩
      · rintro ⟨rfl, _⟩
        rfl

theorem roundRatioHalfUp_ok_iff {numerator denominator result : Int} :
    roundRatioHalfUp numerator denominator = .ok result ↔
      0 ≤ numerator ∧ 0 < denominator ∧ result = round ((numerator : ℚ) / denominator) ∧ IsSafe result := by
  unfold roundRatioHalfUp
  split
  · rename_i refused
    constructor
    · nofun
    · rintro ⟨nonnegative, positive, _⟩
      omega
  · rename_i admitted
    have nonnegative : 0 ≤ numerator := by omega
    have positive : 0 < denominator := by omega
    simp only [halfUp_eq_round nonnegative positive, isSafe_toDouble_iff]
    constructor
    · intro done
      split at done
      · cases done
      · rename_i safe
        rw [not_not] at safe
        rw [toDouble_of_safe safe] at done
        cases done
        exact ⟨nonnegative, positive, rfl, safe⟩
    · rintro ⟨_, _, rfl, safe⟩
      rw [if_neg (not_not.mpr safe), toDouble_of_safe safe]

/-- An amount between nothing and a safe one is safe. -/
theorem isSafe_of_le {value bound : Int} (nonnegative : 0 ≤ value) (le : value ≤ bound) (safe : IsSafe bound) :
    IsSafe value := by
  unfold IsSafe at *
  omega

theorem toDouble_share (lowest : 0 ≤ discountBps) (highest : discountBps ≤ 10000) :
    toDouble (10000 - discountBps) = 10000 - discountBps :=
  toDouble_of_safe (isSafe_of_le (by omega) (by omega : 10000 - discountBps ≤ 10000) (by decide))

theorem applyOfferDiscount_ok_iff {catalogAmountMinor discount : JsNumber} {offer : OfferPricing} :
    applyOfferDiscount catalogAmountMinor discount = .ok offer ↔
      Exists fun amount => Exists fun discountBps =>
        catalogAmountMinor = .integer amount ∧ discount = .integer discountBps ∧ 1 ≤ amount ∧ IsSafe amount ∧
          0 ≤ discountBps ∧ discountBps ≤ 10000 ∧ OfferExact amount discountBps offer := by
  simp only [applyOfferDiscount, check_bind_ok_iff, assertMinorUnits_ok_iff, assertDiscount_ok_iff,
    roundRatioHalfUp_ok_iff, rejectIf_ok_iff, check_pure_ok_iff, offerDiscountMinBps, offerDiscountMaxBps]
  constructor
  · rintro ⟨amount, ⟨isAmount, positive, safe⟩, discountBps, ⟨isDiscount, lowest, highest⟩, final,
      ⟨_, _, isFinal, _⟩, _, _, same⟩
    rw [toDouble_share lowest highest] at isFinal
    have bounds := discounted_bounds (by omega : 0 ≤ amount) lowest highest
    have isDiscounted : final = discounted amount discountBps := isFinal
    rw [← isDiscounted] at bounds
    have rest : toDouble (amount - final) = amount - final :=
      toDouble_of_safe (isSafe_of_le (by omega) (by omega : amount - final ≤ amount) safe)
    rw [rest] at same
    cases same
    exact ⟨amount, discountBps, isAmount, isDiscount, positive, safe, lowest, highest,
      rfl, rfl, isDiscounted, bounds.1, bounds.2, Int.sub_add_cancel amount final⟩
  · rintro ⟨amount, discountBps, isAmount, isDiscount, positive, safe, lowest, highest, exactly⟩
    rcases offer with ⟨catalog, bps, reduction, final⟩
    have catalogSame := exactly.catalog
    have bpsSame := exactly.discount
    have isFinal := exactly.exact
    have nonnegative := exactly.nonnegative
    have bounded := exactly.bounded
    have sum := exactly.sum
    simp only at catalogSame bpsSame isFinal nonnegative bounded sum
    subst catalogSame bpsSame
    have rest : toDouble (catalog - final) = reduction := by
      rw [toDouble_of_safe (isSafe_of_le (by omega) (by omega : catalog - final ≤ catalog) safe)]
      omega
    refine ⟨catalog, ⟨isAmount, positive, safe⟩, bps, ⟨isDiscount, lowest, highest⟩, final,
      ⟨?_, by decide, ?_, isSafe_of_le nonnegative bounded safe⟩, (), by omega, ?_⟩
    · rw [toDouble_share lowest highest]
      exact Int.mul_nonneg (by omega) (by omega)
    · rw [toDouble_share lowest highest]
      exact isFinal
    · rw [rest]

/-- A twelfth of an amount is no more than what the amount is twelve times of. -/
theorem round_twelfth_le {annual monthly : Int} (le : annual ≤ 12 * monthly) :
    round ((annual : ℚ) / 12) ≤ monthly := by
  have rational : (annual : ℚ) ≤ 12 * monthly := by exact_mod_cast le
  have whole : round (monthly : ℚ) = monthly := round_intCast monthly
  apply le_trans (round_mono (by linarith : _ ≤ (monthly : ℚ)))
  exact whole.le

theorem calculateAnnualPricing_ok_iff {monthlyAmountMinor discount : JsNumber} {pricing : AnnualPricing} :
    calculateAnnualPricing monthlyAmountMinor discount = .ok pricing ↔
      Exists fun monthly => Exists fun discountBps =>
        monthlyAmountMinor = .integer monthly ∧ discount = .integer discountBps ∧ 1 ≤ monthly ∧
          IsSafe (12 * monthly) ∧ 0 ≤ discountBps ∧ discountBps ≤ 1000 ∧ AnnualExact monthly discountBps pricing := by
  simp only [calculateAnnualPricing, check_bind_ok_iff, assertMinorUnits_ok_iff, assertDiscount_ok_iff,
    roundRatioHalfUp_ok_iff, rejectIf_ok_iff, check_pure_ok_iff, annualDiscountMinBps, annualDiscountMaxBps,
    isSafe_toDouble_iff, not_not]
  constructor
  · rintro ⟨monthly, ⟨isMonthly, positive, _⟩, discountBps, ⟨isDiscount, lowest, highest⟩, _, safe, annual,
      ⟨_, _, isAnnual, _⟩, effective, ⟨_, _, isEffective, _⟩, same⟩
    rw [Int.mul_comm] at safe
    have isGross : toDouble (monthly * 12) = 12 * monthly := by
      rw [Int.mul_comm, toDouble_of_safe safe]
    have admitted : discountBps ≤ 10000 := by omega
    rw [isGross, toDouble_share lowest admitted] at isAnnual
    have bounds := discounted_bounds (by omega : 0 ≤ 12 * monthly) lowest admitted
    have isDiscounted : annual = discounted (12 * monthly) discountBps := isAnnual
    rw [← isDiscounted] at bounds
    have savings : toDouble (12 * monthly - annual) = 12 * monthly - annual :=
      toDouble_of_safe (isSafe_of_le (by omega) (by omega : 12 * monthly - annual ≤ 12 * monthly) safe)
    rw [isGross, savings] at same
    cases same
    exact ⟨monthly, discountBps, isMonthly, isDiscount, positive, safe, lowest, highest,
      rfl, rfl, rfl, isDiscounted, bounds.1, bounds.2, Int.sub_add_cancel _ _, isEffective,
      isEffective.trans_le (round_twelfth_le bounds.2)⟩
  · rintro ⟨monthly, discountBps, isMonthly, isDiscount, positive, safe, lowest, highest, exactly⟩
    rcases pricing with ⟨source, bps, gross, annual, savings, effective⟩
    have sourceSame := exactly.source
    have bpsSame := exactly.discount
    have isGross := exactly.gross
    have isAnnual := exactly.exact
    have nonnegative := exactly.nonnegative
    have bounded := exactly.bounded
    have sum := exactly.sum
    have isEffective := exactly.effective
    have effectiveBounded := exactly.effectiveBounded
    simp only at sourceSame bpsSame isGross isAnnual nonnegative bounded sum isEffective effectiveBounded
    subst sourceSame bpsSame isGross
    have admitted : bps ≤ 10000 := by omega
    have monthlySafe : IsSafe source := isSafe_of_le (by omega) (by omega : source ≤ 12 * source) safe
    have isGross : toDouble (source * 12) = 12 * source := by
      rw [Int.mul_comm, toDouble_of_safe safe]
    have isSavings : toDouble (12 * source - annual) = savings := by
      rw [toDouble_of_safe (isSafe_of_le (by omega) (by omega : 12 * source - annual ≤ 12 * source) safe)]
      omega
    have effectiveNonnegative : 0 ≤ effective := by
      rw [isEffective, ← @round_zero ℚ]
      apply round_mono
      have rational : (0 : ℚ) ≤ annual := by exact_mod_cast nonnegative
      linarith
    refine ⟨source, ⟨isMonthly, positive, monthlySafe⟩, bps, ⟨isDiscount, lowest, highest⟩, (), ?_, annual,
      ⟨?_, by decide, ?_, isSafe_of_le nonnegative bounded safe⟩, effective,
      ⟨nonnegative, by decide, isEffective, isSafe_of_le effectiveNonnegative effectiveBounded monthlySafe⟩, ?_⟩
    · rw [Int.mul_comm]
      exact safe
    · rw [isGross, toDouble_share lowest admitted]
      exact Int.mul_nonneg (by omega) (by omega)
    · rw [isGross, toDouble_share lowest admitted]
      exact isAnnual
    · rw [isGross, isSavings]

/-- Money is computed exactly: every price that comes out is the exact one,
rounded half up, and what comes out is what can be written as a number. -/
theorem moneyArithmetic_exact :
    (forall numerator denominator result : Int, roundRatioHalfUp numerator denominator = .ok result ↔
      0 ≤ numerator ∧ 0 < denominator ∧ result = round ((numerator : ℚ) / denominator) ∧ IsSafe result) ∧
    (forall (catalogAmountMinor discount : JsNumber) (offer : OfferPricing),
      applyOfferDiscount catalogAmountMinor discount = .ok offer ↔
        Exists fun amount => Exists fun discountBps =>
          catalogAmountMinor = .integer amount ∧ discount = .integer discountBps ∧ 1 ≤ amount ∧ IsSafe amount ∧
            0 ≤ discountBps ∧ discountBps ≤ 10000 ∧ OfferExact amount discountBps offer) ∧
    (forall (amount larger discountBps smaller : Int) (offer better : OfferPricing),
      applyOfferDiscount (.integer amount) (.integer discountBps) = .ok offer ->
      applyOfferDiscount (.integer larger) (.integer smaller) = .ok better ->
      amount ≤ larger -> smaller ≤ discountBps -> offer.finalAmountMinor ≤ better.finalAmountMinor) ∧
    (forall (monthlyAmountMinor discount : JsNumber) (pricing : AnnualPricing),
      calculateAnnualPricing monthlyAmountMinor discount = .ok pricing ↔
        Exists fun monthly => Exists fun discountBps =>
          monthlyAmountMinor = .integer monthly ∧ discount = .integer discountBps ∧ 1 ≤ monthly ∧
            IsSafe (12 * monthly) ∧ 0 ≤ discountBps ∧ discountBps ≤ 1000 ∧
            AnnualExact monthly discountBps pricing) := by
  refine ⟨fun _ _ _ => roundRatioHalfUp_ok_iff, fun _ _ _ => applyOfferDiscount_ok_iff, ?_,
    fun _ _ _ => calculateAnnualPricing_ok_iff⟩
  intro amount larger discountBps smaller offer better computed computedBetter le less
  rcases applyOfferDiscount_ok_iff.mp computed with
    ⟨_, _, ⟨⟩, ⟨⟩, positive, _, _, highest, exactly⟩
  rcases applyOfferDiscount_ok_iff.mp computedBetter with ⟨_, _, ⟨⟩, ⟨⟩, _, _, _, _, exactlyBetter⟩
  rw [exactly.exact, exactlyBetter.exact]
  exact discounted_mono (by omega) le less highest

theorem moneyArithmetic_exact_halfPrice :
    applyOfferDiscount (.integer 10001) (.integer 5000) = .ok ⟨10001, 5000, 5000, 5001⟩ ∧ (5001 : Int) ≤ 10001 := by
  have half : applyOfferDiscount (.integer 10001) (.integer 5000) = .ok ⟨10001, 5000, 5000, 5001⟩ := by rfl
  have whole : applyOfferDiscount (.integer 10001) (.integer 0) = .ok ⟨10001, 0, 0, 10001⟩ := by rfl
  exact ⟨half, moneyArithmetic_exact.2.2.1 10001 10001 5000 0 _ _ half whole (by decide) (by decide)⟩

end Pricing
end Offers
end DigitalSolutions
