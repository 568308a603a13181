import Mathlib.Algebra.Group.Nat.Defs
import Mathlib.Data.List.Basic

/-!
# Shortest decimals

`std::to_chars` of C++ writes a floating point value with the fewest characters that read back as
the value, as the closest such number, and prefers fixed to scientific notation. The comparisons
are between integers: a value is `4 * mantissa` quarters of its last place.
-/

namespace Menagerie.ShortestDecimal

open Float.Model List

/-- A positive binary number; `narrow` if the next one below is half a place away. -/
structure Binary where
  mantissa : Nat
  exponent : Int
  narrow : Bool
  positive : 0 < mantissa

/-- A whole number with a fraction. -/
def decimalText (whole : Nat) (fraction : List Char) : List Char :=
  Nat.toDigits 10 whole ++ if fraction = [] then [] else '.' :: fraction

/-- A number with leading zeros up to a width. -/
def padded (width n : Nat) : List Char :=
  replicate (width - (Nat.toDigits 10 n).length) '0' ++ Nat.toDigits 10 n

namespace Binary

variable (x : Binary)

/-- `10 ^ power`, scaled so that a quarter of the last place is an integer. -/
def unit (power : Int) : Nat := 10 ^ power.toNat * 2 ^ (2 - x.exponent).toNat

/-- A quarter of the last place, in that scale. -/
def quarter (power : Int) : Nat := 2 ^ (x.exponent - 2).toNat * 10 ^ (-power).toNat

/-- The midpoint to the next number below. -/
def low (power : Int) : Nat := (4 * x.mantissa - if x.narrow then 1 else 2) * x.quarter power

/-- The midpoint to the next number above. -/
def high (power : Int) : Nat := (4 * x.mantissa + 2) * x.quarter power

/-- Reading `digits * 10 ^ power` gives `x`; the midpoints belong to an even mantissa. -/
def ReadsBack (power : Int) (digits : Nat) : Prop :=
  x.low power ≤ digits * x.unit power ∧ digits * x.unit power ≤ x.high power ∧
    (x.mantissa % 2 = 0 ∨ digits * x.unit power ≠ x.low power ∧
      digits * x.unit power ≠ x.high power)

instance (power : Int) (digits : Nat) : Decidable (x.ReadsBack power digits) :=
  instDecidableAnd

/-- The multiple of `10 ^ power` closest to `x`, if it reads back. -/
def nearest (power : Int) : Option Nat :=
  let value := 4 * x.mantissa * x.quarter power
  let below := value / x.unit power
  let middle := (2 * below + 1) * x.unit power
  let closer := if 2 * value < middle ∨ 2 * value = middle ∧ below % 2 = 0 then
    [below, below + 1] else [below + 1, below]
  closer.find? (x.ReadsBack power ·)

/-- The exact decimal of `x`. -/
def exact : Nat × Int :=
  (x.mantissa * 2 ^ x.exponent.toNat * 5 ^ (-x.exponent).toNat, min x.exponent 0)

/-- The digits and the power of the shortest decimal that reads back as `x`: the powers are tried
downwards from one above `x`. -/
def shortest : Nat × Int :=
  let top := (x.mantissa.log2 + 1 + x.exponent).toNat
  ((range (top + (-x.exponent).toNat + 1)).findSome? fun (i : Nat) =>
    (x.nearest (top - i)).map (·, (top - i : Int))).getD x.exact

/-- The whole part in fixed notation, where all digits count. -/
def whole : Nat :=
  let (digits, power) := x.shortest
  if 0 ≤ power then (x.nearest 0).getD (digits * 10 ^ power.toNat)
  else digits / 10 ^ (-power).toNat

/-- The fraction in fixed notation. -/
def fraction : List Char :=
  let (digits, power) := x.shortest
  if 0 ≤ power then [] else padded (-power).toNat (digits % 10 ^ (-power).toNat)

/-- Fixed notation. -/
def fixed : List Char := decimalText x.whole x.fraction

/-- Scientific notation, with two or more digits in the exponent. -/
def scientific : List Char :=
  let digits := Nat.toDigits 10 x.shortest.1
  let exponent := x.shortest.2 + digits.length - 1
  digits.take 1 ++ (if digits.drop 1 = [] then [] else '.' :: digits.drop 1) ++
    'e' :: (if exponent < 0 then '-' else '+') :: padded 2 exponent.natAbs

/-- Fixed notation is not longer. -/
def IsFixed : Prop := x.fixed.length ≤ x.scientific.length

instance : Decidable x.IsFixed := inferInstanceAs (Decidable (_ ≤ _))

def text : List Char := if x.IsFixed then x.fixed else x.scientific

end Binary

def signText : UnpackedFloat.Sign → List Char
  | .positive => []
  | .negative => ['-']

/-- The magnitude of a finite value of a format. -/
def magnitude (format : Format) (mantissa : Nat) (exponent : Int) (positive : 0 < mantissa) :
    Binary where
  mantissa := mantissa
  exponent := exponent
  narrow := mantissa = 2 ^ (format.mantissaBits - 1) ∧ format.minExponent < exponent
  positive := positive

/-- `std::to_chars(first, last, value)`; NaN has no sign. -/
def toChars (format : Format) : UnpackedFloat → List Char
  | .notANumber => "nan".toList
  | .infinity sign => signText sign ++ "inf".toList
  | .zero sign => signText sign ++ "0".toList
  | .finite sign mantissa exponent positive =>
    signText sign ++ (magnitude format mantissa exponent positive).text

example : toChars .binary64 (2.3 : Float).toModel.unpack = "2.3".toList := by decide +kernel
example : toChars .binary64 (1e5 : Float).toModel.unpack = "1e+05".toList := by decide +kernel
example : toChars .binary32 (-1e-45 : Float32).toModel.unpack = "-1e-45".toList := by decide +kernel

theorem isDigit_toDigits (n : Nat) : ∀ c ∈ Nat.toDigits 10 n, c.isDigit := fun _ member =>
  Nat.isDigit_of_mem_toDigits (by decide) (by decide) member

theorem isDigit_padded (width n : Nat) : ∀ c ∈ padded width n, c.isDigit := by
  intro c member
  rcases mem_append.mp member with zero | digit
  · rw [eq_of_mem_replicate zero]
    decide
  · exact isDigit_toDigits n c digit

theorem padded_ne_nil (width n : Nat) : padded width n ≠ [] :=
  append_ne_nil_of_right_ne_nil _ Nat.toDigits_ne_nil

/-- The whole part is what stands before the point. -/
theorem takeWhile_decimalText (whole : Nat) (fraction : List Char) :
    (decimalText whole fraction).takeWhile Char.isDigit = Nat.toDigits 10 whole := by
  rw [decimalText, takeWhile_append_of_pos (isDigit_toDigits whole)]
  split <;> simp [Char.isDigit]

/-- A number determines its whole part and fraction. -/
theorem decimalText_inj {whole other : Nat} {fraction others : List Char}
    (same : decimalText whole fraction = decimalText other others) :
    whole = other ∧ fraction = others := by
  have wholes : Nat.toDigits 10 whole = Nat.toDigits 10 other := by
    rw [← takeWhile_decimalText whole fraction, same, takeWhile_decimalText]
  have equal : whole = other := by
    rw [← Nat.ofDigitChars_ten_toDigits (n := whole), wholes, Nat.ofDigitChars_ten_toDigits]
  subst equal
  refine ⟨rfl, ?_⟩
  have tails := append_cancel_left same
  split at tails <;> split at tails <;> simp_all

/-- Only digits stand behind the point. -/
theorem not_mem_decimalText {whole : Nat} {fraction : List Char}
    (digits : ∀ c ∈ fraction, c.isDigit) : 'e' ∉ decimalText whole fraction := by
  have letter : Char.isDigit 'e' = false := by decide
  intro member
  rcases mem_append.mp member with digit | tail
  · exact absurd (isDigit_toDigits whole _ digit) (by rw [letter]; decide)
  · split at tail
    · cases tail
    · rcases mem_cons.mp tail with point | digit
      · exact absurd point (by decide)
      · exact absurd (digits _ digit) (by rw [letter]; decide)

namespace Binary

variable {x : Binary}

/-- Zero is never read back as a positive number. -/
theorem ReadsBack.pos {power : Int} {digits : Nat} (reads : x.ReadsBack power digits) :
    0 < digits := by
  have place : 0 < x.quarter power :=
    Nat.mul_pos (Nat.pow_pos (by decide)) (Nat.pow_pos (by decide))
  have above : 0 < x.low power := by
    have positive := x.positive
    refine Nat.mul_pos ?_ place
    split <;> omega
  refine Nat.pos_of_ne_zero fun zero => ?_
  have least := reads.1
  rw [zero, Nat.zero_mul] at least
  omega

theorem nearest_readsBack {power : Int} {digits : Nat} (near : x.nearest power = some digits) :
    x.ReadsBack power digits := by
  have found := find?_some near
  exact of_decide_eq_true found

variable (x)

theorem exact_pos : 0 < x.exact.1 :=
  Nat.mul_pos (Nat.mul_pos x.positive (Nat.pow_pos (by decide))) (Nat.pow_pos (by decide))

theorem shortest_pos : 0 < x.shortest.1 := by
  unfold shortest
  dsimp only
  cases found : findSome? _ _ with
  | none => exact x.exact_pos
  | some decimal =>
    obtain ⟨i, -, here⟩ := exists_of_findSome?_eq_some found
    obtain ⟨digits, near, rfl⟩ := Option.map_eq_some_iff.mp here
    exact (nearest_readsBack near).pos

/-- Fixed notation of a positive number is not `0`. -/
theorem fixed_ne_zero : x.fixed ≠ decimalText 0 [] := by
  intro zero
  obtain ⟨whole, fraction⟩ := decimalText_inj zero
  by_cases integer : 0 ≤ x.shortest.2
  · simp only [Binary.whole, if_pos integer] at whole
    cases near : x.nearest 0 with
    | none =>
      have positive := Nat.mul_pos x.shortest_pos (Nat.pow_pos (n := x.shortest.2.toNat)
        (show 0 < 10 by decide))
      simp only [near, Option.getD_none] at whole
      omega
    | some digits =>
      have positive := (nearest_readsBack near).pos
      simp only [near, Option.getD_some] at whole
      omega
  · simp only [Binary.fraction, if_neg integer] at fraction
    exact padded_ne_nil _ _ fraction

theorem isDigit_fraction : ∀ c ∈ x.fraction, c.isDigit := by
  unfold fraction
  dsimp only
  split
  · simp
  · exact isDigit_padded _ _

theorem mem_scientific : 'e' ∈ x.scientific := by
  simp [scientific]

end Binary

end Menagerie.ShortestDecimal
