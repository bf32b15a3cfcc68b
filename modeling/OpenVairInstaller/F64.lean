/-
# `OpenVairInstaller.F64` — the binary64 arithmetic of the progress gauge

`InstallProgress::update_progress` computes its aggregate in `f64`:

    (completed_count as f64) / (self.steps.len() as f64) * 100.0

and `TuiApp::ui` hands `overall_progress as u16` to `Gauge::percent`.  Whether
that value can pass 100 is a question about IEEE 754 rounding, so the model
carries the rounding rather than exact rationals.

A value here is `mant · 2^exp` with a natural mantissa: every value the
aggregate can hold is a finite non-negative double (its operands are counts and
the step total), so signs, infinities and NaN do not arise and are not modelled.
`roundBin` rounds a positive rational to 53 significant bits, ties to even —
`roundTiesToEven`, the mode of Rust's `/`, `*` and `usize as f64`.  The exponent
range is not bounded: the values in play are nowhere near the subnormal or the
overflow range.

Everything is computed with natural-number arithmetic only, so the finitely many
values the gauge can show are checked by `decide` (`Progress.lean`).
-/
import Mathlib.Algebra.Group.Nat.Basic
import Mathlib.Data.Int.Defs

namespace OpenVair

/-- The number of binary digits of `n`, for `n < 2 ^ fuel`; structural in the
fuel so that `decide` evaluates it. -/
def binaryDigits : (fuel n : Nat) → Nat
  | 0, _ => 0
  | fuel + 1, n => if n = 0 then 0 else binaryDigits fuel (n / 2) + 1

/-- `p / q` rounded to the nearest natural number, ties to even. -/
def roundHalfEven (p q : Nat) : Nat :=
  let d := p / q
  let r := p % q
  if 2 * r < q then d else if q < 2 * r then d + 1 else if d % 2 = 0 then d else d + 1

/-- A finite non-negative `f64`: the value `mant · 2^exp`.  The representation is
not normalised; `≤` compares values. -/
structure F64 where
  mant : Nat
  exp : Int
deriving DecidableEq, Repr

namespace F64

/-- `+0.0`, the initial `overall_progress`. -/
def zero : F64 := ⟨0, 0⟩

/-- `p / q · 2^e` (`q > 0`) rounded to a 53-bit mantissa, ties to even.  With
`t` the difference of the operands' digit counts, `p / q` lies in
`(2^(t-1), 2^(t+1))`; scaling by `2^(52-t)`, and once more by 2 when that falls
short of `2^52`, puts the quotient in `[2^52, 2^53)`, where one rounding to an
integer is the IEEE rounding. -/
def roundBin (p q : Nat) (e : Int) : F64 :=
  if p = 0 then zero else
  let t : Int := (binaryDigits 2048 p : Int) - binaryDigits 2048 q
  let k : Int := 52 - t
  let num := if 0 ≤ k then p * 2 ^ k.toNat else p
  let den := if 0 ≤ k then q else q * 2 ^ (-k).toNat
  if num < den * 2 ^ 52 then ⟨roundHalfEven (num * 2) den, e - k - 1⟩
  else ⟨roundHalfEven num den, e - k⟩

/-- `n as f64`. -/
def ofNat (n : Nat) : F64 := roundBin n 1 0

/-- `x / y`, for a divisor `y` with a non-zero mantissa. -/
def div (x y : F64) : F64 := roundBin x.mant y.mant (x.exp - y.exp)

/-- `x * y`. -/
def mul (x y : F64) : F64 := roundBin (x.mant * y.mant) 1 (x.exp + y.exp)

/-- Comparison of values: `mx · 2^ex ≤ my · 2^ey`, at the smaller exponent. -/
def Le (x y : F64) : Prop :=
  if y.exp ≤ x.exp then x.mant * 2 ^ (x.exp - y.exp).toNat ≤ y.mant
  else x.mant ≤ y.mant * 2 ^ (y.exp - x.exp).toNat

instance : LE F64 := ⟨Le⟩

instance (x y : F64) : Decidable (x ≤ y) := inferInstanceAs (Decidable (ite _ _ _))

/-- `x as u16`: Rust's float-to-integer cast truncates toward zero and saturates
at `u16::MAX`. -/
def asU16 (x : F64) : Nat :=
  min (if 0 ≤ x.exp then x.mant * 2 ^ x.exp.toNat else x.mant / 2 ^ (-x.exp).toNat) 65535

@[simp] theorem roundBin_zero (q : Nat) (e : Int) : roundBin 0 q e = zero := rfl

@[simp] theorem ofNat_zero : ofNat 0 = zero := rfl

@[simp] theorem zero_div (y : F64) : zero.div y = zero := rfl

@[simp] theorem zero_mul (y : F64) : zero.mul y = zero := by
  simp [mul, zero]

/-- No value lies below `+0.0`. -/
theorem zero_le (x : F64) : zero ≤ x := by
  show Le zero x
  unfold Le
  split <;> simp [zero]

example : (ofNat 1).div (ofNat 4) = ⟨2 ^ 52, -54⟩ := by decide

end F64

end OpenVair
