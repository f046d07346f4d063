import Mathlib.Data.Nat.Digits
import Mathlib.Tactic.IntervalCases

/-!
# Decimal text of counters

The services print counters into the identifiers they hand out: the subscription id
`format!("sub-{}-{}", peer, count)` and the task id `format!("task-{:04}", n)`. Rust's `{}` on an
unsigned integer prints its decimal digits, which is Lean's `Nat.toDigits 10`, and `{:04}` pads
them with zeros to width four (`zeroPad`).

The digits read back to the number (`decimalValue_toDigits`), leading zeros do not change the
value (`decimalValue_zeroPad`), and no digit is a `'-'` or a `'/'` (`mem_toDigits`), so a number
is recovered from the text after the last `'-'` of an identifier or the last `'/'` of an address.
-/

namespace KameoRpc

/-- The number a list of decimal digits denotes, most significant digit first. -/
def decimalValue (ds : List Char) : Nat :=
  ds.foldl (fun acc d => 10 * acc + (d.toNat - 48)) 0

/-- Rust's `{:0w}`: the text padded on the left with `'0'` to at least `w` characters. -/
def zeroPad (w : Nat) (s : String) : String :=
  ⟨List.replicate (w - s.length) '0' ++ s.data⟩

theorem digitChar_toNat {d : Nat} (h : d < 10) : (Nat.digitChar d).toNat = 48 + d := by
  interval_cases d <;> rfl

/-- `Nat.toDigitsCore` with enough fuel prepends the digits of `n` to the accumulator. -/
private theorem foldl_toDigitsCore {fuel n : Nat} (ds : List Char) (h : n < fuel) :
    (Nat.toDigitsCore 10 fuel n ds).foldl (fun acc d => 10 * acc + (d.toNat - 48)) 0 =
      ds.foldl (fun acc d => 10 * acc + (d.toNat - 48)) n := by
  induction fuel generalizing n ds with
  | zero => omega
  | succ fuel ih =>
    have hd := digitChar_toNat (Nat.mod_lt n (by decide : 10 > 0))
    simp only [Nat.toDigitsCore]
    split
    · simp only [List.foldl_cons, hd]; congr 1; omega
    · rw [ih _ (by omega)]; simp only [List.foldl_cons, hd]; congr 1; omega

theorem decimalValue_toDigits (n : Nat) : decimalValue (Nat.toDigits 10 n) = n :=
  foldl_toDigitsCore [] (Nat.lt_succ_self n)

private theorem toDigitsCore_isDigit {fuel n : Nat} {ds : List Char}
    (hds : ∀ c ∈ ds, 48 ≤ c.toNat ∧ c.toNat < 58) :
    ∀ c ∈ Nat.toDigitsCore 10 fuel n ds, 48 ≤ c.toNat ∧ c.toNat < 58 := by
  induction fuel generalizing n ds with
  | zero => exact hds
  | succ fuel ih =>
    have hd := digitChar_toNat (Nat.mod_lt n (by decide : 10 > 0))
    have hcons : ∀ c ∈ Nat.digitChar (n % 10) :: ds, 48 ≤ c.toNat ∧ c.toNat < 58 := by
      simp only [List.mem_cons, forall_eq_or_imp, hd]
      exact ⟨by omega, hds⟩
    simp only [Nat.toDigitsCore]
    split
    · exact hcons
    · exact ih hcons

/-- Every character of a decimal text is one of `'0'` to `'9'`. -/
theorem mem_toDigits {c : Char} {n : Nat} (h : c ∈ Nat.toDigits 10 n) :
    48 ≤ c.toNat ∧ c.toNat < 58 :=
  toDigitsCore_isDigit (by simp) c h

theorem dash_not_mem_toDigits (n : Nat) : '-' ∉ Nat.toDigits 10 n := fun h => by
  simpa using mem_toDigits h

theorem slash_not_mem_toDigits (n : Nat) : '/' ∉ Nat.toDigits 10 n := fun h => by
  simpa using mem_toDigits h

/-- Zeros in front of a digit string do not change its value. -/
theorem decimalValue_replicate_append (k : Nat) (ds : List Char) :
    decimalValue (List.replicate k '0' ++ ds) = decimalValue ds := by
  induction k with
  | zero => rfl
  | succ k ih => simpa [decimalValue, List.replicate_succ] using ih

theorem decimalValue_zeroPad (w n : Nat) : decimalValue (zeroPad w (toString n)).data = n := by
  simpa [zeroPad, decimalValue_replicate_append] using decimalValue_toDigits n

/-! ## Counters of type `u64` -/

/-- `+= 1` on a `u64`, as a release build wraps it. -/
theorem UInt64.toNat_add_one (a : UInt64) : (a + 1).toNat = (a.toNat + 1) % UInt64.size := by
  simp [UInt64.toNat, UInt64.add_def]

theorem UInt64.toNat_add_one_of_lt {a : UInt64} (h : a.toNat + 1 < UInt64.size) :
    (a + 1).toNat = a.toNat + 1 := by
  rw [UInt64.toNat_add_one, Nat.mod_eq_of_lt h]

/-- A counter that every step bumps by one counts the steps of a run, modulo `2 ^ 64`. -/
theorem UInt64.toNat_foldl_of_step {S M : Type} (step : S → M → S) (count : S → UInt64)
    (hstep : ∀ s m, count (step s m) = count s + 1) (s : S) (ms : List M) :
    (count (ms.foldl step s)).toNat = ((count s).toNat + ms.length) % UInt64.size := by
  induction ms generalizing s with
  | nil => exact (Nat.mod_eq_of_lt (UInt64.toNat_lt_size _)).symm
  | cons m ms ih =>
    rw [List.foldl_cons, ih, hstep, UInt64.toNat_add_one, Nat.mod_add_mod, List.length_cons]
    congr 1
    omega

/-- Below `2 ^ 64` steps from zero, that counter is exactly the number of steps. -/
theorem UInt64.toNat_foldl_of_step_zero {S M : Type} (step : S → M → S) (count : S → UInt64)
    (hstep : ∀ s m, count (step s m) = count s + 1) {s : S} (hs : count s = 0) {ms : List M}
    (h : ms.length < 2 ^ 64) : (count (ms.foldl step s)).toNat = ms.length := by
  rw [UInt64.toNat_foldl_of_step step count hstep, hs, UInt64.toNat_zero, Nat.zero_add]
  exact Nat.mod_eq_of_lt h

theorem UInt64.decimalValue_toString (n : UInt64) : decimalValue (toString n).data = n.toNat :=
  decimalValue_toDigits n.toNat

theorem UInt64.toString_injective : Function.Injective (toString : UInt64 → String) :=
  fun a b h => UInt64.toNat.inj <| by
    rw [← UInt64.decimalValue_toString a, ← UInt64.decimalValue_toString b, h]

end KameoRpc
