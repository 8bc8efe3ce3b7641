import BuildSummary.Text.Basic

/-!
# Numbers in a log

Counts are written in decimal and stay below a bound; a single plus sign may stand before one that
is read.

## Main definitions

* `Text.numberBound`: the bound, `2 ^ 64`
* `Text.digits?`: the value of a run of ASCII digits, if it is below the bound
* `Text.number?`: the same with an optional plus sign
* `Text.decimal`: the digits of a number

## Main results

* `Text.digits?_decimal`, `Text.number?_decimal`: reading undoes writing
-/

namespace BuildSummary.Text

/-- Whether the text is a nonempty run of ASCII digits. -/
def isDigits (text : Text) : Bool :=
  !text.isEmpty && text.all Char.isDigit

/-- Numbers that are read stay below `2 ^ 64`. -/
def numberBound : Nat := 18446744073709551616

/-- The value of a run of ASCII digits, if it is below the bound. -/
def digits? (text : Text) : Option Nat :=
  let value := Nat.ofDigitChars 10 text 0
  if text.isDigits && value < numberBound then some value else none

/-- The value of a run of ASCII digits after an optional plus sign, if it is below the bound. -/
def number? : Text → Option Nat
  | '+' :: rest => digits? rest
  | text => digits? text

/-- The decimal digits of a number, without leading zeros. -/
def decimal (n : Nat) : Text :=
  Nat.toDigits 10 n

/-! ## Reading undoes writing -/

theorem decimal_ne_nil (n : Nat) : decimal n ≠ [] :=
  Nat.toDigits_ne_nil

theorem isDigit_of_mem_decimal {n : Nat} {c : Char} (h : c ∈ decimal n) : c.isDigit = true :=
  Nat.isDigit_of_mem_toDigits (by decide) (by decide) h

/-- A decimal has no character that is not a digit. -/
theorem not_mem_decimal {n : Nat} {c : Char} (h : c.isDigit = false) : c ∉ decimal n := by
  intro hmem
  rw [isDigit_of_mem_decimal hmem] at h
  cases h

theorem isDigits_decimal (n : Nat) : (decimal n).isDigits = true := by
  unfold isDigits
  rw [Bool.and_eq_true, List.all_eq_true]
  refine ⟨?_, fun c hc => isDigit_of_mem_decimal hc⟩
  simp [decimal_ne_nil]

/-- **Reading undoes writing** below the bound. -/
theorem digits?_decimal {n : Nat} (h : n < numberBound) : digits? (decimal n) = some n := by
  have hvalue : Nat.ofDigitChars 10 (decimal n) 0 = n :=
    Nat.ofDigitChars_toDigits (by decide) (by decide)
  simp [digits?, hvalue, isDigits_decimal, h]

theorem number?_decimal {n : Nat} (h : n < numberBound) : number? (decimal n) = some n := by
  unfold number?
  split
  · rename_i rest heq
    have hplus : '+' ∈ decimal n := heq ▸ List.mem_cons_self
    exact absurd hplus (not_mem_decimal (by decide))
  · exact digits?_decimal h

end BuildSummary.Text
