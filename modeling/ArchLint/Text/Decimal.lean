/-! # Decimal and hexadecimal digits

* `digits`, `ofDigits`, `decimal` — natural numbers in base ten, without leading zeros.
* `ofDigits_digits` — a number is read back from its digits.
* `hexDigit`, `hexValue?` — one hexadecimal digit, written small and read in either case.
-/

namespace ArchLint.Text

/-- The decimal digit of a number below ten. -/
def digitChar (d : Nat) : Char :=
  Char.ofNat (0x30 + d)

/-- The value of a decimal digit. -/
def digitValue (c : Char) : Nat :=
  c.toNat - 0x30

/-- The decimal digits of a number, most significant first. -/
def digits (n : Nat) : List Char :=
  if n < 10 then [digitChar n] else digits (n / 10) ++ [digitChar (n % 10)]
termination_by n

/-- The number that a sequence of decimal digits denotes. -/
def ofDigits (cs : List Char) : Nat :=
  cs.foldl (fun n c => 10 * n + digitValue c) 0

/-- A digit below ten is read back. -/
theorem digitValue_digitChar {d : Nat} (h : d < 10) : digitValue (digitChar d) = d := by
  have : d = 0 ∨ d = 1 ∨ d = 2 ∨ d = 3 ∨ d = 4 ∨ d = 5 ∨ d = 6 ∨ d = 7 ∨ d = 8 ∨ d = 9 := by omega
  rcases this with rfl | rfl | rfl | rfl | rfl | rfl | rfl | rfl | rfl | rfl <;> rfl

/-- Every number has a digit. -/
theorem digits_ne_nil (n : Nat) : digits n ≠ [] := by
  rw [digits]
  split <;> simp

/-- A number is read back from its digits. -/
theorem ofDigits_digits (n : Nat) : ofDigits (digits n) = n := by
  induction n using digits.induct with
  | case1 n h => rw [digits, if_pos h]; simp [ofDigits, digitValue_digitChar h]
  | case2 n h ih =>
    rw [digits, if_neg h, ofDigits, List.foldl_append]
    rw [← ofDigits, ih]
    simp [digitValue_digitChar (Nat.mod_lt n (by decide : 0 < 10))]
    omega

/-- A number in decimal notation. -/
def decimal (n : Nat) : String :=
  String.ofList (digits n)

/-- The hexadecimal digit of a number below sixteen. -/
def hexDigit (d : Nat) : Char :=
  if d < 10 then digitChar d else Char.ofNat (0x61 + (d - 10))

/-- The value of a hexadecimal digit. -/
def hexValue? (c : Char) : Option Nat :=
  if '0' ≤ c && c ≤ '9' then some (c.toNat - 0x30)
  else if 'a' ≤ c && c ≤ 'f' then some (c.toNat - 0x61 + 10)
  else if 'A' ≤ c && c ≤ 'F' then some (c.toNat - 0x41 + 10)
  else none

/-- The value of a sequence of hexadecimal digits. -/
def ofHex? (cs : List Char) : Option Nat :=
  cs.foldlM (fun n c => (hexValue? c).map (16 * n + ·)) 0

end ArchLint.Text
