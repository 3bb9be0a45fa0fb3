/-! # Numerals

Digits of a base up to sixteen, in both directions. Writing uses lower case and no leading zero;
reading takes either case and gives a value to every run of digits.
-/

namespace DynamicDns.Text.Numeral

/-- The character of a digit below sixteen. -/
def digit (d : Nat) : Char :=
  if d < 10 then Char.ofNat (d + 48) else Char.ofNat (d + 87)

/-- What a character is worth as a digit, in any base up to sixteen. -/
def hexValue? (c : Char) : Option Nat :=
  let n := c.toNat
  if 48 ≤ n && n ≤ 57 then some (n - 48)
  else if 97 ≤ n && n ≤ 102 then some (n - 87)
  else if 65 ≤ n && n ≤ 70 then some (n - 55)
  else none

def digitValue? (base : Nat) (c : Char) : Option Nat :=
  (hexValue? c).filter (· < base)

def isDigit (base : Nat) (c : Char) : Bool := (digitValue? base c).isSome

/-- The number that a run of digits stands for; characters that are no digits count as zero. -/
def value (base : Nat) (digits : List Char) : Nat :=
  digits.foldl (fun n c => n * base + (digitValue? base c).getD 0) 0

/-- The shortest run of digits for a number. -/
def write (base n : Nat) : List Char :=
  if n < base ∨ base < 2 then [digit n]
  else write base (n / base) ++ [digit (n % base)]
termination_by n
decreasing_by exact Nat.div_lt_self (by omega) (by omega)

def decimal (n : Nat) : String := String.ofList (write 10 n)

theorem digitValue?_digit {base d : Nat} (hd : d < base) (hb : base ≤ 16) :
    digitValue? base (digit d) = some d := by
  have small : ∀ e < 16, hexValue? (digit e) = some e := by decide
  simp [digitValue?, small d (by omega), hd]

theorem value_append (base : Nat) (s : List Char) (c : Char) :
    value base (s ++ [c]) = value base s * base + (digitValue? base c).getD 0 := by
  simp [value]

theorem value_write {base : Nat} (hb : 2 ≤ base) (hb' : base ≤ 16) (n : Nat) :
    value base (write base n) = n := by
  induction n using Nat.strongRecOn with
  | _ n ih =>
    rw [write]
    split
    · next h =>
      have : n < base := by omega
      simp [value, digitValue?_digit this hb']
    · next h =>
      have hn : n / base < n := Nat.div_lt_self (by omega) (by omega)
      have hr : n % base < base := Nat.mod_lt _ (by omega)
      rw [value_append, ih _ hn, digitValue?_digit hr hb', Option.getD_some]
      exact Nat.div_add_mod' n base

end DynamicDns.Text.Numeral
