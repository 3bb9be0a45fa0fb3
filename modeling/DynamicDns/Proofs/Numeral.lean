import DynamicDns.Text.Numeral

/-!
# Written numerals

A written numeral has at least one character, and each of its characters is a digit of the base. What
a place admits of digits it therefore admits of every number. A numeral of a number below a power of
the base has at most as many digits as the exponent says, and only zero begins with a zero.
-/

namespace DynamicDns.Text.Numeral

theorem write_ne_nil (base n : Nat) : write base n ≠ [] := by
  rw [write]
  split
  · exact List.cons_ne_nil _ _
  · exact List.append_ne_nil_of_right_ne_nil _ (List.cons_ne_nil _ _)

theorem mem_write {base n : Nat} (hb : 2 ≤ base) {c : Char} (h : c ∈ write base n) :
    ∃ d < base, c = digit d := by
  induction n using Nat.strongRecOn with
  | _ n ih =>
    rw [write] at h
    split at h
    · next hn =>
      have hlt : n < base := by omega
      exact ⟨n, hlt, List.mem_singleton.1 h⟩
    · next hn =>
      have hdiv : n / base < n := Nat.div_lt_self (by omega) (by omega)
      rcases List.mem_append.1 h with hinit | hlast
      · exact ih (n / base) hdiv hinit
      · exact ⟨n % base, Nat.mod_lt _ (by omega), List.mem_singleton.1 hlast⟩

/-- A condition on the ten digits holds of all characters of a decimal numeral. -/
theorem forall_mem_write_ten {p : Char → Prop} (h : ∀ d < 10, p (digit d)) (n : Nat) :
    ∀ c ∈ write 10 n, p c := by
  intro c hc
  obtain ⟨d, hd, rfl⟩ := mem_write (by omega) hc
  exact h d hd

theorem exists_write_eq_cons (base : Nat) (hb : 2 ≤ base) (n : Nat) :
    ∃ d < base, ∃ rest, write base n = digit d :: rest := by
  cases hdigits : write base n with
  | nil => exact absurd hdigits (write_ne_nil base n)
  | cons c rest =>
    obtain ⟨d, hd, rfl⟩ : ∃ d < base, c = digit d := mem_write hb (hdigits ▸ List.mem_cons_self)
    exact ⟨d, hd, rest, rfl⟩

theorem isDigit_digit {base d : Nat} (hd : d < base) (hb : base ≤ 16) :
    isDigit base (digit d) = true := by
  rw [isDigit, digitValue?_digit hd hb, Option.isSome_some]

theorem isDigit_of_mem_write {base n : Nat} (hb : 2 ≤ base) (hb' : base ≤ 16) {c : Char}
    (h : c ∈ write base n) : isDigit base c = true := by
  obtain ⟨d, hd, rfl⟩ := mem_write hb h
  exact isDigit_digit hd hb'

theorem length_write_le {base : Nat} (hb : 2 ≤ base) (places n : Nat)
    (h : n < Nat.pow base (places + 1)) : (write base n).length ≤ places + 1 := by
  induction places generalizing n with
  | zero =>
    have hn : n < base := by simpa using h
    have hone : (write base n).length = 1 := by
      rw [write, if_pos (Or.inl hn), List.length_singleton]
    exact Nat.le_of_eq hone
  | succ places ih =>
    rw [write]
    split
    · rw [List.length_singleton]
      omega
    · have hdiv : n / base < Nat.pow base (places + 1) :=
        (Nat.div_lt_iff_lt_mul (by omega)).2 h
      rw [List.length_append, List.length_singleton]
      exact Nat.succ_le_succ (ih _ hdiv)

theorem head?_write_ne_zero {base n : Nat} (hb : 2 ≤ base) (hb' : base ≤ 16) (hn : n ≠ 0) :
    (write base n).head? ≠ some '0' := by
  have hdigit : ∀ d < 16, d ≠ 0 → digit d ≠ '0' := by decide
  induction n using Nat.strongRecOn with
  | _ n ih =>
    rw [write]
    split
    · next h =>
      have hlt : n < 16 := by omega
      simpa using hdigit n hlt hn
    · next h =>
      have hdiv : n / base < n := Nat.div_lt_self (by omega) (by omega)
      have hpos : n / base ≠ 0 := Nat.div_ne_zero_iff.2 ⟨by omega, by omega⟩
      obtain ⟨d, hd, rest, hwrite⟩ := exists_write_eq_cons base hb (n / base)
      have hhead := ih _ hdiv hpos
      rw [hwrite] at hhead ⊢
      exact hhead

@[simp]
theorem toList_decimal (n : Nat) : (decimal n).toList = write 10 n := by
  rw [decimal, String.toList_ofList]

/-- A text that does not begin with a digit is no decimal numeral. -/
theorem decimal_ne {text : String} (h : ∀ d < 10, text.toList.head? ≠ some (digit d)) (n : Nat) :
    decimal n ≠ text := by
  intro h
  subst h
  obtain ⟨d, hd, rest, hdigits⟩ := exists_write_eq_cons 10 (by omega) n
  apply h d hd
  rw [toList_decimal, hdigits, List.head?_cons]

end DynamicDns.Text.Numeral
