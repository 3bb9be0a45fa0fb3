import DynamicDns.Proofs.JsonText
import DynamicDns.Proofs.Numeral

/-!
# Written JSON numbers

Every number is written as a well-formed numeral and is therefore read as a number again, up to the first
character that cannot belong to it. An integer is read as itself. For a floating-point number this is
not so: its shortest text names it among its neighbours only for a reader that takes the nearest number,
and the digits are scaled with roundings instead.
-/

namespace DynamicDns.Json

open Number Text

/-! ## Numerals -/

/-- What may follow a number without being read as a part of it. -/
def EndsNumber (rest : List Char) : Prop :=
  ∀ c ∈ rest.head?, Numeral.isDigit 10 c = false ∧ c ≠ '.' ∧ c ≠ 'e' ∧ c ≠ 'E'

theorem endsNumber_nil : EndsNumber [] := nofun

theorem endsNumber_cons {c : Char} (h : c = ',' ∨ c = ']' ∨ c = '}') (rest : List Char) :
    EndsNumber (c :: rest) := by
  rintro _ ⟨⟩
  rcases h with rfl | rfl | rfl <;> decide

/-- Digits that are read up to a character that is none. -/
theorem leadingDigits_append {digits rest : List Char}
    (hdigits : ∀ c ∈ digits, Numeral.isDigit 10 c = true)
    (hrest : ∀ c ∈ rest.head?, Numeral.isDigit 10 c = false) :
    leadingDigits (digits ++ rest) = digits := by
  have hnone : rest.takeWhile (Numeral.isDigit 10) = [] := by
    cases rest with
    | nil => rfl
    | cons c rest => exact List.takeWhile_cons_of_neg (by simp [hrest c rfl])
  rw [leadingDigits, List.takeWhile_append_of_pos hdigits, hnone, List.append_nil]

namespace Literal

/-- A point before the digits after it. -/
def fractionChars (fraction : List Char) : List Char :=
  if fraction = [] then [] else '.' :: fraction

/-- An exponent with its sign. -/
def exponentChars : Option (Bool × List Char) → List Char
  | none => []
  | some (down, digits) => 'e' :: (if down then '-' else '+') :: digits

/-- A number as it is written, each exponent with a sign. -/
def chars (l : Literal) : List Char :=
  (if l.negative then ['-'] else []) ++
    (l.whole ++ (fractionChars l.fraction ++ exponentChars l.exponent))

/-- The parts are digits, and only a single zero begins with a zero. -/
structure IsWellFormed (l : Literal) : Prop where
  whole : ∀ c ∈ l.whole, Numeral.isDigit 10 c = true
  whole_ne_nil : l.whole ≠ []
  leading : l.whole.head? = some '0' → l.whole = ['0']
  fraction : ∀ c ∈ l.fraction, Numeral.isDigit 10 c = true
  exponent : ∀ part ∈ l.exponent, part.2 ≠ [] ∧ ∀ c ∈ part.2, Numeral.isDigit 10 c = true

variable {l : Literal} {rest : List Char}

/-- Neither an exponent nor what follows a number begins with a digit or a point. -/
theorem head?_exponentChars (exponent : Option (Bool × List Char)) (hrest : EndsNumber rest) :
    ∀ c ∈ (exponentChars exponent ++ rest).head?, Numeral.isDigit 10 c = false ∧ c ≠ '.' := by
  cases exponent with
  | none => exact fun c hc ↦ ⟨(hrest c hc).1, (hrest c hc).2.1⟩
  | some part =>
    rintro _ ⟨⟩
    decide

theorem head?_fractionChars (fraction : List Char) (exponent : Option (Bool × List Char))
    (hrest : EndsNumber rest) :
    ∀ c ∈ (fractionChars fraction ++ (exponentChars exponent ++ rest)).head?,
      Numeral.isDigit 10 c = false := by
  unfold fractionChars
  split
  · exact fun c hc ↦ (head?_exponentChars exponent hrest c hc).1
  · rintro _ ⟨⟩
    decide

theorem exponent?_append (h : l.IsWellFormed) (hrest : EndsNumber rest) :
    exponent? (exponentChars l.exponent ++ rest) = some (l.exponent, rest) := by
  cases hexponent : l.exponent with
  | none =>
    cases rest with
    | nil => rfl
    | cons c rest =>
      obtain ⟨-, -, he, hE⟩ := hrest c rfl
      simp [exponentChars, exponent?, he, hE]
  | some part =>
    obtain ⟨down, digits⟩ := part
    obtain ⟨hsome, hdigits⟩ := h.exponent _ hexponent
    have hread : leadingDigits (digits ++ rest) = digits :=
      leadingDigits_append hdigits fun c hc ↦ (hrest c hc).1
    cases down <;> simp [exponentChars, exponent?, exponentSign, hread, hsome]

theorem fraction?_append (h : l.IsWellFormed) (hrest : EndsNumber rest) :
    fraction? (fractionChars l.fraction ++ (exponentChars l.exponent ++ rest)) =
      some (l.fraction, exponentChars l.exponent ++ rest) := by
  have hnext := head?_exponentChars l.exponent hrest
  unfold fractionChars
  split
  · next hnone =>
    rw [List.nil_append, hnone]
    unfold fraction?
    split
    · next heq => exact absurd rfl (hnext '.' (heq ▸ rfl)).2
    · rfl
  · next hsome =>
    have hread : leadingDigits (l.fraction ++ (exponentChars l.exponent ++ rest)) = l.fraction :=
      leadingDigits_append h.fraction fun c hc ↦ (hnext c hc).1
    simp [fraction?, hread, hsome]

/-- A well-formed number is read as it is written. -/
theorem literal?_append (h : l.IsWellFormed) (hrest : EndsNumber rest) :
    literal? (l.chars ++ rest) = some (l, rest) := by
  obtain ⟨negative, whole, fraction, exponent⟩ := l
  obtain ⟨c, tail, rfl⟩ := List.exists_cons_of_ne_nil h.whole_ne_nil
  have hminus : c ≠ '-' := by
    rintro rfl
    exact absurd (h.whole '-' List.mem_cons_self) (by decide)
  have hwhole := leadingDigits_append h.whole (head?_fractionChars fraction exponent hrest)
  have hleading : c = '0' → tail = [] := by
    rintro rfl
    exact (List.cons.inj (h.leading rfl)).2
  have hfraction := fraction?_append h hrest
  have hexponent := exponent?_append h hrest
  simp only [List.cons_append] at hwhole hfraction hexponent
  cases negative <;>
    simpa [literal?, chars, hminus, hwhole, hfraction, hexponent] using hleading

end Literal

/-! ## Integers -/

theorem value_le_value_append (digits later : List Char) :
    Numeral.value 10 digits ≤ Numeral.value 10 (digits ++ later) := by
  induction later generalizing digits with
  | nil => exact Nat.le_of_eq (by rw [List.append_nil])
  | cons c later ih =>
    calc Numeral.value 10 digits
        ≤ Numeral.value 10 (digits ++ [c]) := by rw [Numeral.value_append]; omega
      _ ≤ Numeral.value 10 (digits ++ [c] ++ later) := ih _
      _ = Numeral.value 10 (digits ++ c :: later) := by rw [List.append_assoc, List.singleton_append]

/-- Digits are taken over completely if their number fits into 64 bits. -/
theorem absorb_of_lt {before digits : List Char}
    (h : Numeral.value 10 (before ++ digits) < 0x10000000000000000) :
    absorb (Numeral.value 10 before) digits = (Numeral.value 10 (before ++ digits), []) := by
  induction digits generalizing before with
  | nil => rw [absorb, List.append_nil]
  | cons c digits ih =>
    rw [List.append_cons] at h ⊢
    have hfits := Nat.lt_of_le_of_lt (value_le_value_append (before ++ [c]) digits) h
    have hdigit : Numeral.value 10 before * 10 + Numeral.value 10 [c] =
        Numeral.value 10 (before ++ [c]) := by
      rw [Numeral.value_append]
      simp [Numeral.value]
    rw [absorb, hdigit]
    exact (if_pos hfits).trans (ih h)

theorem Integer.eq_of_val {i i' : Integer} (h : i.val = i'.val) : i = i' := by
  cases i
  cases i'
  cases h
  rfl

/-- The integer as a numeral. -/
def Integer.literal (i : Integer) : Literal :=
  ⟨i.val < 0, Numeral.write 10 i.val.natAbs, [], none⟩

theorem Integer.isWellFormed_literal (i : Integer) : i.literal.IsWellFormed where
  whole := fun c hc ↦ Numeral.isDigit_of_mem_write (by omega) (by omega) hc
  whole_ne_nil := Numeral.write_ne_nil _ _
  leading := by
    intro hzero
    change (Numeral.write 10 i.val.natAbs).head? = _ at hzero
    by_cases hi : i.val.natAbs = 0
    · change Numeral.write 10 i.val.natAbs = _
      rw [hi]
      decide +kernel
    · exact absurd hzero (Numeral.head?_write_ne_zero (by omega) (by omega) hi)
  fraction := nofun
  exponent := nofun

theorem Integer.chars_literal (i : Integer) : i.literal.chars = numberChars (.integer i) := by
  simp only [Literal.chars, literal, numberChars, integerChars]
  by_cases hi : i.val < 0 <;> simp [hi, Literal.fractionChars, Literal.exponentChars]

theorem Integer.value?_literal (i : Integer) : i.literal.value? = some (.integer i) := by
  have hlower := i.lower
  have hupper := i.upper
  have hvalue := Numeral.value_write (by omega : 2 ≤ 10) (by omega) i.val.natAbs
  have habsorb : absorb 0 i.literal.whole = (i.val.natAbs, []) := by
    have hread := @absorb_of_lt [] i.literal.whole
    rw [List.nil_append, literal, hvalue] at hread
    exact hread (by omega)
  have hinteger : Literal.integer? i.literal.negative i.val.natAbs = some i := by
    by_cases hnegative : i.val < 0
    · have hfits : 0 < i.val.natAbs ∧ i.val.natAbs ≤ 0x8000000000000000 := by omega
      have hval : -(i.val.natAbs : Int) = i.val := by omega
      rw [Literal.integer?, literal, if_pos (decide_eq_true hnegative), dif_pos hfits]
      exact congrArg some (Integer.eq_of_val hval)
    · have hfits : i.val.natAbs < 0x10000000000000000 := by omega
      have hval : (i.val.natAbs : Int) = i.val := by omega
      have hpositive : ¬ decide (i.val < 0) = true := by simpa using hnegative
      rw [Literal.integer?, literal, if_neg hpositive, ofNat?, dif_pos hfits]
      exact congrArg some (Integer.eq_of_val hval)
  simp only [Literal.value?, habsorb, hinteger]
  rfl

/-! ## Floating-point numbers -/

theorem ne_zero_of_onGrid? {i : Shortest.Interval} {place : Int} {n : Nat}
    (h : Shortest.onGrid? i place = some n) : n ≠ 0 := by
  have hinside := List.find?_some h
  simp only [Bool.and_eq_true, bne_iff_ne] at hinside
  exact hinside.1

theorem search_ne_zero {i : Shortest.Interval} (h : i.center ≠ 0) (place : Int)
    (tries : Nat) : (Shortest.search i place tries).1 ≠ 0 := by
  induction tries generalizing place with
  | zero => exact h
  | succ tries ih =>
    rw [Shortest.search]
    split
    · next hgrid => exact ne_zero_of_onGrid? hgrid
    · exact ih _

/-- Digits of a number other than zero do not begin with a zero. -/
theorem digits_ne_zero {x : Binary64} (h : x.bits ≠ 0) : (Shortest.digits x).1 ≠ 0 := by
  apply search_ne_zero
  change 4 * x.significand ≠ 0
  unfold Binary64.significand
  split <;> omega

/-- Digits with a point between them are a numeral, unless it begins with a zero. -/
theorem exists_pointed {digits : List Char} (hdigits : ∀ c ∈ digits, Numeral.isDigit 10 c = true)
    (hleading : digits.head? ≠ some '0') {point : Nat} (hbefore : 0 < point)
    (hafter : point < digits.length) :
    ∃ l : Literal, l.IsWellFormed ∧ l.negative = false ∧
      l.chars = digits.take point ++ ['.'] ++ digits.drop point := by
  have hsome : digits.drop point ≠ [] := by
    rw [Ne, List.drop_eq_nil_iff]
    omega
  have hwhole : digits.take point ≠ [] := by
    rw [Ne, List.take_eq_nil_iff]
    rintro (hzero | rfl)
    · omega
    · exact absurd hafter (Nat.not_lt_zero point)
  have hhead : (digits.take point).head? = digits.head? := by
    rw [List.head?_take, if_neg (Nat.ne_of_gt hbefore)]
  refine ⟨⟨false, digits.take point, digits.drop point, none⟩,
    ⟨fun c hc ↦ hdigits c (List.mem_of_mem_take hc), hwhole,
      fun h ↦ absurd (hhead.symm.trans h) hleading,
      fun c hc ↦ hdigits c (List.mem_of_mem_drop hc), nofun⟩, rfl, ?_⟩
  simp [Literal.chars, Literal.fractionChars, Literal.exponentChars, hsome]

/-- Digits with a place are laid out as a numeral. -/
theorem exists_layout {digits : List Char} (hdigits : ∀ c ∈ digits, Numeral.isDigit 10 c = true)
    (hsome : digits ≠ []) (hleading : digits.head? ≠ some '0') (place : Int) :
    ∃ l : Literal, l.IsWellFormed ∧ l.negative = false ∧ l.chars = Shortest.layout digits place := by
  have hzeros (n : Nat) : ∀ c ∈ List.replicate n '0', Numeral.isDigit 10 c = true := by
    intro c hc
    rw [List.eq_of_mem_replicate hc]
    decide
  obtain ⟨first, rest, rfl⟩ := List.exists_cons_of_ne_nil hsome
  have hfirst : first ≠ '0' := fun h ↦ hleading (congrArg some h)
  have hrest := fun c hc ↦ hdigits c (List.mem_cons_of_mem first hc)
  unfold Shortest.layout
  simp only
  split
  · -- Zeros up to the point, and one after it.
    refine ⟨⟨false, first :: rest ++ List.replicate place.toNat '0', ['0'], none⟩,
      ⟨?_, List.cons_ne_nil _ _, fun h ↦ absurd (Option.some.inj h) hfirst, ?_, nofun⟩, rfl, ?_⟩
    · exact List.forall_mem_append.2 ⟨hdigits, hzeros _⟩
    · exact List.forall_mem_singleton.2 (by decide)
    · simp [Literal.chars, Literal.fractionChars, Literal.exponentChars]
  split
  · -- The point stands between the digits.
    next hplaces hpoint =>
    simp only [Bool.and_eq_true, decide_eq_true_eq] at hplaces hpoint
    exact exists_pointed hdigits hleading (by omega) (by omega)
  split
  · -- All digits stand after the point.
    refine ⟨⟨false, ['0'], List.replicate (-(((first :: rest).length : Int) + place)).toNat '0' ++
      first :: rest, none⟩, ⟨?_, List.cons_ne_nil _ _, fun _ ↦ rfl, ?_, nofun⟩, rfl, ?_⟩
    · exact List.forall_mem_singleton.2 (by decide)
    · exact List.forall_mem_append.2 ⟨hzeros _, hdigits⟩
    · simp [Literal.chars, Literal.fractionChars, Literal.exponentChars]
  · -- One digit stands before the point.
    refine ⟨⟨false, [first], rest, some (((first :: rest).length : Int) + place - 1 < 0,
        Numeral.write 10 (((first :: rest).length : Int) + place - 1).natAbs)⟩,
      ⟨?_, List.cons_ne_nil _ _, fun h ↦ absurd (Option.some.inj h) hfirst, hrest, ?_⟩, rfl, ?_⟩
    · exact List.forall_mem_singleton.2 (hdigits first List.mem_cons_self)
    · rintro _ ⟨⟩
      exact ⟨Numeral.write_ne_nil _ _,
        fun c hc ↦ Numeral.isDigit_of_mem_write (by omega) (by omega) hc⟩
    · simp [Literal.chars, Literal.fractionChars, Literal.exponentChars]

/-- The same parts make a well-formed number with either sign. -/
theorem Literal.IsWellFormed.withSign {l : Literal} (h : l.IsWellFormed) (negative : Bool) :
    ({ l with negative } : Literal).IsWellFormed :=
  ⟨h.whole, h.whole_ne_nil, h.leading, h.fraction, h.exponent⟩

theorem exists_magnitude (x : Binary64) :
    ∃ l : Literal, l.IsWellFormed ∧ l.negative = false ∧ l.chars = Shortest.magnitude x := by
  unfold Shortest.magnitude
  split
  · refine ⟨⟨false, ['0'], ['0'], none⟩, ⟨?_, List.cons_ne_nil _ _, fun _ ↦ rfl, ?_, nofun⟩, rfl, rfl⟩
    · exact List.forall_mem_singleton.2 (by decide)
    · exact List.forall_mem_singleton.2 (by decide)
  · next hbits =>
    have hdigit : ∀ c ∈ Numeral.write 10 (Shortest.digits x).1, Numeral.isDigit 10 c = true :=
      fun c hc ↦ Numeral.isDigit_of_mem_write (by omega) (by omega) hc
    exact exists_layout hdigit (Numeral.write_ne_nil _ _)
      (Numeral.head?_write_ne_zero (by omega) (by omega) (digits_ne_zero hbits)) _

/-- Every number is written as a well-formed numeral. -/
theorem exists_literal (n : Num) : ∃ l : Literal, l.IsWellFormed ∧ l.chars = numberChars n := by
  cases n with
  | integer i => exact ⟨i.literal, i.isWellFormed_literal, i.chars_literal⟩
  | real x =>
    obtain ⟨l, hl, hpositive, hchars⟩ := exists_magnitude x
    refine ⟨{ l with negative := x.negative }, hl.withSign _, ?_⟩
    rw [Literal.chars, hpositive] at hchars
    change (if x.negative then ['-'] else []) ++ _ = Shortest.write x
    unfold Shortest.write
    rw [← hchars]
    cases x.negative <;> rfl

/-! ## Reading back -/

namespace Num

/-- What a number is read as when it is written. -/
def reread (n : Num) : Option Num := (literal? (numberChars n)).bind fun read ↦ read.1.value?

/-- A number is read as itself when it is written. -/
def IsReadBack (n : Num) : Prop := n.reread = some n

instance (n : Num) : Decidable n.IsReadBack := inferInstanceAs (Decidable (_ = _))

theorem reread_eq {n : Num} {l : Literal} (hl : l.IsWellFormed) (hchars : l.chars = numberChars n) :
    n.reread = l.value? := by
  have hread := Literal.literal?_append hl endsNumber_nil
  rw [List.append_nil, hchars] at hread
  rw [reread, hread, Option.bind_some]

theorem isReadBack_integer (i : Integer) : IsReadBack (.integer i) :=
  (reread_eq i.isWellFormed_literal i.chars_literal).trans i.value?_literal

/-- Zero keeps its sign. -/
theorem isReadBack_zero : ∀ negative, IsReadBack (.real ⟨negative, 0, by decide⟩) := by
  decide +kernel

/-- An integer that 64 bits hold, or a zero with its sign. -/
def IsWhole : Num → Prop
  | .integer _ => True
  | .real x => x.bits = 0

theorem IsWhole.isReadBack {n : Num} (h : n.IsWhole) : n.IsReadBack := by
  cases n with
  | integer i => exact isReadBack_integer i
  | real x =>
    obtain ⟨negative, bits, hfinite⟩ := x
    change bits = 0 at h
    subst h
    exact isReadBack_zero negative

end Num

theorem token?_of_isDigit {c : Char} (h : Numeral.isDigit 10 c = true ∨ c = '-') (s : List Char) :
    token? c s = number? (c :: s) := by
  unfold token?
  split
  case h_11 => rfl
  all_goals exact absurd h (by decide)

/-- A written number is one token, whatever comes after it that ends a number. -/
theorem tokens_numberChars (n : Num) {rest : List Char} (hrest : EndsNumber rest) :
    tokens (numberChars n ++ rest) = .number n.reread :: tokens rest := by
  obtain ⟨l, hl, hchars⟩ := exists_literal n
  have hread := Literal.literal?_append hl hrest
  obtain ⟨c, s, hc, hcons⟩ : ∃ c s, (Numeral.isDigit 10 c = true ∨ c = '-') ∧ l.chars = c :: s := by
    obtain ⟨first, tail, hwhole⟩ := List.exists_cons_of_ne_nil hl.whole_ne_nil
    unfold Literal.chars
    cases l.negative with
    | true => exact ⟨'-', _, .inr rfl, rfl⟩
    | false =>
      rw [hwhole]
      exact ⟨first, _, .inl (hl.whole first (hwhole ▸ List.mem_cons_self)), rfl⟩
  have hspace : isSpace c = false := by
    rw [← Bool.not_eq_true]
    intro hspace
    simp only [isSpace, Bool.or_eq_true, beq_iff_eq] at hspace
    rcases hspace with ((rfl | rfl) | rfl) | rfl <;> exact absurd hc (by decide)
  rw [Num.reread_eq hl hchars, ← hchars, hcons]
  rw [hcons] at hread
  apply tokens_of_token? hspace
  rw [token?_of_isDigit hc, number?]
  exact congrArg (Option.map _) hread

end DynamicDns.Json
