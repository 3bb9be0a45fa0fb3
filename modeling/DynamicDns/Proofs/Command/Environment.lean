import DynamicDns.Proofs.Command.Loading
import DynamicDns.Proofs.Validation
import DynamicDns.Proofs.WrittenNumber
import Mathlib

/-!
# Environments in which the command starts

The rules for the four variables, each said on its own and in the order in which they count. The command
goes on to its settings exactly if no rule is broken. Otherwise it tells of the first rule that is, and
neither the directory nor the far end has a say in what it does.
-/

namespace DynamicDns.Command

open DynamicDns.Result
open Text
open Blank (IsFilled)

variable {chars : List Char} {n : Nat} {env : String → Option String}

/-! ## Numbers -/

/-- What is left without the plus sign that a number may begin with. -/
def unsigned : List Char → List Char
  | '+' :: digits => digits
  | chars => chars

/-- At least one decimal digit, and nothing else after the sign. Zeros may come first. -/
structure IsNumber (chars : List Char) (n : Nat) : Prop where
  ne_nil : unsigned chars ≠ []
  digits : ∀ c ∈ unsigned chars, Numeral.isDigit 10 c = true
  value : Numeral.value 10 (unsigned chars) = n

/-- The digits up to some place stand for a number that does not fit into 64 bits. -/
def Overflows (digits : List Char) : Prop :=
  ∃ front back, digits = front ++ back ∧ (∀ c ∈ front, Numeral.isDigit 10 c = true) ∧
    0x10000000000000000 ≤ Numeral.value 10 front

/-- What the fault says of a text. A text that runs beyond 64 bits has this fault whatever stands
after these digits. -/
def NumberFault.IsOf (chars : List Char) : NumberFault → Prop
  | .empty => chars = []
  | .tooLarge => Overflows (unsigned chars)
  | .invalidDigit => chars ≠ [] ∧ ¬ Overflows (unsigned chars) ∧ ∀ n, ¬ IsNumber chars n

theorem readDigits_cons {c : Char} {d : Nat} (hd : Numeral.digitValue? 10 c = some d)
    (before rest : List Char) :
    readDigits (Numeral.value 10 before) (c :: rest) =
      if Numeral.value 10 (before ++ [c]) < 0x10000000000000000 then
        readDigits (Numeral.value 10 (before ++ [c])) rest
      else .error .tooLarge := by
  rw [readDigits, hd, Numeral.value_append, hd, Option.getD_some]

theorem readDigits_of_not_digit {c : Char} (hc : Numeral.digitValue? 10 c = none) (rest : List Char) :
    readDigits n (c :: rest) = .error .invalidDigit := by
  rw [readDigits, hc]

theorem not_digit_of_none {c : Char} (hc : Numeral.digitValue? 10 c = none) :
    ¬ Numeral.isDigit 10 c = true := by
  rw [Numeral.isDigit, hc]
  exact Bool.false_ne_true

theorem digit_of_some {c : Char} {d : Nat} (hc : Numeral.digitValue? 10 c = some d) :
    Numeral.isDigit 10 c = true := by
  rw [Numeral.isDigit, hc, Option.isSome_some]

/-- Reading on ends well exactly if only digits are left and they never run beyond 64 bits. -/
theorem readDigits_eq_ok_iff {before digits : List Char}
    (hbefore : Numeral.value 10 before < 0x10000000000000000) :
    readDigits (Numeral.value 10 before) digits = .ok n ↔
      (∀ c ∈ digits, Numeral.isDigit 10 c = true) ∧ Numeral.value 10 (before ++ digits) = n ∧
        n < 0x10000000000000000 := by
  induction digits generalizing before with
  | nil =>
    rw [readDigits, List.append_nil]
    constructor
    · intro h
      cases h
      exact ⟨List.forall_mem_nil _, rfl, hbefore⟩
    · rintro ⟨-, rfl, -⟩
      rfl
  | cons c rest ih =>
    rw [List.append_cons before c rest, List.forall_mem_cons]
    cases hd : Numeral.digitValue? 10 c with
    | none =>
      rw [readDigits_of_not_digit hd]
      exact ⟨nofun, fun h ↦ absurd h.1.1 (not_digit_of_none hd)⟩
    | some d =>
      rw [readDigits_cons hd]
      split
      · next hfits => rw [ih hfits, and_iff_right (digit_of_some hd)]
      · next hlarge =>
        refine ⟨nofun, ?_⟩
        rintro ⟨-, rfl, hfits⟩
        have hle := Json.value_le_value_append (before ++ [c]) rest
        omega

/-- The digits run beyond 64 bits somewhere after those that come before them. -/
def RunsOver (before digits : List Char) : Prop :=
  ∃ front back, digits = front ++ back ∧ (∀ c ∈ front, Numeral.isDigit 10 c = true) ∧
    0x10000000000000000 ≤ Numeral.value 10 (before ++ front)

theorem runsOver_nil {before : List Char} :
    RunsOver before [] ↔ 0x10000000000000000 ≤ Numeral.value 10 before := by
  constructor
  · rintro ⟨front, back, hsplit, -, hlarge⟩
    obtain ⟨rfl, -⟩ := List.append_eq_nil_iff.1 hsplit.symm
    rwa [List.append_nil] at hlarge
  · intro hlarge
    refine ⟨[], [], rfl, List.forall_mem_nil _, ?_⟩
    rwa [List.append_nil]

/-- If the digits before are not too large, those that are include the next one. -/
theorem runsOver_cons {before rest : List Char} {c : Char}
    (hbefore : Numeral.value 10 before < 0x10000000000000000) :
    RunsOver before (c :: rest) ↔ Numeral.isDigit 10 c = true ∧ RunsOver (before ++ [c]) rest := by
  constructor
  · rintro ⟨front, back, hsplit, hdigits, hlarge⟩
    cases front with
    | nil =>
      rw [List.append_nil] at hlarge
      omega
    | cons c' front =>
      cases hsplit
      obtain ⟨hc, hdigits⟩ := List.forall_mem_cons.1 hdigits
      rw [List.append_cons] at hlarge
      exact ⟨hc, front, back, rfl, hdigits, hlarge⟩
  · rintro ⟨hc, front, back, rfl, hdigits, hlarge⟩
    rw [← List.append_cons] at hlarge
    exact ⟨c :: front, back, rfl, List.forall_mem_cons.2 ⟨hc, hdigits⟩, hlarge⟩

/-- Reading on finds a number too large exactly if the digits run beyond 64 bits somewhere. -/
theorem readDigits_eq_tooLarge_iff {before digits : List Char}
    (hbefore : Numeral.value 10 before < 0x10000000000000000) :
    readDigits (Numeral.value 10 before) digits = .error .tooLarge ↔ RunsOver before digits := by
  induction digits generalizing before with
  | nil =>
    rw [runsOver_nil]
    exact ⟨nofun, fun hlarge ↦ absurd hbefore (Nat.not_lt_of_le hlarge)⟩
  | cons c rest ih =>
    rw [runsOver_cons hbefore]
    cases hd : Numeral.digitValue? 10 c with
    | none =>
      rw [readDigits_of_not_digit hd]
      exact ⟨nofun, fun h ↦ absurd h.1 (not_digit_of_none hd)⟩
    | some d =>
      rw [readDigits_cons hd, and_iff_right (digit_of_some hd)]
      split
      · next hfits => exact ih hfits
      · next hlarge =>
        refine ⟨fun _ ↦ ⟨[], rest, rfl, List.forall_mem_nil _, ?_⟩, fun _ ↦ rfl⟩
        rw [List.append_nil]
        exact Nat.le_of_not_lt hlarge

theorem readDigits_ne_empty (digits : List Char) : readDigits n digits ≠ .error .empty := by
  induction digits generalizing n with
  | nil => nofun
  | cons c rest ih =>
    rw [readDigits]
    split
    · nofun
    · split
      · exact ih
      · nofun

theorem readNumber_of_ne_nil (h : unsigned chars ≠ []) :
    readNumber chars = readDigits (Numeral.value 10 []) (unsigned chars) := by
  unfold readNumber
  split
  · exact absurd rfl h
  · exact absurd rfl h
  · rfl
  · next hplus =>
    rw [unsigned]
    · rfl
    · exact hplus

theorem readNumber_of_eq_nil (h : unsigned chars = []) :
    readNumber chars = .error (if chars = [] then .empty else .invalidDigit) := by
  unfold unsigned at h
  split at h
  · rw [h]
    rfl
  · rw [h]
    rfl

/-- A number is read exactly if it is written as one and fits into 64 bits. -/
theorem readNumber_eq_ok_iff :
    readNumber chars = .ok n ↔ IsNumber chars n ∧ n < 0x10000000000000000 := by
  by_cases h : unsigned chars = []
  · rw [readNumber_of_eq_nil h]
    exact ⟨nofun, fun hnumber ↦ absurd h hnumber.1.ne_nil⟩
  · rw [readNumber_of_ne_nil h, readDigits_eq_ok_iff (by decide)]
    constructor
    · rintro ⟨hdigits, hvalue, hfits⟩
      exact ⟨⟨h, hdigits, hvalue⟩, hfits⟩
    · rintro ⟨hnumber, hfits⟩
      exact ⟨hnumber.digits, hnumber.value, hfits⟩

theorem IsNumber.overflows (h : IsNumber chars n) (hn : ¬ n < 0x10000000000000000) :
    Overflows (unsigned chars) := by
  refine ⟨unsigned chars, [], (List.append_nil _).symm, h.digits, ?_⟩
  rw [h.value]
  exact Nat.le_of_not_lt hn

theorem readNumber_eq_empty_iff : readNumber chars = .error .empty ↔ chars = [] := by
  by_cases h : unsigned chars = []
  · rw [readNumber_of_eq_nil h]
    split
    · next hchars => exact iff_of_true rfl hchars
    · next hchars => exact iff_of_false nofun hchars
  · have hchars : chars ≠ [] := by
      rintro rfl
      exact h rfl
    rw [readNumber_of_ne_nil h]
    exact iff_of_false (readDigits_ne_empty _) hchars

theorem readNumber_eq_tooLarge_iff :
    readNumber chars = .error .tooLarge ↔ Overflows (unsigned chars) := by
  -- `Overflows` is `RunsOver` where nothing has been read before.
  change _ ↔ RunsOver [] (unsigned chars)
  by_cases h : unsigned chars = []
  · rw [readNumber_of_eq_nil h, h, runsOver_nil]
    refine iff_of_false ?_ (by decide)
    split <;> nofun
  · rw [readNumber_of_ne_nil h]
    exact readDigits_eq_tooLarge_iff (by decide)

/-- The fault of a text that is no number of 64 bits is the one that the text has. -/
theorem readNumber_eq_error_iff {fault : NumberFault} :
    readNumber chars = .error fault ↔ fault.IsOf chars := by
  cases fault with
  | empty => exact readNumber_eq_empty_iff
  | tooLarge => exact readNumber_eq_tooLarge_iff
  | invalidDigit =>
    constructor
    · intro hread
      have hchars : chars ≠ [] := fun hempty ↦
        nomatch hread.symm.trans (readNumber_eq_empty_iff.2 hempty)
      have hfits : ¬ Overflows (unsigned chars) := fun hover ↦
        nomatch hread.symm.trans (readNumber_eq_tooLarge_iff.2 hover)
      refine ⟨hchars, hfits, fun n hn ↦ hfits (hn.overflows fun hlt ↦ ?_)⟩
      cases hread.symm.trans (readNumber_eq_ok_iff.2 ⟨hn, hlt⟩)
    · rintro ⟨hchars, hfits, hnone⟩
      cases hread : readNumber chars with
      | ok n => exact absurd (readNumber_eq_ok_iff.1 hread).1 (hnone n)
      | error fault =>
        cases fault with
        | empty => exact absurd (readNumber_eq_empty_iff.1 hread) hchars
        | tooLarge => exact absurd (readNumber_eq_tooLarge_iff.1 hread) hfits
        | invalidDigit => rfl

/-! ## Levels -/

def levelName : Log.Level → String
  | .trace => "trace"
  | .debug => "debug"
  | .info => "info"
  | .warn => "warn"
  | .error => "error"

/-- The text is the name of the level, in lower and upper case as it may come. -/
def IsNameOf (raw : String) (level : Log.Level) : Prop :=
  raw.toList.map Char.toLower = (levelName level).toList

theorem map_toUpper_eq_iff (raw : String) (level : Log.Level) :
    level.text.toList = raw.toList.map Char.toUpper ↔ IsNameOf raw level := by
  have hlower : (levelName level).toList = level.text.toList.map Char.toLower := by
    cases level <;> decide
  have hupper : level.text.toList = (levelName level).toList.map Char.toUpper := by
    cases level <;> decide
  constructor
  · intro h
    rw [IsNameOf, hlower, h, List.map_map]
    exact List.map_congr_left fun c _ ↦ c.toLower_toUpper_eq_toLower.symm
  · intro h
    rw [hupper, ← h, List.map_map]
    exact List.map_congr_left fun c _ ↦ c.toUpper_toLower_eq_toUpper

theorem level?_eq_some_iff {raw : String} {level : Log.Level} :
    Options.level? raw = some level ↔ IsNameOf raw level := by
  rw [← map_toUpper_eq_iff]
  constructor
  · intro h
    have hname := List.find?_some h
    exact eq_of_beq hname
  · intro h
    rw [Options.level?, ← h]
    cases level <;> rfl

theorem level?_eq_none_iff {raw : String} :
    Options.level? raw = none ↔ ∀ level, ¬ IsNameOf raw level := by
  rw [Option.eq_none_iff_forall_ne_some]
  exact forall_congr' fun level ↦ not_congr level?_eq_some_iff

/-! ## Rules -/

/-- The environment breaks the rule that the refusal tells of. -/
def Refusal.Applies (env : String → Option String) : Refusal → Prop
  | .unreadableTimeLimit raw fault =>
    env "DDNS_HTTP_TIMEOUT_SECS" = some raw ∧ fault.IsOf (Blank.trimChars raw.toList)
  | .missingAddress => env "DDNS_IP" = none
  | .blankPath => ∃ raw, env "DDNS_CONFIG" = some raw ∧ ¬ IsFilled raw
  | .invalidAddress raw => env "DDNS_IP" = some raw ∧ Address.parse? (Blank.trim raw) = none
  | .timeLimitOutOfRange seconds => ∃ raw, env "DDNS_HTTP_TIMEOUT_SECS" = some raw ∧
    IsNumber (Blank.trimChars raw.toList) seconds ∧ ¬ (1 ≤ seconds ∧ seconds ≤ 300)
  | .unknownLevel raw => env "DDNS_LOG_LEVEL" = some raw ∧ ∀ level, ¬ IsNameOf raw level

/-- The order in which the rules count. -/
def Refusal.rank : Refusal → Nat
  | .unreadableTimeLimit _ _ => 0
  | .missingAddress => 1
  | .blankPath => 2
  | .invalidAddress _ => 3
  | .timeLimitOutOfRange _ => 4
  | .unknownLevel _ => 5

theorem Refusal.rank_le (refusal : Refusal) : refusal.rank ≤ 5 := by
  cases refusal <;> simp [rank]

/-- No rule before the one with this rank is broken. -/
def ClearBelow (env : String → Option String) (rank : Nat) : Prop :=
  ∀ refusal : Refusal, refusal.Applies env → rank ≤ refusal.rank

/-- The refusal tells of the first rule that is broken. -/
structure Refusal.IsFirst (env : String → Option String) (refusal : Refusal) : Prop where
  applies : refusal.Applies env
  clear : ClearBelow env refusal.rank

/-- A check of the rule with a rank: it fails with the refusals that tell of this rule. -/
def Checks {α : Type} (env : String → Option String) (rank : Nat) (x : Except Refusal α) : Prop :=
  ∀ refusal, x = .error refusal ↔ refusal.Applies env ∧ refusal.rank = rank

/-- If the rules before it are kept, a check that fails tells of the first rule that is broken, and
after one that does not the rules up to its own are kept. -/
theorem Checks.bind_eq_error_iff {α β : Type} {rank : Nat} {x : Except Refusal α}
    {f : α → Except Refusal β} (h : Checks env rank x) (hclear : ClearBelow env rank)
    (hf : ∀ a, x = .ok a → ClearBelow env (rank + 1) →
      ∀ refusal, f a = .error refusal ↔ refusal.IsFirst env) (refusal : Refusal) :
    x >>= f = .error refusal ↔ refusal.IsFirst env := by
  cases hx : x with
  | error first =>
    obtain ⟨happlies, hrank⟩ := (h first).1 hx
    constructor
    · intro hfails
      cases hfails
      exact ⟨happlies, hrank ▸ hclear⟩
    · intro hfirst
      have hle := hfirst.clear first happlies
      have hge := hclear refusal hfirst.applies
      have hsame := (h refusal).2 ⟨hfirst.applies, by omega⟩
      exact congrArg _ (Except.error.inj (hx.symm.trans hsame))
  | ok a =>
    apply hf a hx
    intro other hother
    have hge := hclear other hother
    have hne : other.rank ≠ rank := fun hrank ↦ nomatch hx.symm.trans ((h other).2 ⟨hother, hrank⟩)
    omega

namespace Options

/-! ## One check for each rule -/

theorem readTimeLimit_eq_ok_iff {raw? : Option String} :
    readTimeLimit raw? = .ok n ↔ raw? = none ∧ n = defaultTimeLimit ∨
      ∃ raw, raw? = some raw ∧ IsNumber (Blank.trimChars raw.toList) n ∧
        n < 0x10000000000000000 := by
  cases raw? with
  | none => simp [readTimeLimit, eq_comm]
  | some raw =>
    rw [readTimeLimit, mapError_eq_ok_iff, readNumber_eq_ok_iff]
    simp

theorem checks_readTimeLimit : Checks env 0 (readTimeLimit (env "DDNS_HTTP_TIMEOUT_SECS")) := by
  intro refusal
  cases henv : env "DDNS_HTTP_TIMEOUT_SECS" with
  | none => cases refusal <;> simp [readTimeLimit, Refusal.Applies, Refusal.rank, henv]
  | some raw =>
    rw [readTimeLimit, mapError_eq_error_iff]
    simp only [readNumber_eq_error_iff]
    cases refusal <;> simp [Refusal.Applies, Refusal.rank, henv]
    grind

/-- The address, which must be given. -/
def givenAddress : Option String → Except Refusal String
  | none => .error .missingAddress
  | some raw => .ok raw

theorem checks_givenAddress : Checks env 1 (givenAddress (env "DDNS_IP")) := by
  intro refusal
  cases henv : env "DDNS_IP" with
  | none => cases refusal <;> simp [givenAddress, Refusal.Applies, Refusal.rank, henv]
  | some raw => cases refusal <;> simp [givenAddress, Refusal.Applies, Refusal.rank, henv]

theorem checkPath_eq_ok_iff {path : String} : checkPath path = .ok () ↔ IsFilled path := by
  rw [checkPath, ← not_iff_not, ← Blank.isBlankText_eq_true_iff]
  split
  · next hblank => simp [hblank]
  · next hfilled => simp [hfilled]

theorem checkPath_eq_error_iff {path : String} {refusal : Refusal} :
    checkPath path = .error refusal ↔ ¬ IsFilled path ∧ refusal = .blankPath := by
  rw [checkPath, ← Blank.isBlankText_eq_true_iff]
  split
  · next hblank => simp [hblank, eq_comm]
  · next hfilled => simp [hfilled]

theorem isFilled_defaultPath : IsFilled defaultPath := ⟨'c', by decide, by decide⟩

/-- The default path is not blank, so only a path that is given can be. -/
theorem checks_checkPath : Checks env 2 (checkPath ((env "DDNS_CONFIG").getD defaultPath)) := by
  intro refusal
  rw [checkPath_eq_error_iff]
  cases henv : env "DDNS_CONFIG" with
  | none => cases refusal <;> simp [Refusal.Applies, Refusal.rank, henv, isFilled_defaultPath]
  | some raw => cases refusal <;> simp [Refusal.Applies, Refusal.rank, henv]

theorem readAddress_eq_ok_iff {raw : String} {address : Address} :
    readAddress raw = .ok address ↔ Address.parse? (Blank.trim raw) = some address := by
  unfold readAddress
  generalize Address.parse? (Blank.trim raw) = parsed
  cases parsed with
  | none => exact ⟨nofun, nofun⟩
  | some other => simp

theorem readAddress_eq_error_iff {raw : String} {refusal : Refusal} :
    readAddress raw = .error refusal ↔
      Address.parse? (Blank.trim raw) = none ∧ refusal = .invalidAddress raw := by
  unfold readAddress
  generalize Address.parse? (Blank.trim raw) = parsed
  cases parsed with
  | none => simp [eq_comm]
  | some address => exact ⟨nofun, nofun⟩

theorem checks_readAddress {raw : String} (hraw : env "DDNS_IP" = some raw) :
    Checks env 3 (readAddress raw) := by
  intro refusal
  rw [readAddress_eq_error_iff]
  cases refusal with
  | invalidAddress other =>
    rw [Refusal.Applies, hraw, Option.some_inj, Refusal.invalidAddress.injEq]
    grind [Refusal.rank]
  | _ => simp [Refusal.rank]

theorem checkTimeLimit_eq_ok_iff : checkTimeLimit n = .ok () ↔ 1 ≤ n ∧ n ≤ 300 := by
  unfold checkTimeLimit
  split
  · next hrange => exact ⟨fun _ ↦ hrange, fun _ ↦ rfl⟩
  · next hrange => exact ⟨nofun, fun h ↦ absurd h hrange⟩

theorem checkTimeLimit_eq_error_iff {refusal : Refusal} :
    checkTimeLimit n = .error refusal ↔
      ¬ (1 ≤ n ∧ n ≤ 300) ∧ refusal = .timeLimitOutOfRange n := by
  unfold checkTimeLimit
  split
  · next hrange => exact ⟨nofun, fun h ↦ absurd hrange h.1⟩
  · next hrange => rw [Except.error.injEq, and_iff_right hrange, eq_comm]

/-- A time limit out of range is one that was given, because the default is within. -/
theorem checks_checkTimeLimit (hread : readTimeLimit (env "DDNS_HTTP_TIMEOUT_SECS") = .ok n) :
    Checks env 4 (checkTimeLimit n) := by
  intro refusal
  rw [checkTimeLimit_eq_error_iff]
  cases refusal with
  | timeLimitOutOfRange seconds =>
    rw [Refusal.timeLimitOutOfRange.injEq]
    rcases readTimeLimit_eq_ok_iff.1 hread with ⟨henv, rfl⟩ | ⟨raw, henv, hnumber, -⟩
    · simp [Refusal.Applies, henv, defaultTimeLimit]
    · constructor
      · rintro ⟨hrange, rfl⟩
        exact ⟨⟨raw, henv, hnumber, hrange⟩, rfl⟩
      · rintro ⟨⟨raw', henv', hnumber', hrange⟩, -⟩
        cases henv.symm.trans henv'
        cases hnumber.value.symm.trans hnumber'.value
        exact ⟨hrange, rfl⟩
  | _ => simp [Refusal.rank]

theorem readLevel_eq_ok_iff {raw? : Option String} {level : Log.Level} :
    readLevel raw? = .ok level ↔ raw? = none ∧ level = .info ∨
      ∃ raw, raw? = some raw ∧ IsNameOf raw level := by
  cases raw? with
  | none => simp [readLevel, eq_comm]
  | some raw =>
    have hname : readLevel (some raw) = .ok level ↔ level? raw = some level := by
      unfold readLevel
      dsimp only
      cases level? raw <;> simp
    simp [hname, level?_eq_some_iff]

theorem checks_readLevel : Checks env 5 (readLevel (env "DDNS_LOG_LEVEL")) := by
  intro refusal
  cases henv : env "DDNS_LOG_LEVEL" with
  | none => cases refusal <;> simp [readLevel, Refusal.Applies, Refusal.rank, henv]
  | some raw =>
    simp only [readLevel]
    cases hlevel : level? raw with
    | none =>
      have hnone := level?_eq_none_iff.1 hlevel
      cases refusal <;> simp [Refusal.Applies, Refusal.rank, henv]
      grind
    | some level =>
      have hname := level?_eq_some_iff.1 hlevel
      cases refusal <;> simp [Refusal.Applies, Refusal.rank, henv]
      grind

/-! ## All checks -/

/-- The options come from six checks, one for each rule and in the order of their ranks. -/
theorem ofEnvironment_eq (env : String → Option String) :
    ofEnvironment env = (do
      let timeLimit ← readTimeLimit (env "DDNS_HTTP_TIMEOUT_SECS")
      let raw ← givenAddress (env "DDNS_IP")
      checkPath ((env "DDNS_CONFIG").getD defaultPath)
      let address ← readAddress raw
      checkTimeLimit timeLimit
      let level ← readLevel (env "DDNS_LOG_LEVEL")
      .ok ⟨(env "DDNS_CONFIG").getD defaultPath, address, timeLimit, level⟩) := by
  unfold ofEnvironment
  cases env "DDNS_IP" with
  | none => rfl
  | some raw => rfl

theorem givenAddress_eq_ok_iff {raw? : Option String} {raw : String} :
    givenAddress raw? = .ok raw ↔ raw? = some raw := by
  cases raw? <;> simp [givenAddress]

/-- What the command does not accept it refuses for the first rule that is broken. -/
theorem ofEnvironment_eq_error_iff {refusal : Refusal} :
    ofEnvironment env = .error refusal ↔ refusal.IsFirst env := by
  rw [ofEnvironment_eq]
  apply checks_readTimeLimit.bind_eq_error_iff fun _ _ ↦ Nat.zero_le _
  intro timeLimit htime hclear
  apply checks_givenAddress.bind_eq_error_iff hclear
  intro raw hraw hclear
  apply checks_checkPath.bind_eq_error_iff hclear
  intro _ _ hclear
  apply (checks_readAddress (givenAddress_eq_ok_iff.1 hraw)).bind_eq_error_iff hclear
  intro address _ hclear
  apply (checks_checkTimeLimit htime).bind_eq_error_iff hclear
  intro _ _ hclear
  apply checks_readLevel.bind_eq_error_iff hclear
  intro level _ hclear refusal
  refine ⟨nofun, fun hfirst ↦ ?_⟩
  exact absurd (Nat.lt_of_lt_of_le (hclear refusal hfirst.applies) refusal.rank_le) (by decide)

/-- What the variables say, a default standing for each that is not set but the address. -/
structure IsReadFrom (env : String → Option String) (options : Options) : Prop where
  timeLimit : env "DDNS_HTTP_TIMEOUT_SECS" = none ∧ options.timeLimit = defaultTimeLimit ∨
    ∃ raw, env "DDNS_HTTP_TIMEOUT_SECS" = some raw ∧
      IsNumber (Blank.trimChars raw.toList) options.timeLimit
  range : 1 ≤ options.timeLimit ∧ options.timeLimit ≤ 300
  address : ∃ raw, env "DDNS_IP" = some raw ∧
    Address.parse? (Blank.trim raw) = some options.address
  path : options.path = (env "DDNS_CONFIG").getD defaultPath
  path_isFilled : IsFilled options.path
  level : env "DDNS_LOG_LEVEL" = none ∧ options.level = .info ∨
    ∃ raw, env "DDNS_LOG_LEVEL" = some raw ∧ IsNameOf raw options.level

theorem ofEnvironment_eq_ok_iff {options : Options} :
    ofEnvironment env = .ok options ↔ options.IsReadFrom env := by
  rw [ofEnvironment_eq]
  constructor
  · intro h
    obtain ⟨timeLimit, htime, h⟩ := bind_eq_ok_iff.1 h
    obtain ⟨raw, hraw, h⟩ := bind_eq_ok_iff.1 h
    obtain ⟨_, hpath, h⟩ := bind_eq_ok_iff.1 h
    obtain ⟨address, haddress, h⟩ := bind_eq_ok_iff.1 h
    obtain ⟨_, hrange, h⟩ := bind_eq_ok_iff.1 h
    obtain ⟨level, hlevel, h⟩ := bind_eq_ok_iff.1 h
    cases h
    refine ⟨?_, checkTimeLimit_eq_ok_iff.1 hrange,
      ⟨raw, givenAddress_eq_ok_iff.1 hraw, readAddress_eq_ok_iff.1 haddress⟩, rfl,
      checkPath_eq_ok_iff.1 hpath, readLevel_eq_ok_iff.1 hlevel⟩
    exact (readTimeLimit_eq_ok_iff.1 htime).imp_right
      fun ⟨raw, henv, hnumber, _⟩ ↦ ⟨raw, henv, hnumber⟩
  · rintro ⟨htime, hrange, ⟨raw, hraw, haddress⟩, hpath, hfilled, hlevel⟩
    have htime : readTimeLimit (env "DDNS_HTTP_TIMEOUT_SECS") = .ok options.timeLimit :=
      readTimeLimit_eq_ok_iff.2 (htime.imp_right
        fun ⟨raw, henv, hnumber⟩ ↦ ⟨raw, henv, hnumber, by omega⟩)
    refine bind_eq_ok_iff.2 ⟨_, htime, bind_eq_ok_iff.2 ⟨raw, givenAddress_eq_ok_iff.2 hraw, ?_⟩⟩
    rw [← hpath]
    exact bind_eq_ok_iff.2 ⟨(), checkPath_eq_ok_iff.2 hfilled,
      bind_eq_ok_iff.2 ⟨_, readAddress_eq_ok_iff.2 haddress,
        bind_eq_ok_iff.2 ⟨(), checkTimeLimit_eq_ok_iff.2 hrange,
          bind_eq_ok_iff.2 ⟨_, readLevel_eq_ok_iff.2 hlevel, rfl⟩⟩⟩⟩

end Options

/-! ## Starting -/

/-- The environments in which the command starts: a number of seconds from 1 to 300 if there is one, an
address, a path that is not blank if there is one, and the name of a level if there is one. -/
structure IsGood (env : String → Option String) : Prop where
  timeLimit : ∀ raw, env "DDNS_HTTP_TIMEOUT_SECS" = some raw →
    ∃ seconds, IsNumber (Blank.trimChars raw.toList) seconds ∧ 1 ≤ seconds ∧ seconds ≤ 300
  address : ∃ raw address, env "DDNS_IP" = some raw ∧ Address.parse? (Blank.trim raw) = some address
  path : ∀ raw, env "DDNS_CONFIG" = some raw → IsFilled raw
  level : ∀ raw, env "DDNS_LOG_LEVEL" = some raw → ∃ level, IsNameOf raw level

/-- A value that has a default can be had exactly if one can be read whenever a text for it is given. -/
theorem exists_given_iff {α : Type} {raw? : Option String} {Reads : String → α → Prop} (default : α) :
    (∃ a, raw? = none ∧ a = default ∨ ∃ raw, raw? = some raw ∧ Reads raw a) ↔
      ∀ raw, raw? = some raw → ∃ a, Reads raw a := by
  cases raw? with
  | none => simp
  | some raw => simp

theorem isGood_iff : IsGood env ↔ ∃ options : Options, options.IsReadFrom env := by
  constructor
  · rintro ⟨htime, ⟨raw, address, hraw, haddress⟩, hpath, hlevel⟩
    obtain ⟨seconds, htime⟩ := (exists_given_iff Options.defaultTimeLimit).2 htime
    obtain ⟨level, hlevel⟩ := (exists_given_iff .info).2 hlevel
    have hrange : 1 ≤ seconds ∧ seconds ≤ 300 := by
      rcases htime with ⟨-, rfl⟩ | ⟨raw, -, -, hrange⟩
      · decide
      · exact hrange
    have hfilled : IsFilled ((env "DDNS_CONFIG").getD Options.defaultPath) := by
      cases henv : env "DDNS_CONFIG" with
      | none => exact Options.isFilled_defaultPath
      | some raw => exact hpath raw henv
    refine ⟨⟨_, address, seconds, level⟩, ?_, hrange, ⟨raw, hraw, haddress⟩, rfl, hfilled, hlevel⟩
    exact htime.imp_right fun ⟨raw, henv, hnumber, _⟩ ↦ ⟨raw, henv, hnumber⟩
  · rintro ⟨options, htime, hrange, ⟨raw, hraw, haddress⟩, hpath, hfilled, hlevel⟩
    refine ⟨?_, ⟨raw, _, hraw, haddress⟩, ?_, (exists_given_iff .info).1 ⟨_, hlevel⟩⟩
    · refine (exists_given_iff Options.defaultTimeLimit).1 ⟨options.timeLimit, ?_⟩
      exact htime.imp_right fun ⟨raw, henv, hnumber⟩ ↦ ⟨raw, henv, hnumber, hrange⟩
    · intro raw henv
      rw [henv, Option.getD_some] at hpath
      rwa [hpath] at hfilled

theorem complaint_runWith {σ : Type} (remote : Remote σ) (s : σ) (schedule : List Nat)
    (options : Options) (file : Except FileFault String) :
    (runWith remote s schedule options file).complaint = none := by
  simp only [runWith, runAll]
  split
  · rfl
  · rfl

/-- In a good environment the command goes on to its settings, without a complaint and with the options
that the variables say; to read the address and the level again gives the same. In every other
environment it complains of the first rule that is broken, and this is all that it does, whatever is in
the directory and whoever is at the far end. -/
theorem run_starts_in_good_environments (env : String → Option String) :
    (IsGood env → ∃ options : Options, options.IsReadFrom env ∧
      (∀ (σ : Type) (remote : Remote σ) (s : σ) (schedule : List Nat) (directory : Directory),
        run remote s schedule env directory =
          runWith remote s schedule options (directory.read options.path) ∧
        (run remote s schedule env directory).complaint = none) ∧
      (∀ raw, env "DDNS_IP" = some raw → Options.readAddress raw = .ok options.address) ∧
      Options.readLevel (env "DDNS_LOG_LEVEL") = .ok options.level) ∧
    (¬ IsGood env → ∃ refusal : Refusal, refusal.IsFirst env ∧
      (∀ other : Refusal, other.IsFirst env → other = refusal) ∧
      ∀ (σ : Type) (remote : Remote σ) (s : σ) (schedule : List Nat) (directory : Directory),
        run remote s schedule env directory = ⟨.refused, some refusal.message, [], []⟩) := by
  constructor
  · intro hgood
    obtain ⟨options, hread⟩ := isGood_iff.1 hgood
    have henv := Options.ofEnvironment_eq_ok_iff.2 hread
    refine ⟨options, hread, ?_, ?_, Options.readLevel_eq_ok_iff.2 hread.level⟩
    · intro σ remote s schedule directory
      have hrun : run remote s schedule env directory =
          runWith remote s schedule options (directory.read options.path) := by
        simp only [run, henv]
      exact ⟨hrun, hrun ▸ complaint_runWith remote s schedule options _⟩
    · intro raw hraw
      obtain ⟨raw', hraw', haddress⟩ := hread.address
      cases hraw.symm.trans hraw'
      exact Options.readAddress_eq_ok_iff.2 haddress
  · intro hbad
    cases henv : Options.ofEnvironment env with
    | ok options =>
      exact absurd (isGood_iff.2 ⟨options, Options.ofEnvironment_eq_ok_iff.1 henv⟩) hbad
    | error refusal =>
      refine ⟨refusal, Options.ofEnvironment_eq_error_iff.1 henv, ?_, ?_⟩
      · intro other hother
        exact Except.error.inj ((Options.ofEnvironment_eq_error_iff.2 hother).symm.trans henv)
      · intro σ remote s schedule directory
        simp only [run, henv, refuse]

/-- A time limit with a sign and zeros, and a level in mixed case, are as good as any. Of three rules that
are broken the one that counts first is told. -/
theorem first_broken_rule_is_told :
    let good (name : String) : Option String :=
      [("DDNS_HTTP_TIMEOUT_SECS", " +007"), ("DDNS_IP", "::1 "), ("DDNS_LOG_LEVEL", "WaRn")].lookup name
    let bad (name : String) : Option String :=
      [("DDNS_HTTP_TIMEOUT_SECS", "301"), ("DDNS_IP", "1.2.3"), ("DDNS_LOG_LEVEL", "loud")].lookup name
    (IsGood good ∧ ∃ options : Options, options.IsReadFrom good ∧ options.timeLimit = 7 ∧
      Options.readLevel (good "DDNS_LOG_LEVEL") = .ok options.level) ∧
    ¬ IsGood bad ∧ ∀ directory : Directory, run (ruled []) none [] bad directory =
      ⟨.refused, some (Refusal.invalidAddress "1.2.3").message, [], []⟩ := by
  intro good bad
  have hgood : (Options.ofEnvironment good).toOption.any (·.timeLimit == 7) = true := by
    decide +kernel
  obtain ⟨options, hread, hseven⟩ := exists_ok_of_any hgood
  have hbad : Options.ofEnvironment bad = .error (.invalidAddress "1.2.3") :=
    eq_error_of_match (by decide +kernel)
  have hgood : IsGood good := isGood_iff.2 ⟨options, Options.ofEnvironment_eq_ok_iff.1 hread⟩
  have hbad' : ¬ IsGood bad := by
    intro hgood
    obtain ⟨options, hread⟩ := isGood_iff.1 hgood
    cases hbad.symm.trans (Options.ofEnvironment_eq_ok_iff.2 hread)
  refine ⟨⟨hgood, ?_⟩, hbad', ?_⟩
  · obtain ⟨other, hother, -, -, hlevel⟩ := (run_starts_in_good_environments good).1 hgood
    cases hread.symm.trans (Options.ofEnvironment_eq_ok_iff.2 hother)
    exact ⟨options, hother, eq_of_beq hseven, hlevel⟩
  · obtain ⟨refusal, -, honly, hrun⟩ := (run_starts_in_good_environments bad).2 hbad'
    rw [honly _ (Options.ofEnvironment_eq_error_iff.1 hbad)]
    exact hrun _ _ _ _

end DynamicDns.Command
