import DynamicDns.Proofs.Result
import DynamicDns.Proofs.Talk

/-!
# Reported addresses

Either provider reports an address in the end. The update returns it, unless it differs from the one
that was asked for in a way that matters to the provider; then the error names both.
-/

namespace DynamicDns

open DynamicDns.Result

/-- What an update makes of the address that is reported. -/
def confirm (differs : Address → Bool) (ip : Address) (reported : Except Error Address) :
    Except Error Address := do
  let address ← reported
  if differs address then .error (.addressMismatch ip address) else .ok address

variable {differs : Address → Bool} {ip x : Address} {reported : Except Error Address}

theorem confirm_eq_ok_iff :
    confirm differs ip reported = .ok x ↔ reported = .ok x ∧ differs x = false := by
  unfold confirm
  rw [bind_eq_ok_iff]
  constructor
  · intro h
    rcases h with ⟨address, hreported, h⟩
    split at h
    · cases h
    · next hsame =>
      cases h
      exact ⟨hreported, Bool.eq_false_iff.2 hsame⟩
  · intro h
    rcases h with ⟨hreported, hsame⟩
    refine ⟨x, hreported, ?_⟩
    rw [hsame]
    rfl

theorem confirm_of_error {e : Error} (h : reported = .error e) :
    confirm differs ip reported = .error e := by
  rw [h]
  rfl

theorem confirm_of_differs (hreported : reported = .ok x) (h : differs x = true) :
    confirm differs ip reported = .error (.addressMismatch ip x) := by
  rw [hreported]
  exact if_pos h

theorem confirm_error {e : Error} (h : confirm differs ip reported = .error e) :
    reported = .error e ∨ ∃ received, e = .addressMismatch ip received := by
  unfold confirm at h
  rcases bind_eq_error_iff.1 h with herror | ⟨address, -, h⟩
  · exact .inl herror
  · split at h
    · cases h
      exact .inr ⟨address, rfl⟩
    · cases h

/-- The end of an update settles what was reported. -/
theorem Talk.settles_confirm (differs : Address → Bool) (ip : Address)
    (reported : Except Error Address) (level : Log.Level) (part : Log.Part)
    (message : Address → String) :
    Settles (do
      let address ← ofExcept reported
      if differs address then throw (.addressMismatch ip address)
      note level part (message address)
      return address) (confirm differs ip reported) := by
  apply settles_ofExcept_bind
  · intro e he
    exact confirm_of_error he
  · intro address haddress
    by_cases hdiffers : differs address = true
    · rw [confirm_of_differs haddress hdiffers]
      simp only [hdiffers, if_true]
      exact settles_throw _
    · have hsame : differs address = false := Bool.eq_false_iff.2 hdiffers
      rw [confirm_eq_ok_iff.2 ⟨haddress, hsame⟩]
      simp only [hsame, Bool.false_eq_true, if_false]
      apply Settles.note
      exact settles_pure address

end DynamicDns
