import Safeguard.Proofs.Text.Lowercase
import Safeguard.Config.RetryPolicy
import Safeguard.Retry.Transient

/-!
# Markers in longer messages

An error is passing if the lowercase form of its message contains the lowercase form of a marker.
A marker that stands in a message need not be found that way: as part of a longer word it may get
another lowercase form than on its own. `found_everywhere_iff` says which markers are found wherever
they stand: those whose capital sigmas are settled by the marker alone, and in particular all
markers without capital sigmas.
-/

namespace Safeguard

open Text

theorem isTransient_iff {markers : List String} {message : String} :
    isTransient markers message = true ↔
      ∃ marker ∈ markers,
        lowercaseFrom [] marker.toList <:+: lowercaseFrom [] message.toList := by
  simp only [isTransient, lowercase, List.any_eq_true, String.toList_ofList, occursIn_iff]

/-- A marker whose capital sigmas are settled is found wherever it stands. -/
theorem isTransient_of_settled {markers : List String} {marker : String}
    (settled : SigmasSettled marker) (mem : marker ∈ markers) (before after : String) :
    isTransient markers (before ++ marker ++ after) = true := by
  rw [isTransient_iff, String.toList_append, String.toList_append]
  exact ⟨marker, mem, infix_lowercaseFrom settled before.toList after.toList⟩

/-- So is every marker without capital sigmas. -/
theorem isTransient_of_no_sigma {markers : List String} {marker : String}
    (no_sigma : 'Σ' ∉ marker.toList) (mem : marker ∈ markers) (before after : String) :
    isTransient markers (before ++ marker ++ after) = true :=
  isTransient_of_settled (sigmasSettled_of_not_mem no_sigma) mem before after

/-- **A marker is found in every message that contains it, whatever other markers there are, exactly
if its capital sigmas are settled.** -/
theorem found_everywhere_iff (marker : String) :
    (∀ markers, marker ∈ markers → ∀ before after,
        isTransient markers (before ++ marker ++ after) = true) ↔
      SigmasSettled marker := by
  constructor
  · intro found
    by_contra not_settled
    obtain ⟨before, after, missed⟩ := exists_not_infix_lowercaseFrom not_settled
    have alone := found [marker] (List.mem_singleton_self marker) (String.ofList before)
      (String.ofList after)
    rw [isTransient_iff] at alone
    obtain ⟨_, mem, here⟩ := alone
    obtain rfl := List.mem_singleton.mp mem
    simp only [String.toList_append, String.toList_ofList] at here
    exact missed here
  · intro settled markers mem before after
    exact isTransient_of_settled settled mem before after

/-- The default markers are found wherever they stand. -/
example : ∀ marker ∈ defaultMarkers, SigmasSettled marker := by
  decide

/-- A marker that ends in a capital sigma is missed in a message in which its word goes on, and a
marker that begins with one in a message in which it ends the word. -/
theorem missed_in_longer_word :
    isTransient ["ΛΑΘΟΣ"] ("" ++ "ΛΑΘΟΣ" ++ "ΕΔΩ") = false ∧
      isTransient ["Σ 42"] ("ΛΑΘΟ" ++ "Σ 42" ++ "") = false := by
  decide +kernel

end Safeguard
