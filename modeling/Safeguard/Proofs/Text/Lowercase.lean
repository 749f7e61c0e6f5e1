import Mathlib.Data.List.Infix
import Safeguard.Text.Lowercase

/-!
# Lowercase text in its surroundings

The lowercase form of a part of a text depends on the surroundings of the part only through its
capital sigmas (`lowercaseBetween`). A sigma is settled if the part alone shows whether it ends a
word: the first letters that are not looked past, on the sides where that matters, are in the part
(`IsSettled`). A part whose sigmas are all settled has one lowercase form in all surroundings
(`lowercaseBetween_of_settled`). Any other part loses a form of sigma to a letter before it or after
it (`count_before_letter_lt`, `count_after_letter_lt`), so it has another form there.
-/

namespace Safeguard.Text

/-! ## What is met on one side -/

/-- Whether nothing in a text ends the search for the next letter. -/
def isPassed (cs : List Char) : Bool := cs.all isCaseIgnorable

theorem meetsCased_append_of_passed {cs : List Char} (passed : isPassed cs = true)
    (further : List Char) : meetsCased (cs ++ further) = meetsCased further := by
  have all : ∀ c ∈ cs, isCaseIgnorable c = true := List.all_eq_true.mp passed
  rw [meetsCased, List.dropWhile_append_of_pos all, meetsCased]

theorem meetsCased_of_passed {cs : List Char} (passed : isPassed cs = true) :
    meetsCased cs = false := by
  have alone := meetsCased_append_of_passed passed []
  rw [List.append_nil] at alone
  exact alone

/-- Nothing further out matters if the search ends before. -/
theorem meetsCased_append_of_not_passed {cs : List Char} (not_passed : isPassed cs = false)
    (further : List Char) : meetsCased (cs ++ further) = meetsCased cs := by
  induction cs with
  | nil => cases not_passed
  | cons c cs ih =>
    by_cases ignorable : isCaseIgnorable c = true
    · have rest : isPassed cs = false := by simpa [isPassed, ignorable] using not_passed
      simpa [meetsCased, ignorable] using ih rest
    · simp [meetsCased, ignorable]

theorem not_passed_of_meetsCased {cs : List Char} (meets : meetsCased cs = true) :
    isPassed cs = false := by
  by_contra passed
  rw [Bool.not_eq_false] at passed
  rw [meetsCased_of_passed passed] at meets
  cases meets

/-- A cased letter further out is met, or something is met before it. -/
theorem meetsCased_append_of_meetsCased {cs : List Char} (meets : meetsCased cs = true)
    (further : List Char) : meetsCased (cs ++ further) = true := by
  rw [meetsCased_append_of_not_passed (not_passed_of_meetsCased meets), meets]

/-! ## Capital sigmas -/

/-- Whether what stands around a capital sigma in a part of a text (nearest first before it) shows
its lowercase form, whatever stands around the part. -/
inductive IsSettled (before after : List Char) : Prop
  /-- It follows something that is no letter, so it ends no word of two letters. -/
  | apart (seen : isPassed before = false) (no_letter : meetsCased before = false)
  /-- Its word goes on. -/
  | goesOn (letter : meetsCased after = true)
  /-- It follows a letter, and something that is no letter ends the word. -/
  | final (letter : meetsCased before = true) (seen : isPassed after = false)

theorem isSettled_iff {before after : List Char} :
    IsSettled before after ↔
      isPassed before = false ∧ meetsCased before = false ∨ meetsCased after = true ∨
        meetsCased before = true ∧ isPassed after = false := by
  constructor
  · rintro (⟨seen, no_letter⟩ | letter | ⟨letter, seen⟩)
    · exact .inl ⟨seen, no_letter⟩
    · exact .inr (.inl letter)
    · exact .inr (.inr ⟨letter, seen⟩)
  · rintro (⟨seen, no_letter⟩ | letter | ⟨letter, seen⟩)
    · exact .apart seen no_letter
    · exact .goesOn letter
    · exact .final letter seen

instance (before after : List Char) : Decidable (IsSettled before after) :=
  decidable_of_iff _ isSettled_iff.symm

/-- A settled sigma has one form in all surroundings. -/
theorem lowercaseSigma_of_settled {before after : List Char} (settled : IsSettled before after)
    (further_before further_after : List Char) :
    lowercaseSigma (before ++ further_before) (after ++ further_after) =
      lowercaseSigma before after := by
  cases settled with
  | apart seen no_letter =>
    simp only [lowercaseSigma, meetsCased_append_of_not_passed seen, no_letter, Bool.false_and]
  | goesOn letter =>
    simp only [lowercaseSigma, meetsCased_append_of_meetsCased letter, letter, Bool.not_true,
      Bool.and_false]
  | final letter seen =>
    simp only [lowercaseSigma, meetsCased_append_of_meetsCased letter,
      meetsCased_append_of_not_passed seen, letter]

/-- A sigma that is not settled is open on the left, or it follows a letter and is open on the
right. -/
theorem cases_of_not_settled {before after : List Char} (open_sigma : ¬IsSettled before after) :
    meetsCased after = false ∧
      (isPassed before = true ∨ meetsCased before = true ∧ isPassed after = true) := by
  rw [isSettled_iff] at open_sigma
  cases passed : isPassed before <;> cases letter : meetsCased before <;>
    cases passed' : isPassed after <;> cases goes_on : meetsCased after <;>
    simp_all

/-! ## Parts of texts -/

/-- The lowercase form of a part of a text, between `before` (nearest first) and `after`. -/
def lowercaseBetween (before after : List Char) : List Char → List Char
  | [] => []
  | c :: rest =>
    (if c = 'Σ' then [lowercaseSigma before (rest ++ after)] else lowercaseChar c) ++
      lowercaseBetween (c :: before) after rest

theorem lowercaseFrom_append (before part after : List Char) :
    lowercaseFrom before (part ++ after) =
      lowercaseBetween before after part ++ lowercaseFrom (part.reverse ++ before) after := by
  induction part generalizing before with
  | nil => rfl
  | cons c rest ih =>
    rw [List.cons_append, lowercaseFrom, ih, lowercaseBetween, List.append_assoc,
      List.reverse_cons, List.append_assoc, List.singleton_append]

/-- A text is a part of itself, with nothing around it. -/
theorem lowercaseFrom_eq (before part : List Char) :
    lowercaseFrom before part = lowercaseBetween before [] part := by
  have whole := lowercaseFrom_append before part []
  rwa [List.append_nil, lowercaseFrom, List.append_nil] at whole

theorem lowercaseBetween_append (before after part rest : List Char) :
    lowercaseBetween before after (part ++ rest) =
      lowercaseBetween before (rest ++ after) part ++
        lowercaseBetween (part.reverse ++ before) after rest := by
  induction part generalizing before with
  | nil => rfl
  | cons c part ih =>
    rw [List.cons_append, lowercaseBetween, ih, lowercaseBetween, List.append_assoc part,
      List.append_assoc, List.reverse_cons, List.append_assoc part.reverse, List.singleton_append]

theorem lowercaseBetween_sigma (before after part : List Char) :
    lowercaseBetween before after ('Σ' :: part) =
      lowercaseSigma before (part ++ after) :: lowercaseBetween ('Σ' :: before) after part := by
  rw [lowercaseBetween, if_pos rfl, List.singleton_append]

/-- Every capital sigma of a part is settled, given what stands before it in the same part (nearest
first). -/
def SigmasSettledAfter (before part : List Char) : Prop :=
  ∀ left right, part = left ++ 'Σ' :: right → IsSettled (left.reverse ++ before) right

theorem sigmasSettledAfter_nil (before : List Char) : SigmasSettledAfter before [] := by
  rintro (_ | ⟨c, left⟩) right split <;> cases split

theorem sigmasSettledAfter_cons_iff {before rest : List Char} {c : Char} :
    SigmasSettledAfter before (c :: rest) ↔
      (c = 'Σ' → IsSettled before rest) ∧ SigmasSettledAfter (c :: before) rest := by
  constructor
  · intro settled
    refine ⟨fun sigma => settled [] rest (by rw [sigma]; rfl), fun left right split => ?_⟩
    have this_one := settled (c :: left) right (by rw [split]; rfl)
    rwa [List.reverse_cons, List.append_assoc] at this_one
  · rintro ⟨first, later⟩ (_ | ⟨d, left⟩) right split
    · obtain ⟨sigma, rfl⟩ := List.cons.inj split
      exact first sigma
    · obtain ⟨rfl, rfl⟩ := List.cons.inj split
      rw [List.reverse_cons, List.append_assoc]
      exact later left right rfl

/-- Whether all sigmas are settled can be told in one pass. -/
instance decidableSigmasSettledAfter :
    (before part : List Char) → Decidable (SigmasSettledAfter before part)
  | before, [] => .isTrue (sigmasSettledAfter_nil before)
  | before, c :: rest =>
    have := decidableSigmasSettledAfter (c :: before) rest
    decidable_of_iff _ sigmasSettledAfter_cons_iff.symm

/-- A part whose sigmas are settled has one lowercase form in all surroundings. -/
theorem lowercaseBetween_of_settled {before part : List Char}
    (settled : SigmasSettledAfter before part) (further_before further_after : List Char) :
    lowercaseBetween (before ++ further_before) further_after part =
      lowercaseBetween before [] part := by
  induction part generalizing before with
  | nil => rfl
  | cons c rest ih =>
    obtain ⟨first, later⟩ := sigmasSettledAfter_cons_iff.mp settled
    rw [lowercaseBetween, lowercaseBetween, ← List.cons_append, ih later]
    congr 1
    split
    · rename_i sigma
      rw [lowercaseSigma_of_settled (first sigma), List.append_nil]
    · rfl

/-! ## Letters next to a part -/

/-- A form that each sigma of a part has in some surroundings only if it has it in others is counted
at most as often there. -/
theorem count_lowercaseBetween_le {form : Char} {before after before' after' : List Char}
    (less : ∀ left right : List Char, lowercaseSigma (left ++ before) (right ++ after) = form →
      lowercaseSigma (left ++ before') (right ++ after') = form) (left part : List Char) :
    (lowercaseBetween (left ++ before) after part).count form ≤
      (lowercaseBetween (left ++ before') after' part).count form := by
  induction part generalizing left with
  | nil => exact Nat.le_refl _
  | cons c rest ih =>
    rw [lowercaseBetween, lowercaseBetween, List.count_append, List.count_append]
    refine Nat.add_le_add ?_ (ih (c :: left))
    split
    · have this_one := less left rest
      rw [List.count_singleton, List.count_singleton]
      simp only [beq_iff_eq]
      split
      · rename_i eq
        rw [if_pos (this_one eq)]
      · exact Nat.zero_le _
    · exact Nat.le_refl _

/-- It is counted less often there if a sigma has it there and not here. -/
theorem count_lowercaseBetween_lt {form : Char} {before after before' after' : List Char}
    (less : ∀ left right : List Char, lowercaseSigma (left ++ before) (right ++ after) = form →
      lowercaseSigma (left ++ before') (right ++ after') = form) {left right : List Char}
    (lost : lowercaseSigma (left.reverse ++ before) (right ++ after) ≠ form)
    (had : lowercaseSigma (left.reverse ++ before') (right ++ after') = form) :
    (lowercaseBetween before after (left ++ 'Σ' :: right)).count form <
      (lowercaseBetween before' after' (left ++ 'Σ' :: right)).count form := by
  have first : (lowercaseBetween before ('Σ' :: right ++ after) left).count form ≤
      (lowercaseBetween before' ('Σ' :: right ++ after') left).count form := by
    refine count_lowercaseBetween_le (fun l r => ?_) [] left
    rw [← List.append_assoc, ← List.append_assoc]
    exact less l (r ++ 'Σ' :: right)
  have last := count_lowercaseBetween_le less ('Σ' :: left.reverse) right
  simp only [List.cons_append] at first last
  simp only [lowercaseBetween_append, lowercaseBetween_sigma, List.cons_append, List.count_append,
    List.count_cons, had, beq_self_eq_true, if_true, beq_eq_false_iff_ne.mpr lost,
    Bool.false_eq_true, if_false]
  omega

theorem lowercaseSigma_eq_final_iff {before after : List Char} :
    lowercaseSigma before after = 'ς' ↔ meetsCased before = true ∧ meetsCased after = false := by
  unfold lowercaseSigma
  cases meetsCased before <;> cases meetsCased after <;> decide

theorem lowercaseSigma_eq_medial_iff {before after : List Char} :
    lowercaseSigma before after = 'σ' ↔ meetsCased before = false ∨ meetsCased after = true := by
  unfold lowercaseSigma
  cases meetsCased before <;> cases meetsCased after <;> decide

theorem meetsCased_of_append {cs further : List Char} (none : meetsCased (cs ++ further) = false) :
    meetsCased cs = false := by
  by_contra meets
  rw [Bool.not_eq_false] at meets
  rw [meetsCased_append_of_meetsCased meets] at none
  cases none

/-- A letter is met after what is passed. -/
theorem meetsCased_letter {cs : List Char} (passed : isPassed cs = true) :
    meetsCased (cs ++ ['A']) = true := by
  rw [meetsCased_append_of_passed passed]
  decide +kernel

theorem lowercaseChar_letter : lowercaseChar 'A' = ['a'] := by
  decide +kernel

/-- A letter after a part takes the final form from a sigma that is open on the right. -/
theorem count_before_letter_lt {left right : List Char} (letter : meetsCased left.reverse = true)
    (passed : isPassed right = true) :
    (lowercaseFrom [] (left ++ 'Σ' :: right ++ ['A'])).count 'ς' <
      (lowercaseFrom [] (left ++ 'Σ' :: right)).count 'ς' := by
  rw [lowercaseFrom_append, List.count_append, lowercaseFrom_eq [] (left ++ 'Σ' :: right),
    lowercaseFrom, if_neg (by decide), lowercaseChar_letter]
  refine count_lowercaseBetween_lt ?_ ?_ ?_
  · intro l r final
    rw [lowercaseSigma_eq_final_iff] at final ⊢
    rw [List.append_nil r]
    exact ⟨final.1, meetsCased_of_append final.2⟩
  · rw [ne_eq, lowercaseSigma_eq_final_iff, meetsCased_letter passed]
    exact fun final => Bool.noConfusion final.2
  · rw [lowercaseSigma_eq_final_iff, List.append_nil, List.append_nil]
    exact ⟨letter, meetsCased_of_passed passed⟩

/-- A letter before a part takes the medial form from a sigma that is open on the left. -/
theorem count_after_letter_lt {left right : List Char} (passed : isPassed left.reverse = true)
    (no_letter : meetsCased right = false) :
    (lowercaseFrom [] ('A' :: (left ++ 'Σ' :: right))).count 'σ' <
      (lowercaseFrom [] (left ++ 'Σ' :: right)).count 'σ' := by
  rw [lowercaseFrom, if_neg (by decide), lowercaseChar_letter, lowercaseFrom_eq, lowercaseFrom_eq]
  refine count_lowercaseBetween_lt ?_ ?_ ?_
  · intro l r medial
    rw [lowercaseSigma_eq_medial_iff] at medial ⊢
    rw [List.append_nil l]
    exact medial.imp_left meetsCased_of_append
  · rw [ne_eq, lowercaseSigma_eq_medial_iff, meetsCased_letter passed, List.append_nil, no_letter]
    decide
  · rw [lowercaseSigma_eq_medial_iff, List.append_nil]
    exact .inl (meetsCased_of_passed passed)

/-! ## Texts in longer texts -/

/-- A part whose sigmas are settled has its lowercase form in that of every text around it. -/
theorem infix_lowercaseFrom {part : List Char} (settled : SigmasSettledAfter [] part)
    (before after : List Char) :
    lowercaseFrom [] part <:+: lowercaseFrom [] (before ++ part ++ after) := by
  have same := lowercaseBetween_of_settled settled before.reverse after
  rw [List.nil_append] at same
  rw [List.append_assoc, lowercaseFrom_append, lowercaseFrom_append, lowercaseFrom_eq [], ← same,
    List.append_nil, ← List.append_assoc]
  exact List.infix_append _ _ _

/-- A part with a sigma that is not settled has not, in the text with one more letter before it or
after it. -/
theorem exists_not_infix_lowercaseFrom {part : List Char}
    (not_settled : ¬SigmasSettledAfter [] part) :
    ∃ before after, ¬lowercaseFrom [] part <:+: lowercaseFrom [] (before ++ part ++ after) := by
  have fewer (form : Char) {text : List Char} (less : (lowercaseFrom [] text).count form <
      (lowercaseFrom [] part).count form) : ¬lowercaseFrom [] part <:+: lowercaseFrom [] text :=
    fun found => Nat.not_lt_of_le (found.sublist.count_le form) less
  simp only [SigmasSettledAfter, not_forall, List.append_nil] at not_settled
  obtain ⟨left, right, rfl, open_sigma⟩ := not_settled
  obtain ⟨no_letter, passed | ⟨letter, passed⟩⟩ := cases_of_not_settled open_sigma
  · refine ⟨['A'], [], fewer 'σ' ?_⟩
    rw [List.append_nil]
    exact count_after_letter_lt passed no_letter
  · exact ⟨[], ['A'], fewer 'ς' (count_before_letter_lt letter passed)⟩

/-- Every capital sigma of a text is settled. -/
abbrev SigmasSettled (s : String) : Prop := SigmasSettledAfter [] s.toList

/-- A text without capital sigmas has none that is not settled. -/
theorem sigmasSettled_of_not_mem {s : String} (none : 'Σ' ∉ s.toList) : SigmasSettled s := by
  intro left right split
  rw [split] at none
  exact absurd (List.mem_append_right _ List.mem_cons_self) none

theorem occursIn_iff {part text : List Char} : occursIn part text = true ↔ part <:+: text := by
  induction text with
  | nil => rw [occursIn, List.isEmpty_iff, List.infix_nil]
  | cons c rest ih =>
    rw [occursIn, Bool.or_eq_true, ih, List.isPrefixOf_iff_prefix, List.infix_cons_iff]

/-- A word at the end of which a sigma stands is not settled, since it may go on. -/
example : ¬SigmasSettled "ΛΑΘΟΣ" ∧ SigmasSettled "ΛΑΘΟΣ!" ∧ SigmasSettled "ΣΦΑΛΜΑ" := by
  decide +kernel

end Safeguard.Text
