import DicePool.Proofs.Text.Classes
import DicePool.Text.Identifier

/-!
# Proofs/Text/Identifiers — what stands in no identifier

Identifiers are made of characters that are given by ranges of code points, as blanks are, and the two lie
apart (`isIdentifierPart_eq_false_of_isBlank`). Main statement `isIdentifier_eq_false_of_isBlank`: a text
with a blank in it is no identifier.
-/

namespace DicePool.Text

/-- The characters that may stand in an identifier. -/
def identifierRanges : List (Nat × Nat) :=
  letterRanges ++ [(0x30, 0x39), (0x5f, 0x5f)]
    ++ identifierStartRanges.toList ++ identifierPartRanges.toList

theorem covers_of_isIdentifierPart {c : Char} (h : isIdentifierPart c) :
    Covers identifierRanges c.toNat := by
  have hlisted {rs : List (Nat × Nat)} (hrs : rs ⊆ identifierRanges) (hc : Covers rs c.toNat) :
      Covers identifierRanges c.toNat :=
    hc.imp fun _ => And.imp_left (hrs ·)
  simp only [isIdentifierPart, isIdentifierStart, isAlpha_iff, Char.isDigit, Bool.or_eq_true,
    Bool.and_eq_true, decide_eq_true_eq, beq_iff_eq, inRanges_iff] at h
  rcases h with (((hletter | rfl) | hstart) | hdigit) | hpart
  · exact hlisted (by simp [identifierRanges]) hletter
  · exact ⟨(0x5f, 0x5f), by simp [identifierRanges], by decide, by decide⟩
  · exact hlisted (List.subset_append_of_subset_left _ (List.subset_append_right _ _)) hstart
  · exact ⟨(0x30, 0x39), by simp [identifierRanges], hdigit.1, hdigit.2⟩
  · exact hlisted (List.subset_append_right _ _) hpart

/-- **No blank stands in an identifier.** -/
theorem isIdentifierPart_eq_false_of_isBlank {c : Char} (h : isBlank c) :
    isIdentifierPart c = false := by
  rw [← Bool.not_eq_true]
  exact fun hpart =>
    not_covers_of_apart (by decide +kernel) (isBlank_iff.1 h) (covers_of_isIdentifierPart hpart)

theorem isIdentifierPart_of_mem {s : List Char} (h : isIdentifier s) : ∀ c ∈ s, isIdentifierPart c := by
  cases s with
  | nil => simp
  | cons c rest =>
    rw [isIdentifier, Bool.and_eq_true] at h
    refine List.forall_mem_cons.2 ⟨?_, List.all_eq_true.1 h.2⟩
    rw [isIdentifierPart, h.1]
    rfl

/-- **A text with a blank in it is no identifier.** -/
theorem isIdentifier_eq_false_of_isBlank {s : List Char} {c : Char} (hc : c ∈ s) (h : isBlank c) :
    isIdentifier s = false := by
  rw [← Bool.not_eq_true]
  intro hs
  have hpart := isIdentifierPart_of_mem hs c hc
  rw [isIdentifierPart_eq_false_of_isBlank h] at hpart
  cases hpart

end DicePool.Text
