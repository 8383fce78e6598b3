import RelProto.Proofs.Text.Word
import RelProto.Text.Lowercase

/-! Which texts have a word as their lowercase: those that spell it in letters of ASCII. Another
character never leaves such letters only, except for the sign that becomes a `k`. -/
namespace RelProto.Text

/-- A letter of ASCII that is the lowercase of letters of ASCII only. -/
def IsPlainLetter (c : Char) : Prop := c.isAlpha ∧ c ≠ 'k'

instance (c : Char) : Decidable (IsPlainLetter c) := inferInstanceAs (Decidable (_ ∧ _))

variable {c : Char} {word : List Char}

/-- The runs that lead from outside of ASCII into it. -/
lemma shift_cases : ∀ shift ∈ lowercaseShifts,
    shift.1.2.1 < 128 ∨ shift = ((0x212a, 0x212a, 1), -8383) ∨ 128 ≤ shift.1.1 + shift.2 := by
  decide +kernel

lemma not_isPlainLetter_of_le (hc : 128 ≤ c.toNat) : ¬ IsPlainLetter c := fun hplain =>
  Nat.not_lt_of_le hc (toNat_lt_of_isAlphanum (by rw [Char.isAlphanum, hplain.1, Bool.true_or]))

lemma not_isPlainLetter_ofNat {n : Nat} (hn : 128 ≤ n) : ¬ IsPlainLetter (Char.ofNat n) := by
  by_cases hvalid : n.isValidChar
  · have hcode : (Char.ofNat n).toNat = n := by
      rw [Char.ofNat, dif_pos hvalid]
      rfl
    exact not_isPlainLetter_of_le (hcode.symm ▸ hn)
  · -- What is no character is read as NUL.
    rw [Char.ofNat, dif_neg hvalid]
    decide

/-- The lowercase of a character outside of ASCII. -/
lemma exists_mem_toLowercase (hc : 128 ≤ c.toNat) : ∃ d ∈ toLowercase c, ¬ IsPlainLetter d := by
  rw [toLowercase]
  split
  next codes hcodes =>
    have hcodes' : codes = [0x69, 0x307] := by
      simp only [lowercaseExpansions, List.lookup_cons, List.lookup_nil] at hcodes
      split at hcodes
      · exact (Option.some.inj hcodes).symm
      · cases hcodes
    exact ⟨Char.ofNat 0x307, by simp [hcodes'], not_isPlainLetter_ofNat (by decide)⟩
  next =>
    split
    next run distance hfound =>
      have hrun := List.find?_some hfound
      simp only [Run.contains, Bool.and_eq_true, decide_eq_true_eq] at hrun
      obtain ⟨⟨hfirst, hlast⟩, -⟩ := hrun
      refine ⟨_, List.mem_singleton_self _, ?_⟩
      obtain hascii | hkelvin | hhigh := shift_cases _ (List.mem_of_find?_eq_some hfound)
      · dsimp only at hascii
        omega
      · obtain ⟨rfl, rfl⟩ := Prod.mk.inj hkelvin
        have hcode : c.toNat = 0x212a := Nat.le_antisymm hlast hfirst
        rw [hcode]
        decide
      · apply not_isPlainLetter_ofNat
        dsimp only at hhigh
        omega
    next => exact ⟨c, List.mem_singleton_self c, not_isPlainLetter_of_le hc⟩

lemma toLower_eq_of_le (hc : 128 ≤ c.toNat) : c.toLower = c := by
  have hletter : ¬ (c.val ≥ 'A'.val ∧ c.val ≤ 'Z'.val) := by
    rintro ⟨-, hle⟩
    have hlow : c.toNat ≤ 90 := UInt32.le_iff_toNat_le.mp hle
    omega
  exact dif_neg hletter

/-- The lowercase of a character outside of ASCII, a final sigma or not. -/
lemma exists_mem_lowered (hc : 128 ≤ c.toNat) (final : Bool) :
    ∃ d ∈ if c = 'Σ' then [if final then 'ς' else 'σ'] else toLowercase c, ¬ IsPlainLetter d := by
  by_cases hsigma : c = 'Σ'
  · rw [if_pos hsigma]
    exact ⟨_, List.mem_singleton_self _, by cases final <;> decide⟩
  · rw [if_neg hsigma]
    exact exists_mem_toLowercase hc

lemma lowerAfter_eq_iff (hword : ∀ d ∈ word, IsPlainLetter d) {before s : List Char} :
    lowerAfter before s = word ↔ s.map Char.toLower = word := by
  induction s generalizing before word with
  | nil => rfl
  | cons c rest ih =>
    rw [lowerAfter, List.map_cons]
    by_cases hc : c.toNat < 128
    · have hsigma : c ≠ 'Σ' := by
        rintro rfl
        revert hc
        decide
      have hlower : toLowercase c = [c.toLower] := forall_ascii c hc (by decide +kernel)
      rw [if_neg hsigma, hlower, List.singleton_append]
      cases word with
      | nil => simp
      | cons d word =>
        rw [List.cons.injEq, List.cons.injEq, ih (List.forall_mem_cons.mp hword).2]
    · have hc' := Nat.le_of_not_lt hc
      apply iff_of_false
      · rintro rfl
        obtain ⟨d, hd, hplain⟩ := exists_mem_lowered hc' (meetsCased before && !meetsCased rest)
        exact hplain (hword d (List.mem_append_left _ hd))
      · rintro rfl
        rw [toLower_eq_of_le hc'] at hword
        exact not_isPlainLetter_of_le hc' (hword c List.mem_cons_self)

/-- The word in letters of either case. -/
theorem lower_eq_iff {s word : String} (hword : ∀ d ∈ word.toList, IsPlainLetter d) :
    lower s = word ↔ s.toList.map Char.toLower = word.toList := by
  rw [← lowerAfter_eq_iff hword, lower, ← String.toList_inj, String.toList_ofList]

end RelProto.Text
