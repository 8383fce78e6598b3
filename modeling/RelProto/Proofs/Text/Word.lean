import Mathlib.Data.List.Basic
import RelProto.Proofs.Text.Split
import RelProto.Text.Basic
import RelProto.Text.UpperCamel

/-! Words of letters, digits and underscores, all of them ASCII. A numbered word is a word, and the
camel case of a word has letters and digits only. -/
namespace RelProto.Text

def isWordCharacter (c : Char) : Bool := c.isAlphanum || c == '_'

def IsWord (s : String) : Prop := s ≠ "" ∧ s.toList.all isWordCharacter

instance (s : String) : Decidable (IsWord s) := inferInstanceAs (Decidable (_ ∧ _))

variable {s : String} {c : Char}

lemma IsWord.accepts_of_mem (h : IsWord s) (hc : c ∈ s.toList) : isWordCharacter c :=
  List.all_eq_true.mp h.2 c hc

lemma IsWord.notMem (h : IsWord s) (hc : isWordCharacter c = false) : c ∉ s.toList := by
  intro hmem
  have hword := h.accepts_of_mem hmem
  rw [hc] at hword
  cases hword

lemma isWordCharacter_of_isAlphanum (h : c.isAlphanum) : isWordCharacter c := by
  rw [isWordCharacter, h, Bool.true_or]

lemma isAlphanum_of_mem_toString {n : Nat} (h : c ∈ (toString n).toList) : c.isAlphanum := by
  rw [Nat.toString_eq_repr, Nat.toList_repr] at h
  have hdigit := Nat.isDigit_of_mem_toDigits (by decide) (by decide) h
  rw [Char.isAlphanum, hdigit, Bool.or_true]

lemma notMem_toString {n : Nat} (hc : c.isAlphanum = false) : c ∉ (toString n).toList := by
  intro hmem
  have halphanum := isAlphanum_of_mem_toString hmem
  rw [hc] at halphanum
  cases halphanum

theorem isWord_numberedName (h : IsWord s) (n : Nat) : IsWord (numberedName s n) := by
  cases n with
  | zero => exact h
  | succ n =>
    constructor
    · intro hempty
      have hlength := congrArg String.length hempty
      rw [numberedName, String.length_append, String.length_empty] at hlength
      exact h.1 (String.length_eq_zero_iff.mp (by omega))
    · rw [List.all_eq_true]
      intro c hc
      rw [numberedName, String.toList_append, List.mem_append] at hc
      rcases hc with hbase | hnumber
      · exact h.accepts_of_mem hbase
      · exact isWordCharacter_of_isAlphanum (isAlphanum_of_mem_toString hnumber)

section Camel

lemma toNat_lt_of_isAlphanum (h : c.isAlphanum) : c.toNat < 128 := by
  have hranges : ((decide ('A'.val ≤ c.val ∧ c.val ≤ 'Z'.val) ||
      (decide ('a'.val ≤ c.val) && decide (c.val ≤ 'z'.val))) ||
      (decide ('0'.val ≤ c.val) && decide (c.val ≤ '9'.val))) = true := h
  simp only [Bool.or_eq_true, Bool.and_eq_true, decide_eq_true_eq] at hranges
  obtain (⟨_, hle⟩ | ⟨_, hle⟩) | ⟨_, hle⟩ := hranges
  · exact Nat.lt_of_le_of_lt (UInt32.le_iff_toNat_le.mp hle) (by decide)
  · exact Nat.lt_of_le_of_lt (UInt32.le_iff_toNat_le.mp hle) (by decide)
  · exact Nat.lt_of_le_of_lt (UInt32.le_iff_toNat_le.mp hle) (by decide)

/-- What holds of all codes below 128 holds of the characters of ASCII. -/
@[elab_as_elim]
lemma forall_ascii {P : Char → Prop} (c : Char) (hc : c.toNat < 128)
    (h : ∀ n < 128, P (Char.ofNat n)) : P c := by
  rw [← Char.ofNat_toNat c]
  exact h c.toNat hc

/-- What holds of the letters and digits among these codes holds of all letters and digits. -/
@[elab_as_elim]
lemma forall_alphanum {P : Char → Prop} (c : Char) (hc : c.isAlphanum)
    (h : ∀ n < 128, (Char.ofNat n).isAlphanum → P (Char.ofNat n)) : P c := by
  have hascii : c.isAlphanum → P c := forall_ascii c (toNat_lt_of_isAlphanum hc) h
  exact hascii hc

/-- Within ASCII, changing the case of a letter leaves one letter. -/
lemma changed_eq (h : c.isAlphanum) :
    toUppercase c = [c.toUpper] ∧ toLowercase c = [c.toLower] :=
  forall_alphanum c h (by decide +kernel)

lemma isAlphanum_changed (h : c.isAlphanum) : c.toUpper.isAlphanum ∧ c.toLower.isAlphanum :=
  forall_alphanum c h (by decide +kernel)

lemma lowerTail_eq {word : List Char} (h : ∀ c ∈ word, c.isAlphanum) :
    lowerTail word = word.map Char.toLower := by
  fun_induction lowerTail word with
  | case1 => rfl
  | case2 => exact absurd (h 'Σ' (List.mem_singleton_self _)) (by decide)
  | case3 last _ => exact (changed_eq (h last (List.mem_singleton_self _))).2
  | case4 first rest _ ih =>
    obtain ⟨hfirst, hrest⟩ := List.forall_mem_cons.mp h
    rw [ih hrest, (changed_eq hfirst).2]
    rfl

lemma capitalize_cons_eq {first : Char} {rest : List Char} (hfirst : first.isAlphanum)
    (hrest : ∀ c ∈ rest, c.isAlphanum) :
    capitalize (first :: rest) = first.toUpper :: rest.map Char.toLower := by
  rw [capitalize, (changed_eq hfirst).1, lowerTail_eq hrest]
  rfl

lemma isAlphanum_of_mem_capitalize {word : List Char} (h : ∀ c ∈ word, c.isAlphanum)
    (hc : c ∈ capitalize word) : c.isAlphanum := by
  cases word with
  | nil => cases hc
  | cons first rest =>
    obtain ⟨hfirst, hrest⟩ := List.forall_mem_cons.mp h
    rw [capitalize_cons_eq hfirst hrest] at hc
    obtain rfl | hc := List.mem_cons.mp hc
    · exact (isAlphanum_changed hfirst).1
    · obtain ⟨d, hd, rfl⟩ := List.mem_map.mp hc
      exact (isAlphanum_changed (hrest d hd)).2

lemma mem_of_mem_wordsFrom {trend : Trend} {before word piece : List Char}
    (hword : word ∈ wordsFrom trend before piece) (hc : c ∈ word) : c ∈ before ∨ c ∈ piece := by
  fun_induction wordsFrom trend before piece with
  | case1 => cases hword
  | case2 trend before last =>
    rw [List.mem_singleton.mp hword, List.mem_reverse, List.mem_cons] at hc
    rw [List.mem_singleton]
    exact hc.symm
  | case3 trend before first next rest _ ih =>
    rcases List.mem_cons.mp hword with rfl | hword
    · rw [List.mem_reverse, List.mem_cons] at hc
      rcases hc with rfl | hc
      · exact .inr List.mem_cons_self
      · exact .inl hc
    · exact .inr (List.mem_cons_of_mem first ((ih hword).resolve_left List.not_mem_nil))
  | case4 trend before first next rest _ _ ih =>
    rcases List.mem_cons.mp hword with rfl | hword
    · exact .inl (List.mem_reverse.mp hc)
    · rcases ih hword with hfirst | hnext
      · exact .inr (List.mem_singleton.mp hfirst ▸ List.mem_cons_self)
      · exact .inr (List.mem_cons_of_mem first hnext)
  | case5 trend before first next rest _ _ ih =>
    rcases ih hword with hword | hnext
    · rcases List.mem_cons.mp hword with rfl | hbefore
      · exact .inr List.mem_cons_self
      · exact .inl hbefore
    · exact .inr (List.mem_cons_of_mem first hnext)

/-- An underscore separates words, so that no word has one. -/
theorem isAlphanum_of_mem_upperCamel (h : IsWord s) (hc : c ∈ (upperCamel s).toList) :
    c.isAlphanum := by
  rw [upperCamel, String.toList_ofList, List.mem_flatMap] at hc
  obtain ⟨word, hword, hc⟩ := hc
  refine isAlphanum_of_mem_capitalize ?_ hc
  intro d hd
  obtain ⟨piece, hpiece, hword⟩ := List.mem_flatMap.mp hword
  have hmem := (mem_of_mem_wordsFrom hword hd).resolve_left List.not_mem_nil
  obtain ⟨htext, hkept⟩ := mem_of_mem_split hpiece hmem
  have hd' := h.accepts_of_mem htext
  rw [isWordCharacter, Bool.or_eq_true, beq_iff_eq] at hd'
  rcases hd' with halphanum | rfl
  · exact halphanum
  · have hunderscore : isAlphanumeric '_' = false := by decide +kernel
    rw [hunderscore] at hkept
    cases hkept

lemma notMem_upperCamel (h : IsWord s) (hc : c.isAlphanum = false) :
    c ∉ (upperCamel s).toList := by
  intro hmem
  have halphanum := isAlphanum_of_mem_upperCamel h hmem
  rw [hc] at halphanum
  cases halphanum

end Camel

end RelProto.Text
