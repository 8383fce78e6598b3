import Mathlib.Tactic.SplitIfs
import RelProto.Proofs.List
import RelProto.Text.Basic

/-! The pieces of texts that were put together from pieces. -/
namespace RelProto.Text

variable {separates : Char → Bool}

/-- Two texts are cut at a separator, which begins with a character that is not in front of it. -/
lemma append_separator_inj {c : Char} {separator s t x y : String}
    (hseparator : separator.toList.head? = some c) (hs : c ∉ s.toList) (ht : c ∉ t.toList)
    (h : s ++ (separator ++ x) = t ++ (separator ++ y)) : s = t ∧ x = y := by
  obtain ⟨rest, hrest⟩ := List.head?_eq_some_iff.mp hseparator
  have hlists := congrArg String.toList h
  simp only [String.toList_append, hrest, List.cons_append] at hlists
  obtain ⟨hfront, hback⟩ := append_cons_inj hs ht hlists
  exact ⟨String.toList_inj.mp hfront, String.toList_inj.mp (List.append_cancel_left hback)⟩

lemma split_append_separator {c : Char} (hc : separates c = true) (s t : List Char) :
    split separates (s ++ c :: t) = split separates s ++ split separates t := by
  induction s with
  | nil => simp [split, hc]
  | cons first s ih =>
    rw [List.cons_append, split, split, ih]
    split_ifs with hfirst
    · rfl
    · obtain ⟨piece, pieces, hsplit⟩ := List.exists_cons_of_ne_nil (split_ne_nil separates s)
      rw [hsplit]
      rfl

lemma split_eq_singleton {t : List Char} (ht : ∀ c ∈ t, separates c = false) :
    split separates t = [t] := by
  induction t with
  | nil => rfl
  | cons c t ih =>
    obtain ⟨hc, ht⟩ := List.forall_mem_cons.mp ht
    simp [split, hc, ih ht]

/-- A text is cut at what separates its characters. -/
lemma split_congr {separates' : Char → Bool} {s : List Char}
    (h : ∀ c ∈ s, separates c = separates' c) : split separates s = split separates' s := by
  induction s with
  | nil => rfl
  | cons c s ih =>
    obtain ⟨hc, hs⟩ := List.forall_mem_cons.mp h
    rw [split, split, hc, ih hs]

/-- The pieces make up the text again. -/
lemma intercalate_split (separator : Char) (s : List Char) :
    [separator].intercalate (split (· == separator) s) = s := by
  induction s with
  | nil => rfl
  | cons c s ih =>
    obtain ⟨piece, pieces, hsplit⟩ := List.exists_cons_of_ne_nil (split_ne_nil (· == separator) s)
    rw [hsplit] at ih
    rw [split, hsplit]
    by_cases hc : c = separator
    · simpa [hc] using ih
    · have hcons : [separator].intercalate ((c :: piece) :: pieces) =
          c :: [separator].intercalate (piece :: pieces) := by
        cases pieces <;> simp
      rw [if_neg (by simpa using hc), hcons, ih]

/-- The last piece ends in what is put behind the text, if there is no separator in it. -/
lemma exists_split_append {t : List Char} (ht : ∀ c ∈ t, separates c = false) (s : List Char) :
    ∃ pieces last, split separates (s ++ t) = pieces ++ [last ++ t] := by
  induction s with
  | nil => exact ⟨[], [], split_eq_singleton ht⟩
  | cons first s ih =>
    obtain ⟨pieces, last, hsplit⟩ := ih
    rw [List.cons_append, split, hsplit]
    split_ifs with hfirst
    · exact ⟨[] :: pieces, last, rfl⟩
    · cases pieces with
      | nil => exact ⟨[], first :: last, rfl⟩
      | cons piece pieces => exact ⟨(first :: piece) :: pieces, last, rfl⟩

/-- A piece has characters of the text, and no separators. -/
lemma mem_of_mem_split {s piece : List Char} {c : Char} (hpiece : piece ∈ split separates s)
    (hc : c ∈ piece) : c ∈ s ∧ separates c = false := by
  induction s generalizing piece with
  | nil =>
    rw [split, List.mem_singleton] at hpiece
    rw [hpiece] at hc
    cases hc
  | cons first s ih =>
    rw [List.mem_cons]
    rw [split] at hpiece
    split_ifs at hpiece with hfirst
    · rcases List.mem_cons.mp hpiece with rfl | hpiece
      · cases hc
      · exact (ih hpiece hc).imp_left .inr
    · obtain ⟨head, pieces, hsplit⟩ := List.exists_cons_of_ne_nil (split_ne_nil separates s)
      rw [hsplit] at hpiece ih
      rcases List.mem_cons.mp hpiece with rfl | hpiece
      · rcases List.mem_cons.mp hc with rfl | hc
        · exact ⟨.inl rfl, by simpa using hfirst⟩
        · exact (ih List.mem_cons_self hc).imp_left .inr
      · exact (ih (List.mem_cons_of_mem head hpiece) hc).imp_left .inr

/-- Behind the last of the pieces that end in a separator there is an empty one. -/
lemma split_flatMap_separator {c : Char} (hc : separates c = true) {pieces : List (List Char)}
    (h : ∀ piece ∈ pieces, ∀ c ∈ piece, separates c = false) :
    split separates (pieces.flatMap (· ++ [c])) = pieces ++ [[]] := by
  induction pieces with
  | nil => rfl
  | cons piece pieces ih =>
    obtain ⟨hpiece, h⟩ := List.forall_mem_cons.mp h
    rw [List.flatMap_cons, List.append_assoc, List.singleton_append, split_append_separator hc,
      split_eq_singleton hpiece, ih h]
    rfl

/-- A filler between a separator and the next piece becomes a part of that piece. -/
lemma split_intercalate {c : Char} (hc : separates c = true) {filler : List Char}
    (hfiller : ∀ c ∈ filler, separates c = false) {piece : List Char} {pieces : List (List Char)}
    (hpiece : ∀ c ∈ piece, separates c = false)
    (h : ∀ piece ∈ pieces, ∀ c ∈ piece, separates c = false) :
    split separates ((c :: filler).intercalate (piece :: pieces)) =
      piece :: pieces.map (filler ++ ·) := by
  induction pieces generalizing piece with
  | nil => simp [split_eq_singleton hpiece]
  | cons next pieces ih =>
    obtain ⟨hnext, h⟩ := List.forall_mem_cons.mp h
    have hfirst : (c :: filler).intercalate (piece :: next :: pieces) =
        piece ++ c :: (c :: filler).intercalate ((filler ++ next) :: pieces) := by
      cases pieces with
      | nil => simp
      | cons _ _ => simp
    rw [hfirst, split_append_separator hc, split_eq_singleton hpiece, ih ?_ h]
    · rfl
    · intro d hd
      rcases List.mem_append.mp hd with hd | hd
      · exact hfiller d hd
      · exact hnext d hd

/-- A character of joined pieces comes from the separator or from a piece. -/
lemma mem_intercalate {separator : List Char} {pieces : List (List Char)} {c : Char}
    (hc : c ∈ separator.intercalate pieces) : c ∈ separator ∨ ∃ piece ∈ pieces, c ∈ piece := by
  induction pieces with
  | nil => simp at hc
  | cons first rest ih =>
    cases rest with
    | nil => exact .inr ⟨first, List.mem_cons_self, by simpa using hc⟩
    | cons next rest =>
      rw [List.intercalate_cons_cons, List.mem_append, List.mem_append] at hc
      obtain (hfirst | hseparator) | hrest := hc
      · exact .inr ⟨first, List.mem_cons_self, hfirst⟩
      · exact .inl hseparator
      · obtain hseparator | ⟨piece, hpiece, hmem⟩ := ih hrest
        · exact .inl hseparator
        · exact .inr ⟨piece, List.mem_cons_of_mem first hpiece, hmem⟩

section Texts

variable {texts texts' : List String}

lemma beq_eq_false_of_notMem {c : Char} (h : ∀ text ∈ texts, c ∉ text.toList) :
    ∀ piece ∈ texts.map String.toList, ∀ d ∈ piece, (d == c) = false := by
  intro piece hpiece d hd
  obtain ⟨text, htext, rfl⟩ := List.mem_map.mp hpiece
  rw [beq_eq_false_iff_ne]
  rintro rfl
  exact h text htext hd

lemma split_join_lines (h : ∀ text ∈ texts, '\n' ∉ text.toList) :
    split (· == '\n') (String.join (texts.map (· ++ "\n"))).toList =
      texts.map String.toList ++ [[]] := by
  have hjoin : (String.join (texts.map (· ++ "\n"))).toList =
      (texts.map String.toList).flatMap (· ++ ['\n']) := by
    simp [String.toList_join, List.flatMap_map]
  rw [hjoin]
  exact split_flatMap_separator (by rfl) (beq_eq_false_of_notMem h)

/-- Texts without line feeds can be read back from the lines that they make. -/
theorem eq_of_join_lines_eq (htexts : ∀ text ∈ texts, '\n' ∉ text.toList)
    (htexts' : ∀ text ∈ texts', '\n' ∉ text.toList)
    (h : String.join (texts.map (· ++ "\n")) = String.join (texts'.map (· ++ "\n"))) :
    texts = texts' := by
  have hpieces := split_join_lines htexts
  rw [h, split_join_lines htexts'] at hpieces
  have hinjective : Function.Injective String.toList := fun _ _ => String.toList_inj.mp
  exact (List.map_injective_iff.mpr hinjective (List.append_cancel_right hpieces)).symm

lemma split_intercalate_comma {first : String} (h : ∀ text ∈ first :: texts, ',' ∉ text.toList) :
    split (· == ',') (", ".intercalate (first :: texts)).toList =
      first.toList :: texts.map ([' '] ++ ·.toList) := by
  obtain ⟨hfirst, hrest⟩ := List.forall_mem_cons.mp (beq_eq_false_of_notMem h)
  have hsplit : split (· == ',') ([',', ' '].intercalate (first.toList :: texts.map String.toList)) =
      first.toList :: (texts.map String.toList).map ([' '] ++ ·) :=
    split_intercalate (by rfl) (by simp) hfirst hrest
  rw [List.map_map] at hsplit
  rw [String.toList_intercalate]
  exact hsplit

/-- Texts without commas can be read back from their enumeration; a lone empty one would be
missed. -/
theorem eq_of_intercalate_eq (hne : texts ≠ []) (hne' : texts' ≠ [])
    (htexts : ∀ text ∈ texts, ',' ∉ text.toList) (htexts' : ∀ text ∈ texts', ',' ∉ text.toList)
    (h : ", ".intercalate texts = ", ".intercalate texts') : texts = texts' := by
  obtain ⟨first, rest, rfl⟩ := List.exists_cons_of_ne_nil hne
  obtain ⟨first', rest', rfl⟩ := List.exists_cons_of_ne_nil hne'
  have hpieces := split_intercalate_comma htexts
  rw [h, split_intercalate_comma htexts'] at hpieces
  obtain ⟨hfirst, hrest⟩ := List.cons.inj hpieces
  have hinjective : Function.Injective fun text : String => [' '] ++ text.toList := by
    intro text text' htext
    exact String.toList_inj.mp (List.append_cancel_left htext)
  rw [String.toList_inj.mp hfirst, List.map_injective_iff.mpr hinjective hrest]

lemma mem_toList_intercalate {separator : String} {c : Char}
    (hc : c ∈ (separator.intercalate texts).toList) :
    c ∈ separator.toList ∨ ∃ text ∈ texts, c ∈ text.toList := by
  rw [String.toList_intercalate] at hc
  obtain hseparator | ⟨_, hpiece, hmem⟩ := mem_intercalate hc
  · exact .inl hseparator
  · obtain ⟨text, htext, rfl⟩ := List.mem_map.mp hpiece
    exact .inr ⟨text, htext, hmem⟩

end Texts

end RelProto.Text
