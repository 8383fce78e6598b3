import RelProto.Proofs.Text.Word

/-! Names with the same camel case. Two ASCII names have it exactly if their letters and digits are
the same, whatever the case, and the same letters begin words. In snake case, only the same names
have it. -/
namespace RelProto.Text

/-- Any characters of ASCII, separators among them. -/
def IsAscii (s : String) : Prop := ∀ c ∈ s.toList, c.toNat < 128

instance (s : String) : Decidable (IsAscii s) := List.decidableBAll _ s.toList

/-- The letters and digits of a word in lowercase. A letter that begins the word is marked. -/
def marked : List Char → List (Char × Bool)
  | [] => []
  | first :: rest => (first.toLower, first.isAlpha) :: rest.map fun c => (c.toLower, false)

/-- The letters and digits of a name, with a mark at every letter that begins a word. -/
def spelling (s : String) : List (Char × Bool) := (words s.toList).flatMap marked

/-- A marked letter is shown as a capital. -/
def shown (letter : Char × Bool) : Char := if letter.2 then letter.1.toUpper else letter.1

/-- The letter that is shown, and whether it is a capital. -/
def told (c : Char) : Char × Bool := (c.toLower, c.isUpper)

variable {s t : String} {c : Char}

/-- The letters and numbers of ASCII are in the first runs of all. -/
lemma isAlphanum_of_isAlphanumeric (hc : c.toNat < 128) (h : isAlphanumeric c) : c.isAlphanum := by
  let first : List Run := [(0x30, 0x39, 1), (0x41, 0x5a, 1), (0x61, 0x7a, 1)]
  have hothers : ∀ run ∈ alphanumeric, run.1 < 128 → run ∈ first := by decide +kernel
  have hascii : ∀ run ∈ first, run.contains c.toNat → c.isAlphanum :=
    forall_ascii c hc (by decide +kernel)
  obtain ⟨run, hrun, hcontains⟩ := List.any_eq_true.mp h
  have hstart : run.1 ≤ c.toNat := by
    simp only [Run.contains, Bool.and_eq_true, decide_eq_true_eq] at hcontains
    exact hcontains.1.1
  exact hascii run (hothers run hrun (by omega)) hcontains

lemma isAlphanum_of_mem_words (hs : IsAscii s) {word : List Char} (hword : word ∈ words s.toList)
    (hc : c ∈ word) : c.isAlphanum := by
  obtain ⟨piece, hpiece, hword⟩ := List.mem_flatMap.mp hword
  have hmem := (mem_of_mem_wordsFrom hword hc).resolve_left List.not_mem_nil
  obtain ⟨htext, hkept⟩ := mem_of_mem_split hpiece hmem
  exact isAlphanum_of_isAlphanumeric (hs c htext) (by simpa using hkept)

/-- What begins a word is shown in uppercase. -/
lemma shown_first (h : c.isAlphanum) : shown (c.toLower, c.isAlpha) = c.toUpper :=
  forall_alphanum c h (by decide +kernel)

/-- What is shown tells the letter or digit, and whether it is marked. -/
lemma told_shown (h : c.isAlphanum) {mark : Bool} (hmark : mark = true → c.isAlpha) :
    told (shown (c.toLower, mark)) = (c.toLower, mark) := by
  have hmarks : ∀ mark, (mark = true → c.isAlpha) →
      told (shown (c.toLower, mark)) = (c.toLower, mark) :=
    forall_alphanum c h (by decide +kernel)
  exact hmarks mark hmark

lemma capitalize_eq {word : List Char} (h : ∀ c ∈ word, c.isAlphanum) :
    capitalize word = (marked word).map shown := by
  cases word with
  | nil => rfl
  | cons first rest =>
    obtain ⟨hfirst, hrest⟩ := List.forall_mem_cons.mp h
    rw [capitalize_cons_eq hfirst hrest, marked, List.map_cons, List.map_map, shown_first hfirst]
    rfl

/-- Camel case shows the spelling of a name. -/
theorem upperCamel_eq (hs : IsAscii s) : upperCamel s = .ofList ((spelling s).map shown) := by
  rw [upperCamel, spelling, List.map_flatMap]
  congr 1
  refine List.flatMap_congr ?_
  intro word hword
  exact capitalize_eq fun c hc => isAlphanum_of_mem_words hs hword hc

lemma told_shown_of_mem_spelling (hs : IsAscii s) {letter : Char × Bool}
    (hletter : letter ∈ spelling s) : told (shown letter) = letter := by
  obtain ⟨word, hword, hletter⟩ := List.mem_flatMap.mp hletter
  have hall : ∀ c ∈ word, c.isAlphanum := fun c hc => isAlphanum_of_mem_words hs hword hc
  cases word with
  | nil => cases hletter
  | cons first rest =>
    obtain ⟨hfirst, hrest⟩ := List.forall_mem_cons.mp hall
    obtain rfl | hletter := List.mem_cons.mp hletter
    · exact told_shown hfirst id
    · obtain ⟨c, hc, rfl⟩ := List.mem_map.mp hletter
      exact told_shown (hrest c hc) (by simp)

lemma map_told_shown (hs : IsAscii s) : ((spelling s).map shown).map told = spelling s := by
  rw [List.map_map]
  exact (List.map_congr_left fun _ => told_shown_of_mem_spelling hs).trans (List.map_id _)

/-- ASCII names have the same camel case exactly if they are spelled alike. -/
theorem upperCamel_eq_iff (hs : IsAscii s) (ht : IsAscii t) :
    upperCamel s = upperCamel t ↔ spelling s = spelling t := by
  rw [upperCamel_eq hs, upperCamel_eq ht, String.ofList_inj]
  constructor
  · intro h
    rw [← map_told_shown hs, h, map_told_shown ht]
  · intro h
    rw [h]

section SnakeCase

/-- A lowercase letter, and then lowercase letters and digits. -/
def IsSnakeWord : List Char → Prop
  | [] => False
  | first :: rest => first.isLower ∧ ∀ c ∈ rest, c.isLower ∨ c.isDigit

instance : DecidablePred IsSnakeWord
  | [] => inferInstanceAs (Decidable False)
  | first :: rest => @instDecidableAnd (first.isLower = true) _ _ (List.decidableBAll _ rest)

/-- Words with single underscores between them. -/
def IsSnakeCase (s : String) : Prop := ∀ word ∈ split (· == '_') s.toList, IsSnakeWord word

instance (s : String) : Decidable (IsSnakeCase s) := List.decidableBAll _ _

lemma IsSnakeWord.accepts_of_mem {word : List Char} (h : IsSnakeWord word) (hc : c ∈ word) :
    c.isLower ∨ c.isDigit := by
  cases word with
  | nil => cases hc
  | cons first rest =>
    obtain rfl | hc := List.mem_cons.mp hc
    · exact .inl h.1
    · exact h.2 c hc

lemma IsSnakeCase.accepts_of_mem (h : IsSnakeCase s) (hc : c ∈ s.toList) :
    c = '_' ∨ c.isLower ∨ c.isDigit := by
  rw [← intercalate_split '_' s.toList] at hc
  obtain hunderscore | ⟨word, hword, hc⟩ := mem_intercalate hc
  · exact .inl (List.mem_singleton.mp hunderscore)
  · exact .inr ((h word hword).accepts_of_mem hc)

lemma isAlpha_of_isLower (h : c.isLower) : c.isAlpha = true := Bool.or_eq_true_iff.mpr (.inr h)

/-- A lowercase letter or digit is part of a word, and no capital. -/
lemma isAlphanumeric_of_lower_or_digit (h : c.isLower ∨ c.isDigit) :
    c.toNat < 128 ∧ isAlphanumeric c ∧ isUpper c = false := by
  have halphanum : c.isAlphanum := by
    rcases h with h | h
    · exact Bool.or_eq_true_iff.mpr (.inl (isAlpha_of_isLower h))
    · exact Bool.or_eq_true_iff.mpr (.inr h)
  have hlt := toNat_lt_of_isAlphanum halphanum
  have hascii : c.isLower ∨ c.isDigit → isAlphanumeric c ∧ isUpper c = false :=
    forall_ascii c hlt (by decide +kernel)
  exact ⟨hlt, hascii h⟩

lemma IsSnakeCase.isAscii (h : IsSnakeCase s) : IsAscii s := by
  intro c hc
  obtain rfl | hword := h.accepts_of_mem hc
  · decide
  · exact (isAlphanumeric_of_lower_or_digit hword).1

/-- A piece without capitals is one word. -/
lemma wordsFrom_eq_singleton {trend : Trend} {before piece : List Char} (hne : piece ≠ [])
    (h : ∀ c ∈ piece, isUpper c = false) :
    wordsFrom trend before piece = [before.reverse ++ piece] := by
  fun_induction wordsFrom trend before piece with
  | case1 => contradiction
  | case2 trend before last => simp
  | case3 trend before first next rest hcut ih => simp [h next (by simp)] at hcut
  | case4 trend before first next rest _ hcut ih => simp [h first (by simp)] at hcut
  | case5 trend before first next rest _ _ ih =>
    rw [ih (List.cons_ne_nil _ _) fun c hc => h c (List.mem_cons_of_mem _ hc)]
    simp

lemma IsSnakeCase.words_eq (h : IsSnakeCase s) : words s.toList = split (· == '_') s.toList := by
  have hunderscore : isAlphanumeric '_' = false := by decide +kernel
  have hsplit : split (!isAlphanumeric ·) s.toList = split (· == '_') s.toList := by
    refine split_congr ?_
    intro c hc
    obtain rfl | hword := h.accepts_of_mem hc
    · simp [hunderscore]
    · have hne : c ≠ '_' := by
        rintro rfl
        revert hword
        decide
      simp [(isAlphanumeric_of_lower_or_digit hword).2.1, hne]
  rw [words, hsplit]
  calc (split (· == '_') s.toList).flatMap (wordsFrom .unknown [])
    _ = (split (· == '_') s.toList).flatMap fun word => [word] := by
      refine List.flatMap_congr ?_
      intro word hword
      have hsnake := h word hword
      rw [wordsFrom_eq_singleton]
      · rfl
      · rintro rfl
        exact hsnake
      · exact fun c hc => (isAlphanumeric_of_lower_or_digit (hsnake.accepts_of_mem hc)).2.2
    _ = split (· == '_') s.toList := List.flatMap_singleton' _

lemma IsSnakeWord.exists_marked {word : List Char} (h : IsSnakeWord word) :
    ∃ first rest, word = first :: rest ∧ marked word = (first, true) :: rest.map (·, false) := by
  cases word with
  | nil => exact h.elim
  | cons first rest =>
    have hlower : ∀ c : Char, c.isLower ∨ c.isDigit → c.toLower = c := by
      intro c hc
      have hascii : c.isLower ∨ c.isDigit → c.toLower = c :=
        forall_ascii c (isAlphanumeric_of_lower_or_digit hc).1 (by decide +kernel)
      exact hascii hc
    refine ⟨first, rest, rfl, ?_⟩
    rw [marked, hlower first (.inl h.1), isAlpha_of_isLower h.1]
    congr 1
    refine List.map_congr_left ?_
    intro c hc
    rw [hlower c (h.2 c hc)]

/-- What is not marked ends at the next mark. -/
lemma append_marked_inj {rest rest' : List Char} {others others' : List (Char × Bool)}
    (hothers : ∀ letter ∈ others.head?, letter.2 = true)
    (hothers' : ∀ letter ∈ others'.head?, letter.2 = true)
    (h : rest.map (·, false) ++ others = rest'.map (·, false) ++ others') :
    rest = rest' ∧ others = others' := by
  induction rest generalizing rest' with
  | nil =>
    cases rest' with
    | nil => exact ⟨rfl, h⟩
    | cons c rest' =>
      have hhead : others.head? = some (c, false) := congrArg List.head? h
      cases hothers _ hhead
  | cons c rest ih =>
    cases rest' with
    | nil =>
      have hhead : others'.head? = some (c, false) := congrArg List.head? h.symm
      cases hothers' _ hhead
    | cons c' rest' =>
      obtain ⟨hfirst, hrest⟩ := List.cons.inj h
      obtain ⟨rfl, rfl⟩ := ih hrest
      cases hfirst
      exact ⟨rfl, rfl⟩

lemma marked_head?_flatMap {words : List (List Char)} (h : ∀ word ∈ words, IsSnakeWord word) :
    ∀ letter ∈ (words.flatMap marked).head?, letter.2 = true := by
  cases words with
  | nil => nofun
  | cons word words =>
    obtain ⟨first, rest, _, hmarked⟩ := (h word List.mem_cons_self).exists_marked
    rw [List.flatMap_cons, hmarked]
    simp

/-- Marks tell where words begin. -/
theorem flatMap_marked_inj {words words' : List (List Char)} (h : ∀ word ∈ words, IsSnakeWord word)
    (h' : ∀ word ∈ words', IsSnakeWord word) (heq : words.flatMap marked = words'.flatMap marked) :
    words = words' := by
  induction words generalizing words' with
  | nil =>
    cases words' with
    | nil => rfl
    | cons word' words' =>
      obtain ⟨_, _, _, hmarked⟩ := (h' word' List.mem_cons_self).exists_marked
      rw [List.flatMap_cons, hmarked] at heq
      cases heq
  | cons word words ih =>
    obtain ⟨hword, hwords⟩ := List.forall_mem_cons.mp h
    obtain ⟨first, rest, rfl, hmarked⟩ := hword.exists_marked
    cases words' with
    | nil =>
      rw [List.flatMap_cons, hmarked] at heq
      cases heq
    | cons word' words' =>
      obtain ⟨hword', hwords'⟩ := List.forall_mem_cons.mp h'
      obtain ⟨first', rest', rfl, hmarked'⟩ := hword'.exists_marked
      rw [List.flatMap_cons, List.flatMap_cons, hmarked, hmarked'] at heq
      obtain ⟨hfirst, hrest⟩ := List.cons.inj heq
      obtain ⟨rfl, htail⟩ :=
        append_marked_inj (marked_head?_flatMap hwords) (marked_head?_flatMap hwords') hrest
      cases hfirst
      rw [ih hwords hwords' htail]

/-- Names in snake case have the same camel case only if they are the same. -/
theorem IsSnakeCase.eq_of_upperCamel_eq (hs : IsSnakeCase s) (ht : IsSnakeCase t)
    (h : upperCamel s = upperCamel t) : s = t := by
  rw [upperCamel_eq_iff hs.isAscii ht.isAscii, spelling, spelling, hs.words_eq, ht.words_eq] at h
  have hwords := flatMap_marked_inj hs ht h
  rw [← String.toList_inj, ← intercalate_split '_' s.toList, hwords, intercalate_split]

end SnakeCase

end RelProto.Text
