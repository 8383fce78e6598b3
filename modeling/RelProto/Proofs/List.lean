import Mathlib.Data.List.Forall2

/-! Facts about lists that the development needs in several places. -/
namespace RelProto

section Lookup

variable {α β : Type} [BEq α] [LawfulBEq α] {key other : α}

/-- Dropping the entries of one key leaves those of the others. -/
lemma lookup_filter_ne (entries : List (α × β)) (h : other ≠ key) :
    (entries.filter (·.1 != key)).lookup other = entries.lookup other := by
  induction entries with
  | nil => rfl
  | cons first entries ih =>
    obtain ⟨found, value⟩ := first
    by_cases hfound : found = key
    · subst hfound
      have hother : (other == found) = false := beq_eq_false_iff_ne.mpr h
      simp [List.lookup_cons, hother, ih]
    · simp [List.lookup_cons, hfound, ih]

end Lookup

/-- Two lists are cut at the first occurrence of one element. -/
lemma append_cons_inj {α : Type} {a : α} {s t x y : List α} (hs : a ∉ s) (ht : a ∉ t)
    (h : s ++ a :: x = t ++ a :: y) : s = t ∧ x = y := by
  induction s generalizing t with
  | nil =>
    cases t with
    | nil => exact ⟨rfl, (List.cons.inj h).2⟩
    | cons first t =>
      obtain ⟨rfl, _⟩ := List.cons.inj h
      exact absurd List.mem_cons_self ht
  | cons first s ih =>
    cases t with
    | nil =>
      obtain ⟨rfl, _⟩ := List.cons.inj h
      exact absurd List.mem_cons_self hs
    | cons first' t =>
      obtain ⟨rfl, hrest⟩ := List.cons.inj h
      obtain ⟨rfl, rfl⟩ := ih (List.not_mem_of_not_mem_cons hs) (List.not_mem_of_not_mem_cons ht) hrest
      exact ⟨rfl, rfl⟩

section Forall₂

variable {α β : Type} {R : α → α → Prop} {as bs : List α}

/-- What is in the first list is related to something in the second one. -/
lemma exists_mem_of_forall₂ {R : α → β → Prop} {as : List α} {bs : List β}
    (h : List.Forall₂ R as bs) {a : α} (ha : a ∈ as) : ∃ b ∈ bs, R a b := by
  induction h with
  | nil => cases ha
  | cons hfirst _ ih =>
    obtain rfl | ha := List.mem_cons.mp ha
    · exact ⟨_, List.mem_cons_self, hfirst⟩
    · obtain ⟨b, hb, hrelated⟩ := ih ha
      exact ⟨b, List.mem_cons_of_mem _ hb, hrelated⟩

lemma map_eq_of_forall₂ {g : α → β} (hg : ∀ a b, R a b → g a = g b) (h : List.Forall₂ R as bs) :
    as.map g = bs.map g := by
  rw [← List.forall₂_eq_eq_eq, List.forall₂_map_left_iff, List.forall₂_map_right_iff]
  exact h.imp hg

lemma filterMap_eq_of_forall₂ {g : α → Option β} (hg : ∀ a b, R a b → g a = g b)
    (h : List.Forall₂ R as bs) : as.filterMap g = bs.filterMap g := by
  have hmap := map_eq_of_forall₂ hg h
  rw [← Function.id_comp g, ← List.filterMap_map, ← List.filterMap_map, hmap]

/-- Two lists that are written alike place by place, where what is written may show the place. -/
lemma forall₂_of_zipIdx_map_eq {f : α × ℕ → β} {start : ℕ}
    (hf : ∀ a ∈ as, ∀ b ∈ bs, ∀ i, f (a, i) = f (b, i) → R a b)
    (h : (as.zipIdx start).map f = (bs.zipIdx start).map f) : List.Forall₂ R as bs := by
  induction as generalizing bs start with
  | nil =>
    cases bs with
    | nil => exact .nil
    | cons b bs => cases h
  | cons a as ih =>
    cases bs with
    | nil => cases h
    | cons b bs =>
      obtain ⟨hfirst, hrest⟩ := List.cons.inj h
      refine .cons (hf a List.mem_cons_self b List.mem_cons_self start hfirst) (ih ?_ hrest)
      intro a ha b hb
      exact hf a (List.mem_cons_of_mem _ ha) b (List.mem_cons_of_mem _ hb)

end Forall₂

end RelProto
