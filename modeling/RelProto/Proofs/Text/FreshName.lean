import Mathlib.Data.List.Dedup
import Mathlib.Data.List.Nodup
import Mathlib.Data.List.Perm.Subperm
import Mathlib.Data.List.Range
import RelProto.Text.Basic

/-! The numbered names for one base differ from each other, and the search for a free one stops at
the first: names taken one after the other are the first free ones. -/
namespace RelProto.Text

lemma append_toString_ne (base : String) (n : Nat) : base ++ toString n ≠ base := by
  intro h
  have hlength := congrArg String.length h
  simp at hlength

theorem toString_injective : Function.Injective (toString : ℕ → String) := by
  intro m n h
  have hdigits : Nat.toDigits 10 m = Nat.toDigits 10 n := by
    simpa only [Nat.toString_eq_repr, Nat.toList_repr] using congrArg String.toList h
  have hvalue := congrArg (Nat.ofDigitChars 10 · 0) hdigits
  simpa only [Nat.ofDigitChars_ten_toDigits] using hvalue

theorem numberedName_injective (base : String) : Function.Injective (numberedName base) := by
  intro m n h
  cases m with
  | zero =>
    cases n with
    | zero => rfl
    | succ n => exact absurd h.symm (append_toString_ne base (n + 2))
  | succ m =>
    cases n with
    | zero => exact absurd h (append_toString_ne base (m + 2))
    | succ n =>
      have hnumber := toString_injective ((String.append_right_inj base).mp h)
      exact congrArg (· - 1) hnumber

variable {base : String} {taken : List String}

theorem le_freshIndex (base : String) (taken : List String) (n : Nat) :
    n ≤ freshIndex base taken n := by
  fun_induction freshIndex base taken n with
  | case1 taken n _ ih => omega
  | case2 taken n _ => exact le_rfl

/-- Striking off a name that was found taken does not free any later candidate. -/
lemma numberedName_mem_erase {m n : Nat} (h : n < m) :
    numberedName base m ∈ taken.erase (numberedName base n) ↔ numberedName base m ∈ taken :=
  List.mem_erase_of_ne ((numberedName_injective base).ne h.ne')

theorem numberedName_freshIndex_notMem (base : String) (taken : List String) (n : Nat) :
    numberedName base (freshIndex base taken n) ∉ taken := by
  fun_induction freshIndex base taken n with
  | case1 taken n _ ih =>
    rwa [numberedName_mem_erase (le_freshIndex _ _ (n + 1))] at ih
  | case2 taken n h => exact h

theorem numberedName_mem_of_lt_freshIndex {n i : Nat} (hle : n ≤ i)
    (hlt : i < freshIndex base taken n) : numberedName base i ∈ taken := by
  fun_induction freshIndex base taken n with
  | case1 taken n h ih =>
    rcases hle.eq_or_lt with rfl | hn
    · exact h
    · exact (numberedName_mem_erase hn).mp (ih hn hlt)
  | case2 taken n _ => omega

/-- A candidate from the start on that is free, behind taken ones only, is the one found. -/
theorem freshIndex_eq_of_first {n i : Nat} (hle : n ≤ i) (hfree : numberedName base i ∉ taken)
    (hbefore : ∀ j, n ≤ j → j < i → numberedName base j ∈ taken) :
    freshIndex base taken n = i := by
  apply le_antisymm
  · by_contra hlt
    exact hfree (numberedName_mem_of_lt_freshIndex hle (by omega))
  · by_contra hlt
    exact numberedName_freshIndex_notMem base taken n
      (hbefore _ (le_freshIndex base taken n) (by omega))

theorem freshName_notMem (base : String) (taken : List String) : freshName base taken ∉ taken :=
  numberedName_freshIndex_notMem base taken 0

@[simp] theorem freshName_nil (base : String) : freshName base [] = base := by
  rw [freshName, freshIndex, dif_neg List.not_mem_nil]
  rfl

/-- A name that avoids some names avoids more of them exactly if it is the one found for those. -/
theorem freshName_notMem_iff {more : List String} (h : taken ⊆ more) :
    freshName base taken ∉ more ↔ freshName base taken = freshName base more := by
  constructor
  · intro hfree
    have hindex : freshIndex base more 0 = freshIndex base taken 0 := by
      apply freshIndex_eq_of_first (Nat.zero_le _) hfree
      intro j hle hlt
      exact h (numberedName_mem_of_lt_freshIndex hle hlt)
    rw [freshName, freshName, hindex]
  · intro hsame
    rw [hsame]
    exact freshName_notMem base more

/-- It does not count in what order, or how often, the names are taken. -/
theorem freshName_congr {taken' : List String} (h : ∀ name, name ∈ taken ↔ name ∈ taken') :
    freshName base taken = freshName base taken' := by
  apply (freshName_notMem_iff fun name hname => (h name).mp hname).mp
  intro hname
  exact freshName_notMem base taken ((h _).mpr hname)

/-- The free names among the `length` candidates from the `start`th on. -/
def freeAmong (base : String) (taken : List String) (start length : Nat) : List String :=
  ((List.range' start length).map (numberedName base)).filter (· ∉ taken)

/-- The first `n` free names for the base: at most `taken.length` candidates are not free. -/
def freeNames (base : String) (taken : List String) (n : Nat) : List String :=
  (freeAmong base taken 0 (n + taken.length)).take n

lemma nodup_candidates (base : String) (start length : Nat) :
    ((List.range' start length).map (numberedName base)).Nodup :=
  (List.nodup_range').map (numberedName_injective base)

theorem nodup_freeNames (base : String) (taken : List String) (n : Nat) :
    (freeNames base taken n).Nodup :=
  ((nodup_candidates base 0 _).filter _).sublist (List.take_sublist _ _)

theorem notMem_of_mem_freeNames {name : String} {n : Nat} (h : name ∈ freeNames base taken n) :
    name ∉ taken := by
  have hfree := List.of_mem_filter (List.mem_of_mem_take h)
  simpa using hfree

/-- The candidates that are not free are different members of `taken`. -/
lemma le_length_freeAmong (base : String) (taken : List String) (start length : Nat) :
    length ≤ (freeAmong base taken start length).length + taken.length := by
  have hsplit := List.length_eq_length_filter_add
    (l := (List.range' start length).map (numberedName base)) (fun name => decide (name ∉ taken))
  have hcollisions : (((List.range' start length).map (numberedName base)).filter
      fun name => !decide (name ∉ taken)).length ≤ taken.length := by
    apply List.Subperm.length_le
    apply List.Nodup.subperm ((nodup_candidates base start length).filter _)
    intro name hname
    simpa using List.of_mem_filter hname
  rw [List.length_map, List.length_range'] at hsplit
  unfold freeAmong
  omega

/-- There are always enough names to choose from. -/
theorem length_freeNames (base : String) (taken : List String) (n : Nat) :
    (freeNames base taken n).length = n := by
  have hlength := le_length_freeAmong base taken 0 (n + taken.length)
  rw [freeNames, List.length_take]
  omega

lemma freeAmong_append (base : String) (taken : List String) (start m n : Nat) :
    freeAmong base taken start (m + n) =
      freeAmong base taken start m ++ freeAmong base taken (start + m) n := by
  rw [freeAmong, ← List.range'_append_1, List.map_append, List.filter_append]
  rfl

/-- Up to the candidate that the search finds, no other one is free. -/
lemma freeAmong_of_freshIndex_eq {start n : Nat} (h : freshIndex base taken start = start + n) :
    freeAmong base taken start (n + 1) = [numberedName base (start + n)] := by
  have htaken : freeAmong base taken start n = [] := by
    apply List.filter_eq_nil_iff.mpr
    intro name hname
    obtain ⟨i, hi, rfl⟩ := List.mem_map.mp hname
    obtain ⟨hstart, hend⟩ := List.mem_range'_1.mp hi
    simpa using numberedName_mem_of_lt_freshIndex hstart (by omega)
  have hfree := numberedName_freshIndex_notMem base taken start
  rw [h] at hfree
  rw [freeAmong_append, htaken, List.nil_append, freeAmong, List.range'_one, List.map_singleton,
    List.filter_singleton]
  simp [hfree]

/-- All free names among the first candidates are the first free names. -/
theorem freeNames_length_freeAmong (base : String) (taken : List String) (n : Nat) :
    freeNames base taken (freeAmong base taken 0 n).length = freeAmong base taken 0 n := by
  have hle := le_length_freeAmong base taken 0 n
  obtain ⟨more, hmore⟩ := Nat.exists_eq_add_of_le hle
  rw [freeNames, hmore, freeAmong_append, List.take_left]

/-- A search that starts at one candidate and ends at another: it passes over the candidates that
are taken, and ends at the first one that is free. -/
inductive Search (base : String) (taken : List String) : Nat → Nat → Prop
  | found {n : Nat} (free : numberedName base n ∉ taken) : Search base taken n n
  | passed {n found : Nat} (isTaken : numberedName base n ∈ taken)
      (rest : Search base taken (n + 1) found) : Search base taken n found

lemma Search.of_first {n i : Nat} (hle : n ≤ i) (hfree : numberedName base i ∉ taken)
    (hbefore : ∀ j, n ≤ j → j < i → numberedName base j ∈ taken) : Search base taken n i := by
  induction hle using Nat.decreasingInduction with
  | self => exact .found hfree
  | of_succ n hn ih =>
    exact .passed (hbefore n le_rfl hn) (ih fun j hle hlt => hbefore j (by omega) hlt)

/-- From every candidate on the search ends, as the names that are taken come to an end. -/
theorem search_iff {n found : Nat} : Search base taken n found ↔ freshIndex base taken n = found := by
  constructor
  · intro h
    induction h with
    | found free => exact freshIndex_eq_of_first le_rfl free (fun j hle hlt => by omega)
    | @passed n found isTaken rest ih =>
      subst ih
      refine freshIndex_eq_of_first ((Nat.le_succ n).trans (le_freshIndex base taken (n + 1)))
        (numberedName_freshIndex_notMem base taken (n + 1)) ?_
      intro j hle hlt
      obtain rfl | hlt' := hle.eq_or_lt
      · exact isTaken
      · exact numberedName_mem_of_lt_freshIndex hlt' hlt
  · rintro rfl
    exact .of_first (le_freshIndex base taken n) (numberedName_freshIndex_notMem base taken n)
      fun j hle hlt => numberedName_mem_of_lt_freshIndex hle hlt

/-- The search with a limited number of attempts, from the `n`th candidate on: an attempt looks one
candidate up, and goes on to the next one if it is taken. -/
def searchWithin (base : String) (taken : List String) : (attempts n : Nat) → Option String
  | 0, _ => none
  | attempts + 1, n =>
    if numberedName base n ∈ taken then searchWithin base taken attempts (n + 1)
    else some (numberedName base n)

/-- The search ends with the attempt for the candidate that it finds, and not before. -/
theorem searchWithin_eq (base : String) (taken : List String) (attempts n : Nat) :
    searchWithin base taken attempts n =
      if freshIndex base taken n < n + attempts then some (numberedName base (freshIndex base taken n))
      else none := by
  induction attempts generalizing n with
  | zero =>
    have hle := le_freshIndex base taken n
    rw [searchWithin, if_neg (by omega)]
  | succ attempts ih =>
    rw [searchWithin]
    by_cases htaken : numberedName base n ∈ taken
    · have hnext : freshIndex base taken n = freshIndex base taken (n + 1) :=
        search_iff.mp (.passed htaken (search_iff.mpr rfl))
      rw [if_pos htaken, ih, hnext, Nat.add_right_comm, Nat.add_assoc]
    · have hfound : freshIndex base taken n = n := search_iff.mp (.found htaken)
      rw [if_neg htaken, hfound, if_pos (by omega)]

/-- The candidates that are passed over are different names that are taken. -/
theorem freshIndex_le_length_dedup (base : String) (taken : List String) :
    freshIndex base taken 0 ≤ taken.dedup.length := by
  have hpassed : (List.range' 0 (freshIndex base taken 0)).map (numberedName base) ⊆
      taken.dedup := by
    intro name hname
    obtain ⟨i, hi, rfl⟩ := List.mem_map.mp hname
    obtain ⟨hstart, hend⟩ := List.mem_range'_1.mp hi
    exact List.mem_dedup.mpr (numberedName_mem_of_lt_freshIndex hstart (by omega))
  simpa using ((nodup_candidates base 0 (freshIndex base taken 0)).subperm hpassed).length_le

end RelProto.Text
