import Mathlib.Data.List.Forall2
import Mathlib.Data.List.Nodup
import Mathlib.Tactic.IntervalCases
import Mathlib.Tactic.Lemma
import RelProto.Yaml.Decode

/-! What a document gives where its values are written out: every decoder reads it in the same way,
whatever aliases are known and however many may still be followed. -/
namespace RelProto.Yaml

/-- The text of a scalar. -/
def Node.text? : Node → Option String
  | scalar _ s => some s.text
  | sequence _ _ | mapping _ _ | reference _ => none

lemma Node.text?_eq_some_iff {node : Node} {text : String} :
    node.text? = some text ↔
      ∃ anchor scalar, node = .scalar anchor scalar ∧ scalar.text = text := by
  cases node <;> simp [text?]

/-- The values of a key in a mapping, one for each time that it is there. -/
def valuesOf (key : String) (pairs : List (Node × Node)) : List Node :=
  (pairs.filter (·.1.text? = some key)).map (·.2)

namespace Decode

variable {α β : Type}

/-- The value is found, and no alias is followed for it. -/
def Gives (x : Decode α) (a : α) : Prop :=
  ∀ anchors hops, (ReaderT.run x anchors).run hops = some (a, hops)

lemma gives_pure (a : α) : Gives (pure a) a := fun _ _ => rfl

lemma Gives.bind {x : Decode α} {a : α} (h : Gives x a) {next : α → Decode β} {b : β}
    (hnext : Gives (next a) b) : Gives (x >>= next) b := by
  intro anchors hops
  rw [ReaderT.run_bind, StateT.run_bind, h anchors hops]
  exact hnext anchors hops

lemma Gives.map {x : Decode α} {a : α} (h : Gives x a) (f : α → β) : Gives (f <$> x) (f a) := by
  rw [map_eq_pure_bind]
  exact h.bind (gives_pure (f a))

lemma Gives.mapM {ι : Type} {f : ι → Decode α} {is : List ι} {as : List α}
    (h : List.Forall₂ (fun i a => Gives (f i) a) is as) : Gives (is.mapM f) as := by
  induction h with
  | nil => exact gives_pure []
  | cons hfirst _ ih =>
    rw [List.mapM_cons]
    exact hfirst.bind (ih.bind (gives_pure _))

lemma Gives.run {decode : Node → Decode α} {node : Node} {a : α} (h : Gives (decode node) a) :
    run decode node = some a := by
  have hrun := h (node.anchored []).reverse (100 * node.eventCount)
  rw [Decode.run, StateT.run'_eq, hrun]
  rfl

lemma gives_text {node : Node} {s : String} (h : node.text? = some s) : Gives (text node) s := by
  obtain ⟨anchor, scalar, rfl, rfl⟩ := Node.text?_eq_some_iff.mp h
  exact fun _ _ => rfl

lemma gives_list {item : Node → Decode α} {anchor : Option Nat} {nodes : List Node} {as : List α}
    (h : List.Forall₂ (fun node a => Gives (item node) a) nodes as) :
    Gives (list item (.sequence anchor nodes)) as := Gives.mapM h

section Fields

variable {fields : List (String × Node)} {key : String}

lemma lookup_eq_head? (key : String) (fields : List (String × Node)) :
    fields.lookup key = ((fields.filter (·.1 = key)).map (·.2)).head? := by
  induction fields with
  | nil => rfl
  | cons first rest ih =>
    obtain ⟨name, node⟩ := first
    by_cases hkey : name = key
    · subst hkey
      simp
    · have hne : (key == name) = false := by simpa using Ne.symm hkey
      rw [List.lookup_cons, hne, List.filter_cons_of_neg (by simpa using hkey), ih]

lemma nodup_keys (h : ∀ key ∈ fields.map (·.1), (fields.filter (·.1 = key)).length ≤ 1) :
    (fields.map (·.1)).Nodup := by
  rw [List.nodup_iff_count_le_one]
  intro key
  by_cases hkey : key ∈ fields.map (·.1)
  · have hcount : (fields.map (·.1)).count key = (fields.filter (·.1 = key)).length := by
      rw [List.count, List.countP_map, List.countP_eq_length_filter]
      congr 2
    rw [hcount]
    exact h key hkey
  · rw [List.count_eq_zero.mpr hkey]
    exact Nat.zero_le 1

/-- The pairs of a mapping under the texts of their keys, if these are scalars. -/
def underTexts (pairs : List (Node × Node)) : List (String × Node) :=
  pairs.map fun pair => (pair.1.text?.getD "", pair.2)

section Pairs

variable {keys : List String} {pairs : List (Node × Node)}
  (hscalars : ∀ pair ∈ pairs, pair.1.text?.isSome)
include hscalars

lemma gives_underTexts : Gives (pairs.mapM keyed) (underTexts pairs) := by
  refine .mapM ?_
  rw [underTexts, List.forall₂_map_right_iff, List.forall₂_same]
  intro pair hpair
  obtain ⟨text, htext⟩ := Option.isSome_iff_exists.mp (hscalars pair hpair)
  rw [htext]
  exact (gives_text htext).bind (gives_pure _)

/-- Among the fields for the wanted keys, a key has the values that it has in the mapping. -/
lemma values_underTexts (hkey : key ∈ keys) :
    (((underTexts pairs).filter (keys.contains ·.1)).filter (·.1 = key)).map (·.2) =
      valuesOf key pairs := by
  have hfilter : ((underTexts pairs).filter (keys.contains ·.1)).filter (·.1 = key) =
      (underTexts pairs).filter (·.1 = key) := by
    rw [List.filter_filter]
    refine List.filter_congr ?_
    intro field _
    by_cases hfield : field.1 = key
    · simp [hfield, hkey]
    · simp [hfield]
  rw [hfilter, underTexts, List.filter_map, List.map_map, valuesOf]
  congr 1
  refine List.filter_congr ?_
  intro pair hpair
  obtain ⟨text, htext⟩ := Option.isSome_iff_exists.mp (hscalars pair hpair)
  simp [htext]

/-- A mapping whose keys are all scalars gives the values of the wanted keys, if each of these is
there at most once. -/
theorem exists_gives_fields {anchor : Option Nat}
    (honce : ∀ key ∈ keys, (valuesOf key pairs).length ≤ 1) :
    ∃ fields, Gives (Decode.fields keys (.mapping anchor pairs)) fields ∧
      ∀ key ∈ keys, fields.lookup key = (valuesOf key pairs).head? := by
  let fields := (underTexts pairs).filter (keys.contains ·.1)
  have hnodup : (fields.map (·.1)).Nodup := by
    refine nodup_keys ?_
    intro key hkey
    have hwanted : key ∈ keys := by
      obtain ⟨field, hfield, rfl⟩ := List.mem_map.mp hkey
      simpa using (List.mem_filter.mp hfield).2
    rw [← List.length_map (f := (·.2)), values_underTexts hscalars hwanted]
    exact honce key hwanted
  refine ⟨fields, ?_, ?_⟩
  · refine Gives.bind (a := Node.mapping anchor pairs) (gives_pure _) ?_
    refine (gives_underTexts hscalars).bind ?_
    rw [if_pos hnodup]
    exact gives_pure fields
  · intro key hkey
    rw [lookup_eq_head?, values_underTexts hscalars hkey]

end Pairs

lemma gives_field_of_lookup {decode : Node → Decode α} {node : Node} {a fallback : α}
    (h : fields.lookup key = some node) (hnode : Gives (decode node) a) :
    Gives (field fields key fallback decode) a := by
  rw [field, h]
  exact hnode

lemma gives_field_of_none {decode : Node → Decode α} {fallback : α}
    (h : fields.lookup key = none) : Gives (field fields key fallback decode) fallback := by
  rw [field, h]
  exact gives_pure fallback

lemma gives_required {decode : Node → Decode α} {node : Node} {a : α}
    (h : fields.lookup key = some node) (hnode : Gives (decode node) a) :
    Gives (required fields key decode) a := by
  rw [required, h]
  exact hnode

end Fields

section Scalars

variable {s : String}

/-- A plain scalar without a tag. -/
def plain (s : String) : Node := .scalar none ⟨none, .plain, s⟩

lemma gives_optional_none (decode : Node → Decode α) :
    Gives (optional decode (plain "null")) none :=
  fun _ _ => rfl

lemma gives_optional_some {decode : Node → Decode α} {a : α} (hne : s ≠ "")
    (hnull : isNull s = false) (h : Gives (decode (plain s)) a) :
    Gives (optional decode (plain s)) (some a) := by
  have hpresent : Gives (isAbsent ⟨none, .plain, s⟩) false := by
    intro anchors hops
    simp [isAbsent, hne, hnull]
  exact Gives.bind (a := plain s) (gives_pure _) (hpresent.bind (h.map some))

lemma gives_flag (b : Bool) : Gives (flag (plain (toString b))) b := by
  cases b <;> exact fun _ _ => rfl

lemma gives_named {ofName? : String → Option α} {a : α} (h : ofName? s = some a) :
    Gives (named ofName? (plain s)) a := by
  intro anchors hops
  simp [named, follow, plain, h]

/-- What a digit is worth is read back. -/
lemma digitValue?_digitChar {n : Nat} (h : n < 10) : digitValue? 10 n.digitChar = some n := by
  interval_cases n <;> decide

lemma mapM_digitValue?_toDigits (n : Nat) : ∃ digits,
    (Nat.toDigits 10 n).mapM (digitValue? 10) = some digits ∧
      digits.foldl (fun n digit => 10 * n + digit) 0 = n := by
  induction n using Nat.strongRecOn with
  | _ n ih =>
    by_cases hsmall : n < 10
    · refine ⟨[n], ?_, by simp⟩
      rw [Nat.toDigits_of_lt_base hsmall]
      simp [digitValue?_digitChar hsmall]
    · obtain ⟨digits, hdigits, hvalue⟩ := ih (n / 10) (by omega)
      refine ⟨digits ++ [n % 10], ?_, ?_⟩
      · rw [Nat.toDigits_of_base_le (by decide) (by omega), List.mapM_append, hdigits]
        simp [digitValue?_digitChar (Nat.mod_lt n (by decide))]
      · rw [List.foldl_append, hvalue]
        simp only [List.foldl_cons, List.foldl_nil]
        omega

/-- Decimal digits begin with neither a sign nor a needless zero. -/
lemma exists_toDigits_eq_cons {n : Nat} (hpos : 0 < n) :
    ∃ first rest, Nat.toDigits 10 n = first :: rest ∧ first ≠ '0' ∧ first ≠ '+' := by
  induction n using Nat.strongRecOn with
  | _ n ih =>
    by_cases hsmall : n < 10
    · refine ⟨n.digitChar, [], Nat.toDigits_of_lt_base hsmall, ?_⟩
      interval_cases n <;> decide
    · obtain ⟨first, rest, hdigits, hfirst⟩ := ih (n / 10) (by omega) (by omega)
      refine ⟨first, rest ++ [(n % 10).digitChar], ?_, hfirst⟩
      rw [Nat.toDigits_of_base_le (by decide) (by omega), hdigits]
      rfl

/-- A number that is written out is read back. -/
theorem number?_toString (n : Nat) : number? (toString n) = some n := by
  have htext : (toString n).toList = Nat.toDigits 10 n := Nat.toList_repr
  obtain ⟨digits, hdigits, hvalue⟩ := mapM_digitValue?_toDigits n
  have hread : digits? 10 (Nat.toDigits 10 n) = some n := by
    simp [digits?, Nat.toDigits_ne_nil, hdigits, hvalue]
  rcases Nat.eq_zero_or_pos n with rfl | hpos
  · decide +kernel
  · obtain ⟨first, rest, hcons, hzero, hsign⟩ := exists_toDigits_eq_cons hpos
    rw [hcons] at hread htext
    rw [number?, htext]
    simp [hzero, hsign, hread]

/-- What is no number is not how one is written. -/
lemma toString_ne {n : Nat} (h : number? s = none) : toString n ≠ s := by
  rintro rfl
  rw [number?_toString] at h
  cases h

lemma isNull_toString (n : Nat) : isNull (toString n) = false := by
  have hne : ∀ null ∈ ["null", "Null", "NULL", "~"], toString n ≠ null := by
    intro null hnull
    apply toString_ne
    revert null
    decide +kernel
  rw [isNull, List.contains_eq_mem, decide_eq_false_iff_not]
  exact fun hnull => hne _ hnull rfl

lemma gives_word (n : UInt16) : Gives (word (plain (toString n.toNat))) n := by
  have htext : Gives (plainText "int" (plain (toString n.toNat))) (toString n.toNat) :=
    fun _ _ => rfl
  refine htext.bind ?_
  simp only [number?_toString, if_pos n.toNat_lt_size, UInt16.ofNat_toNat]
  exact gives_pure n

end Scalars

end Decode

end RelProto.Yaml
