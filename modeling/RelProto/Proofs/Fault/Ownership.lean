import Mathlib.Data.List.Nodup
import RelProto.Proofs.Fault

/-! Who holds the parts of a fault. On every shelf that faults were made, copied, put in front of
each other and dropped on, slots have names of their own and new cells are not in use; so what
a context gives up depends on the other slots alone. -/
namespace RelProto.Fault

variable {shelf : Shelf} {target name slot : String} {handle : Handle}

namespace Shelf

@[simp] lemma get?_clear_self (shelf : Shelf) (slot : String) :
    (shelf.clear slot).get? slot = none := by
  rw [get?, clear, List.lookup_eq_none_iff]
  rintro ⟨key, held⟩ hmem
  have hkey : key ≠ slot := by simpa using (List.mem_filter.mp hmem).2
  simpa using hkey.symm

lemma slots_clear_sublist (shelf : Shelf) (slot : String) :
    (shelf.clear slot).slots.Sublist shelf.slots := List.filter_sublist

lemma mem_handles_of_get? (hget : shelf.get? name = some handle) : handle ∈ shelf.handles := by
  obtain ⟨before, after, hslots, -⟩ := List.lookup_eq_some_iff.mp hget
  simp [handles, hslots]

/-- The shelves that come about by making, copying, linking and dropping faults. -/
inductive Built : Shelf → Prop where
  | empty : Built .empty
  | run {shelf : Shelf} (target : String) (step : Step) (built : Built shelf) :
      Built (shelf.run target step).2
  | drop {shelf : Shelf} (name : String) (built : Built shelf) : Built (shelf.clear name)

/-- Slots have names of their own, and every cell in use was numbered before the next one. -/
structure Tidy (shelf : Shelf) : Prop where
  names : (shelf.slots.map Prod.fst).Nodup
  ids : ∀ handle ∈ shelf.handles, ∀ cell ∈ handle.cells, cell.id < shelf.next

namespace Tidy

theorem clear (h : shelf.Tidy) (name : String) : (shelf.clear name).Tidy := by
  have hslots := slots_clear_sublist shelf name
  refine ⟨h.names.sublist (hslots.map Prod.fst), ?_⟩
  intro handle hhandle
  exact h.ids handle ((hslots.map Prod.snd).subset hhandle)

theorem of_le (h : shelf.Tidy) {next : Nat} (hnext : shelf.next ≤ next) :
    Tidy { shelf with next := next } := by
  refine ⟨h.names, ?_⟩
  intro handle hhandle cell hcell
  exact (h.ids handle hhandle cell hcell).trans_le hnext

theorem put (h : shelf.Tidy) (name : String) (hids : ∀ cell ∈ handle.cells, cell.id < shelf.next) :
    (shelf.put name handle).Tidy := by
  have hclear := h.clear name
  constructor
  · have hnew : name ∉ (shelf.clear name).slots.map Prod.fst := by
      simp [Shelf.clear]
    exact List.nodup_cons.mpr ⟨hnew, hclear.names⟩
  · intro other hother
    rcases List.mem_cons.mp hother with rfl | hother
    · exact hids
    · exact hclear.ids other hother

lemma id_lt_of_get? (h : shelf.Tidy) (hget : shelf.get? name = some handle) :
    ∀ cell ∈ handle.cells, cell.id < shelf.next :=
  h.ids handle (mem_handles_of_get? hget)

theorem fetch {inner : Handle} {rest : Shelf} (h : shelf.Tidy) {take : Bool}
    (hfetch : shelf.fetch name take = some (inner, rest)) :
    rest.Tidy ∧ rest.next = shelf.next ∧ ∀ cell ∈ inner.cells, cell.id < shelf.next := by
  obtain ⟨handle, hget, hfound⟩ := Option.map_eq_some_iff.mp hfetch
  obtain ⟨rfl, rfl⟩ := Prod.mk.inj hfound
  cases take with
  | true => exact ⟨h.clear name, rfl, h.id_lt_of_get? hget⟩
  | false => exact ⟨h, rfl, h.id_lt_of_get? hget⟩

end Tidy

lemma id_lt_of_mem_number {cell : Cell} {next : Nat} {kinds : List Kind}
    (h : cell ∈ number next kinds) : cell.id < next + kinds.length := by
  induction kinds generalizing next with
  | nil => simp [number] at h
  | cons kind kinds ih =>
    rcases List.mem_cons.mp h with rfl | h
    · simp
    · have hrest := ih h
      simp only [List.length_cons]
      omega

theorem Tidy.allocate (h : shelf.Tidy) (fault : Fault) :
    (shelf.allocate fault).2.Tidy ∧ shelf.next ≤ (shelf.allocate fault).2.next ∧
      ∀ cell ∈ (shelf.allocate fault).1.cells, cell.id < (shelf.allocate fault).2.next := by
  have hnext : shelf.next ≤ shelf.next + 1 + fault.causes.length := by omega
  refine ⟨h.of_le hnext, hnext, ?_⟩
  intro cell hcell
  rcases List.mem_cons.mp hcell with rfl | hcell
  · show shelf.next < shelf.next + 1 + fault.causes.length
    omega
  · exact id_lt_of_mem_number hcell

end Shelf

@[simp] theorem isA_within (fault : Fault) (kind : Kind) (category : Category) :
    (fault.within kind).isA category =
      (kind.category? == some category || fault.isA category) := rfl

lemma isA_of_causeless {fault : Fault} (h : fault.causes = []) (category : Category) :
    fault.isA category = (fault.kind.category? == some category) := by
  simp [isA, chain, h]

lemma Handle.cells_of_addContext {inner outer : Handle} {others : List Handle} {id : Nat}
    (h : inner.addContext outer others id = .ok handle) :
    ∃ kind, handle = ⟨⟨id, kind⟩, inner.cells⟩ := by
  rw [addContext] at h
  split_ifs at h <;> cases h <;> exact ⟨_, rfl⟩

namespace Shelf

/-- Puts `outer` in front of `inner`, and the result into the slot. -/
def link (shelf : Shelf) (target : String) (inner outer : Handle) :
    Except Refusal Handle × Shelf :=
  match inner.addContext outer shelf.handles shelf.next with
  | .error _ => (.error .contextWithCause, shelf)
  | .ok handle => (.ok handle, { shelf with next := shelf.next + 1 }.put target handle)

section Link

variable {inner outer : Handle} {rest last : Shelf} {take takeContext : Bool}

lemma run_context_text_eq (hinner : shelf.fetch slot take = some (inner, rest)) (text : String) :
    shelf.run target (.context slot take (.text text)) =
      (rest.allocate (of (.adhoc text))).2.link target inner
        (rest.allocate (of (.adhoc text))).1 := by
  simp only [run, hinner]
  rfl

lemma run_context_slot_eq (hinner : shelf.fetch slot take = some (inner, rest))
    (houter : rest.fetch name takeContext = some (outer, last)) :
    shelf.run target (.context slot take (.slot name takeContext)) =
      last.link target inner outer := by
  simp only [run, hinner, houter]
  rfl

theorem Tidy.link (h : shelf.Tidy) (target : String)
    (hids : ∀ cell ∈ inner.cells, cell.id < shelf.next) :
    (shelf.link target inner outer).2.Tidy := by
  rw [Shelf.link]
  cases hadd : inner.addContext outer shelf.handles shelf.next with
  | error refusal => exact h
  | ok handle =>
    obtain ⟨kind, rfl⟩ := Handle.cells_of_addContext hadd
    apply (h.of_le (Nat.le_succ _)).put
    intro cell hcell
    rcases List.mem_cons.mp hcell with rfl | hcell
    · exact Nat.lt_succ_self _
    · exact Nat.lt_succ_of_lt (hids cell hcell)

end Link

theorem Tidy.run (h : shelf.Tidy) (target : String) (step : Step) :
    (shelf.run target step).2.Tidy := by
  cases step with
  | new fault =>
    obtain ⟨htidy, -, hids⟩ := h.allocate fault
    exact htidy.put target hids
  | clone source =>
    rw [Shelf.run]
    cases hget : shelf.get? source with
    | none => exact h
    | some handle => exact h.put target (h.id_lt_of_get? hget)
  | context source take context =>
    cases hinner : shelf.fetch source take with
    | none => simpa [Shelf.run, hinner] using h
    | some found =>
      obtain ⟨inner, rest⟩ := found
      obtain ⟨htidy, hnext, hids⟩ := h.fetch hinner
      rw [← hnext] at hids
      cases context with
      | text message =>
        obtain ⟨hlast, hle, -⟩ := htidy.allocate (of (.adhoc message))
        rw [run_context_text_eq hinner]
        exact hlast.link target fun cell hcell => (hids cell hcell).trans_le hle
      | slot name takeContext =>
        cases houter : rest.fetch name takeContext with
        | none => simpa [Shelf.run, hinner, houter] using htidy
        | some found =>
          obtain ⟨outer, last⟩ := found
          obtain ⟨hlast, hlastnext, -⟩ := htidy.fetch houter
          rw [run_context_slot_eq hinner houter]
          exact hlast.link target (hlastnext ▸ hids)

theorem Built.tidy (h : Built shelf) : shelf.Tidy := by
  induction h with
  | empty => exact ⟨List.nodup_nil, by simp [Shelf.empty, handles]⟩
  | run target step _ ih => exact ih.run target step
  | drop name _ ih => exact ih.clear name

/-- The fault in another slot runs through the cell. -/
def Shared (shelf : Shelf) (slot : String) (id : Nat) : Prop :=
  ∃ name other, name ≠ slot ∧ shelf.get? name = some other ∧ other.holds id

lemma not_shared_of_forall {id : Nat}
    (h : ∀ other ∈ (shelf.clear slot).handles, other.holds id = false) :
    ¬ shelf.Shared slot id := by
  rintro ⟨name, other, hname, hget, hholds⟩
  rw [← get?_clear_of_ne shelf hname] at hget
  rw [h other (mem_handles_of_get? hget)] at hholds
  contradiction

lemma Tidy.exists_get?_of_mem (h : shelf.Tidy) (hmem : handle ∈ shelf.handles) :
    ∃ name, shelf.get? name = some handle := by
  obtain ⟨⟨name, handle⟩, hentry, rfl⟩ := List.mem_map.mp hmem
  obtain ⟨before, after, hslots⟩ := List.append_of_mem hentry
  have hnames := h.names
  rw [hslots, List.map_append, List.map_cons, List.nodup_middle, List.nodup_cons] at hnames
  refine ⟨name, List.lookup_eq_some_iff.mpr ⟨before, after, hslots, ?_⟩⟩
  intro entry hbefore
  have hother : name ≠ entry.1 := by
    intro hsame
    have hmem : entry.1 ∈ before.map Prod.fst := List.mem_map_of_mem hbefore
    exact hnames.1 (List.mem_append_left _ (hsame ▸ hmem))
  simpa using hother

section Context

variable {a b : String} {inner : Handle} {rest : Shelf} {take : Bool}

lemma fetch_eq_some_iff : shelf.fetch a take = some (inner, rest) ↔
    shelf.get? a = some inner ∧ rest = if take then shelf.clear a else shelf := by
  cases hget : shelf.get? a <;> simp [fetch, hget, eq_comm]

lemma get?_rest_of_ne (hfetch : shelf.fetch a take = some (inner, rest)) (hname : name ≠ a) :
    rest.get? name = shelf.get? name := by
  obtain ⟨-, rfl⟩ := fetch_eq_some_iff.mp hfetch
  cases take with
  | true => exact get?_clear_of_ne shelf hname
  | false => rfl

lemma get?_of_get?_clear (h : (shelf.clear slot).get? name = some handle) :
    name ≠ slot ∧ shelf.get? name = some handle := by
  have hname : name ≠ slot := by
    rintro rfl
    simp at h
  exact ⟨hname, get?_clear_of_ne shelf hname ▸ h⟩

lemma get?_of_get?_rest (hfetch : shelf.fetch a take = some (inner, rest))
    (h : rest.get? name = some handle) : shelf.get? name = some handle := by
  obtain ⟨-, rfl⟩ := fetch_eq_some_iff.mp hfetch
  cases take with
  | true => exact (get?_of_get?_clear h).2
  | false => exact h

/-- Once a fault is taken, whether others run through a cell is a matter of the other slots. -/
lemma Tidy.any_holds_iff (h : shelf.Tidy) (hne : a ≠ b)
    (hfetch : shelf.fetch a take = some (inner, rest)) (id : Nat) :
    (inner :: (rest.clear b).handles).any (·.holds id) ↔ shelf.Shared b id := by
  have hinner := (fetch_eq_some_iff.mp hfetch).1
  rw [List.any_eq_true]
  constructor
  · rintro ⟨other, hother, hholds⟩
    rcases List.mem_cons.mp hother with rfl | hother
    · exact ⟨a, other, hne, hinner, hholds⟩
    · obtain ⟨name, hget⟩ := ((h.fetch hfetch).1.clear b).exists_get?_of_mem hother
      obtain ⟨hname, hget⟩ := get?_of_get?_clear hget
      exact ⟨name, other, hname, get?_of_get?_rest hfetch hget, hholds⟩
  · rintro ⟨name, other, hname, hget, hholds⟩
    by_cases ha : name = a
    · subst ha
      obtain rfl := Option.some.inj (hinner.symm.trans hget)
      exact ⟨inner, List.mem_cons_self, hholds⟩
    · rw [← get?_rest_of_ne hfetch ha, ← get?_clear_of_ne rest hname] at hget
      exact ⟨other, List.mem_cons_of_mem _ (mem_handles_of_get? hget), hholds⟩

end Context

/-- The fault that a step makes. -/
def outcome (shelf : Shelf) (target : String) (step : Step) : Except Refusal Fault :=
  (shelf.run target step).1.map Handle.fault

section Outcome

variable {a b : String} {inner outer : Handle} {take : Bool}

lemma exists_fetch (hne : a ≠ b) (hinner : shelf.get? a = some inner)
    (houter : shelf.get? b = some outer) (take : Bool) :
    ∃ rest, shelf.fetch a take = some (inner, rest) ∧ rest.get? b = some outer := by
  have hfetch := fetch_eq_some_iff.mpr ⟨hinner, Eq.refl (if take then shelf.clear a else shelf)⟩
  exact ⟨_, hfetch, (get?_rest_of_ne hfetch hne.symm).trans houter⟩

lemma outcome_context_slot {rest : Shelf} (hfetch : shelf.fetch a take = some (inner, rest))
    (houter : rest.get? b = some outer) (target : String) (takeContext : Bool) :
    shelf.outcome target (.context a take (.slot b takeContext)) =
      if (inner :: (if takeContext then rest.clear b else rest).handles).any
          (·.holds outer.cell.id) then
        .ok (inner.fault.context outer.cell.kind.message)
      else if outer.causes = [] then .ok (inner.fault.within outer.cell.kind)
      else .error .contextWithCause := by
  rw [outcome, run_context_slot_eq hfetch (fetch_eq_some_iff.mpr ⟨houter, rfl⟩), link,
    Handle.addContext]
  simp only [List.isEmpty_iff]
  split_ifs <;> rfl

/-- A context that is copied goes on being held in its slot, so that its text alone is used. -/
theorem outcome_copied (hne : a ≠ b) (hinner : shelf.get? a = some inner)
    (houter : shelf.get? b = some outer) (target : String) (take : Bool) :
    shelf.outcome target (.context a take (.slot b false)) =
      .ok (inner.fault.context outer.cell.kind.message) := by
  obtain ⟨rest, hfetch, hget⟩ := exists_fetch hne hinner houter take
  rw [outcome_context_slot hfetch hget]
  apply if_pos
  rw [List.any_eq_true]
  have hself : outer.holds outer.cell.id :=
    List.any_eq_true.mpr ⟨outer.cell, List.mem_cons_self, beq_self_eq_true _⟩
  exact ⟨outer, List.mem_cons_of_mem _ (mem_handles_of_get? hget), hself⟩

/-- A context that is moved is treated like a copy if other slots hold it; else it gives up its
kind, or is refused for its cause. -/
theorem Tidy.outcome_moved (h : shelf.Tidy) (hne : a ≠ b) (hinner : shelf.get? a = some inner)
    (houter : shelf.get? b = some outer) (target : String) (take : Bool) :
    shelf.Shared b outer.cell.id ∧ shelf.outcome target (.context a take (.slot b true)) =
        .ok (inner.fault.context outer.cell.kind.message) ∨
      ¬ shelf.Shared b outer.cell.id ∧ outer.causes = [] ∧
        shelf.outcome target (.context a take (.slot b true)) =
          .ok (inner.fault.within outer.cell.kind) ∨
      ¬ shelf.Shared b outer.cell.id ∧ outer.causes ≠ [] ∧
        shelf.outcome target (.context a take (.slot b true)) = .error .contextWithCause := by
  obtain ⟨rest, hfetch, hget⟩ := exists_fetch hne hinner houter take
  have hmoved := outcome_context_slot hfetch hget target true
  have hheld := h.any_holds_iff hne hfetch outer.cell.id
  by_cases hshared : shelf.Shared b outer.cell.id
  · exact .inl ⟨hshared, hmoved.trans (if_pos (hheld.mpr hshared))⟩
  · replace hmoved := hmoved.trans (if_neg (mt hheld.mp hshared))
    by_cases hcauses : outer.causes = []
    · exact .inr (.inl ⟨hshared, hcauses, hmoved.trans (if_pos hcauses)⟩)
    · exact .inr (.inr ⟨hshared, hcauses, hmoved.trans (if_neg hcauses)⟩)

end Outcome

/-- Two attempts to put `outer` in front of `inner` that cannot be told apart: both are refused, or
the faults have one text and belong to the same categories, those of `inner` and `outer`. -/
inductive Indifferent (inner outer : Fault) : Except Refusal Fault → Except Refusal Fault → Prop
  | refused (refusal refusal' : Refusal) : Indifferent inner outer (.error refusal) (.error refusal')
  | linked {fault fault' : Fault} (message : fault.message = fault'.message)
    (same : ∀ category, fault.isA category = fault'.isA category)
    (isA : ∀ category, fault.isA category = (inner.isA category || outer.isA category)) :
    Indifferent inner outer (.ok fault) (.ok fault')

lemma indifferent_ok_iff {inner outer fault fault' : Fault} :
    Indifferent inner outer (.ok fault) (.ok fault') ↔ fault.message = fault'.message ∧
      (∀ category, fault.isA category = fault'.isA category) ∧
      ∀ category, fault.isA category = (inner.isA category || outer.isA category) := by
  constructor
  · rintro (_ | ⟨message, same, isA⟩)
    exact ⟨message, same, isA⟩
  · rintro ⟨message, same, isA⟩
    exact .linked message same isA

variable {a b : String} {inner outer : Handle}

/-- Handing a context over and handing over a copy of it come to the same exactly if the context is
held elsewhere anyway or has no cause, and belongs to no category that the fault is not in. -/
theorem indifferent_iff (hbuilt : shelf.Built) (hne : a ≠ b) (hinner : shelf.get? a = some inner)
    (houter : shelf.get? b = some outer) (target : String) (take : Bool) :
    Indifferent inner.fault outer.fault
        (shelf.outcome target (.context a take (.slot b true)))
        (shelf.outcome target (.context a take (.slot b false))) ↔
      (shelf.Shared b outer.cell.id ∨ outer.causes = []) ∧
        ∀ category, outer.fault.isA category → inner.fault.isA category := by
  rw [outcome_copied hne hinner houter target take]
  obtain ⟨hshared, hmoved⟩ | ⟨-, hcauses, hmoved⟩ | ⟨hsole, hcauses, hmoved⟩ :=
    hbuilt.tidy.outcome_moved hne hinner houter target take
  · simp [hmoved, indifferent_ok_iff, hshared]
  · have hisA (category : Category) : outer.fault.isA category =
        (outer.cell.kind.category? == some category) :=
      isA_of_causeless (by simp [Handle.fault, hcauses]) category
    have hmessage : (inner.fault.within outer.cell.kind).message =
        (inner.fault.context outer.cell.kind.message).message := rfl
    simp [hmoved, indifferent_ok_iff, hmessage, hcauses, hisA, Bool.or_comm]
  · have hunlike : ¬ (shelf.Shared b outer.cell.id ∨ outer.causes = []) := by tauto
    rw [hmoved]
    constructor
    · rintro ⟨⟩
    · intro hcond
      exact absurd hcond.1 hunlike

/-- A plain fault, a failed query, and a failed query that already has a context. -/
def queryShelf : Shelf :=
  (((empty.run "reset" (.new (of (.adhoc "connection reset")))).2.run
    "query" (.new (queryFailure "socket closed"))).2.run
    "schema" (.new ((queryFailure "timeout").context "reading schema shop"))).2

lemma queryShelf_built : queryShelf.Built := ((Built.empty.run _ _).run _ _).run _ _

theorem indifferent_iff_queryShelf :
    ∃ shelf inner outer, shelf = (queryShelf.run "copy" (.clone "schema")).2 ∧ shelf.Built ∧
      "query" ≠ "schema" ∧ shelf.get? "query" = some inner ∧ shelf.get? "schema" = some outer ∧
      shelf.Shared "schema" outer.cell.id ∧
      (∀ category, outer.fault.isA category → inner.fault.isA category) ∧
      Indifferent inner.fault outer.fault
        (shelf.outcome "both" (.context "query" true (.slot "schema" true)))
        (shelf.outcome "both" (.context "query" true (.slot "schema" false))) := by
  have hbuilt := queryShelf_built.run "copy" (.clone "schema")
  have hshared : (queryShelf.run "copy" (.clone "schema")).2.Shared "schema" 2 :=
    ⟨"copy", _, by decide, rfl, by decide⟩
  have hcategories : ∀ category, ((queryFailure "timeout").context "reading schema shop").isA category →
      (queryFailure "socket closed").isA category := by
    intro category
    cases category <;> decide
  exact ⟨_, _, _, rfl, hbuilt, by decide, rfl, rfl, hshared, hcategories,
    (indifferent_iff hbuilt (by decide) rfl rfl "both" true).mpr ⟨.inl hshared, hcategories⟩⟩

theorem not_indifferent_queryShelf :
    ∃ inner query schema, queryShelf.Built ∧ queryShelf.get? "reset" = some inner ∧
      queryShelf.get? "query" = some query ∧ queryShelf.get? "schema" = some schema ∧
      ¬ Indifferent inner.fault query.fault
        (queryShelf.outcome "both" (.context "reset" true (.slot "query" true)))
        (queryShelf.outcome "both" (.context "reset" true (.slot "query" false))) ∧
      ¬ Indifferent inner.fault schema.fault
        (queryShelf.outcome "both" (.context "reset" true (.slot "schema" true)))
        (queryShelf.outcome "both" (.context "reset" true (.slot "schema" false))) := by
  refine ⟨_, _, _, queryShelf_built, rfl, rfl, rfl, ?_, ?_⟩
  · intro h
    have hkept : queryShelf.outcome "both" (.context "reset" true (.slot "query" true)) =
        .ok ((of (.adhoc "connection reset")).within (queryFailure "socket closed").kind) := rfl
    have hlost : queryShelf.outcome "both" (.context "reset" true (.slot "query" false)) =
        .ok ((of (.adhoc "connection reset")).context "query failed: socket closed") := by rfl
    rw [hkept, hlost, indifferent_ok_iff] at h
    exact absurd (h.2.1 .queryFailure) (by decide)
  · intro h
    have hrefused : queryShelf.outcome "both" (.context "reset" true (.slot "schema" true)) =
        .error .contextWithCause := rfl
    have hlost : queryShelf.outcome "both" (.context "reset" true (.slot "schema" false)) =
        .ok ((of (.adhoc "connection reset")).context "reading schema shop") := rfl
    rw [hrefused, hlost] at h
    nomatch h

end Shelf

end RelProto.Fault
