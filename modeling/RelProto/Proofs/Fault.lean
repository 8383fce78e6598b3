import Mathlib.Data.String.Basic
import RelProto.Fault.Handle
import RelProto.Proofs.List

/-! What contexts do to a fault: its text gets longer in front, and it stays in its categories.
Contexts that are plain texts can be added to every fault, whoever else holds a part of it. -/
namespace RelProto.Fault

@[simp] theorem Kind.message_adhoc (text : String) : (adhoc text).message = text := rfl

theorem message_context (fault : Fault) (text : String) :
    (fault.context text).message = text ++ ": " ++ fault.message := by
  have hchain : fault.chain.map Kind.message ≠ [] := by simp [chain]
  rw [message, context, chain_within, List.map_cons, String.intercalate_cons_of_ne_nil hchain,
    Kind.message_adhoc, message]

@[simp] theorem isA_context (fault : Fault) (text : String) (category : Category) :
    (fault.context text).isA category = fault.isA category := by
  simp [isA, context, within, chain, Kind.category?]

/-- Texts in front of a fault, the last one outermost, put it into no further category. -/
theorem isA_foldl_context (texts : List String) (fault : Fault) (category : Category) :
    (texts.foldl context fault).isA category = fault.isA category := by
  induction texts generalizing fault with
  | nil => rfl
  | cons text texts ih => rw [List.foldl_cons, ih, isA_context]

/-- A text becomes a context in either way, as it has no cause of its own: its cell is taken over,
or its text is copied. -/
theorem Handle.exists_addContext_text (inner : Handle) (others : List Handle) (own id : Nat)
    (text : String) :
    ∃ handle, inner.addContext ⟨⟨own, .adhoc text⟩, []⟩ others id = .ok handle ∧
      handle.fault = inner.fault.context text := by
  refine ⟨⟨⟨id, .adhoc text⟩, inner.cells⟩, ?_, rfl⟩
  rw [addContext]
  simp

namespace Shelf

variable {shelf : Shelf} {slot name : String} {handle : Handle}

@[simp] lemma get?_put_self (shelf : Shelf) (slot : String) (handle : Handle) :
    (shelf.put slot handle).get? slot = some handle := by
  simp [get?, put]

@[simp] theorem next_clear (shelf : Shelf) (slot : String) :
    (shelf.clear slot).next = shelf.next := rfl

lemma get?_clear_of_ne (shelf : Shelf) (h : name ≠ slot) :
    (shelf.clear slot).get? name = shelf.get? name :=
  lookup_filter_ne shelf.slots h

lemma get?_put_of_ne (shelf : Shelf) (handle : Handle) (h : name ≠ slot) :
    (shelf.put slot handle).get? name = shelf.get? name := by
  have hother : (name == slot) = false := beq_eq_false_iff_ne.mpr h
  rw [← get?_clear_of_ne shelf h]
  simp [get?, put, List.lookup_cons, hother]

/-- A text that is made a fault has a cell of its own. -/
lemma allocate_adhoc (shelf : Shelf) (text : String) :
    shelf.allocate (of (.adhoc text)) =
      (⟨⟨shelf.next, .adhoc text⟩, []⟩, { shelf with next := shelf.next + 1 }) := rfl

/-- Adding a text to the fault in a slot is never refused, and leaves the other slots alone. -/
theorem run_context_text (hslot : shelf.get? slot = some handle) (text : String) :
    ∃ handle' shelf', shelf.run slot (.context slot true (.text text)) = (.ok handle', shelf') ∧
      handle'.fault = handle.fault.context text ∧ shelf'.get? slot = some handle' ∧
      ∀ name, name ≠ slot → shelf'.get? name = shelf.get? name := by
  obtain ⟨handle', hadd, hfault⟩ := handle.exists_addContext_text (shelf.clear slot).handles
    shelf.next (shelf.next + 1) text
  refine ⟨handle', { shelf.clear slot with next := shelf.next + 1 + 1 }.put slot handle', ?_,
    hfault, get?_put_self _ _ _, ?_⟩
  · rw [handles] at hadd
    simp [run, fetch, hslot, allocate_adhoc, handles, hadd]
  · intro name hname
    rw [get?_put_of_ne _ _ hname]
    exact get?_clear_of_ne shelf hname

/-- Adds texts to the fault in a slot, one after another. -/
def addContexts (shelf : Shelf) (slot : String) : List String → Except Refusal Shelf
  | [] => .ok shelf
  | text :: texts =>
    match shelf.run slot (.context slot true (.text text)) with
    | (.ok _, shelf) => shelf.addContexts slot texts
    | (.error refusal, _) => .error refusal

theorem exists_addContexts (texts : List String) (hslot : shelf.get? slot = some handle) :
    ∃ handle' shelf', shelf.addContexts slot texts = .ok shelf' ∧
      handle'.fault = texts.foldl context handle.fault ∧ shelf'.get? slot = some handle' ∧
      ∀ name, name ≠ slot → shelf'.get? name = shelf.get? name := by
  induction texts generalizing shelf handle with
  | nil => exact ⟨handle, shelf, rfl, rfl, hslot, fun _ _ => rfl⟩
  | cons text texts ih =>
    obtain ⟨between, shelf₁, hrun, hbetween, hslot₁, hothers₁⟩ := run_context_text hslot text
    obtain ⟨last, shelf₂, hadd, hlast, hslot₂, hothers₂⟩ := ih hslot₁
    refine ⟨last, shelf₂, ?_, ?_, hslot₂, ?_⟩
    · rw [addContexts, hrun]
      exact hadd
    · rw [hlast, hbetween, List.foldl_cons]
    · intro name hname
      rw [hothers₂ name hname, hothers₁ name hname]

end Shelf

end RelProto.Fault
