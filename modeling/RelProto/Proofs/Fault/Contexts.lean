import RelProto.Proofs.Fault.Ownership

/-! Contexts one after another. Texts, and faults without a cause that nobody else holds, can always
be put in front of a fault; it then lists them all, the last one first, and what was copied on the
way stays as it was. -/
namespace RelProto.Fault

variable {shelf : Shelf} {name slot : String} {handle : Handle}

/-- The fault reads as `inner` under the contexts, the last of them outermost. -/
structure ReadsUnder (contexts : List Fault) (inner fault : Fault) : Prop where
  message : fault.message =
    ": ".intercalate ((contexts.map Fault.message).reverse ++ [inner.message])
  isA : ∀ category, fault.isA category ↔
    inner.isA category ∨ ∃ context ∈ contexts, context.isA category

lemma message_of_causeless {fault : Fault} (h : fault.causes = []) :
    fault.message = fault.kind.message := by
  simp [message, chain, h]

/-- Puts the kind of a context in front of the fault. -/
def under (fault context : Fault) : Fault := fault.within context.kind

theorem chain_foldl_under (contexts : List Fault) (fault : Fault) :
    (contexts.foldl under fault).chain = (contexts.map Fault.kind).reverse ++ fault.chain := by
  induction contexts generalizing fault with
  | nil => rfl
  | cons context contexts ih => simp [ih, under]

theorem readsUnder_foldl {contexts : List Fault} (h : ∀ context ∈ contexts, context.causes = [])
    (fault : Fault) : ReadsUnder contexts fault (contexts.foldl under fault) := by
  constructor
  · have htexts : contexts.map Fault.message = (contexts.map Fault.kind).map Kind.message := by
      rw [List.map_map]
      apply List.map_congr_left
      intro context hcontext
      exact message_of_causeless (h context hcontext)
    rw [message, chain_foldl_under, List.map_append, htexts, List.map_reverse]
    cases ((contexts.map Fault.kind).map Kind.message).reverse with
    | nil => simp [message]
    | cons text texts =>
      have hchain : fault.chain.map Kind.message ≠ [] := by simp [chain]
      rw [String.intercalate_append_of_ne_nil (List.cons_ne_nil _ _) hchain,
        String.intercalate_append_of_ne_nil (List.cons_ne_nil _ _) (List.cons_ne_nil _ _),
        String.intercalate_singleton, message]
  · intro category
    rw [isA, chain_foldl_under, List.any_append, Bool.or_eq_true, or_comm, ← isA]
    apply or_congr_right
    simp only [List.any_reverse, List.any_map, List.any_eq_true, Function.comp_apply]
    refine exists_congr fun context => and_congr_right fun hcontext => ?_
    rw [isA_of_causeless (h context hcontext)]

/-- A step in the making of a fault: it is copied into a slot, or a text or the fault of a slot is
put in front of it. -/
inductive Stage where
  | copy (name : String)
  | text (message : String)
  | fault (name : String)

namespace Stage

/-- The slots that the stage fills or empties. -/
def slots : Stage → List String
  | copy name | fault name => [name]
  | text _ => []

def target (slot : String) : Stage → String
  | copy name => name
  | text _ | fault _ => slot

def step (slot : String) : Stage → Shelf.Step
  | copy _ => .clone slot
  | text message => .context slot true (.text message)
  | fault name => .context slot true (.slot name true)

/-- The fault that the stage puts in front. -/
def context? (shelf : Shelf) : Stage → Option Fault
  | copy _ => none
  | text message => some (.of (.adhoc message))
  | fault name => (shelf.get? name).map Handle.fault

end Stage

namespace Shelf

/-- Goes through the stages with the fault in the slot. -/
def build (shelf : Shelf) (slot : String) : List Stage → Except Refusal Shelf
  | [] => .ok shelf
  | stage :: stages =>
    match shelf.run (stage.target slot) (stage.step slot) with
    | (.ok _, shelf) => shelf.build slot stages
    | (.error refusal, _) => .error refusal

/-- The slots of the stages are apart, and their faults have no cause and no other holder. -/
structure Fitting (shelf : Shelf) (slot : String) (stages : List Stage) : Prop where
  apart : (slot :: stages.flatMap Stage.slots).Nodup
  alone : ∀ name, Stage.fault name ∈ stages →
    ∃ cell, shelf.get? name = some ⟨cell, []⟩ ∧ ¬ shelf.Shared name cell.id

lemma Fitting.ne_of_fault_mem {stage : Stage} {stages : List Stage}
    (h : shelf.Fitting slot (stage :: stages)) (hname : Stage.fault name ∈ stages) :
    name ≠ slot ∧ name ∉ stage.slots := by
  have hapart := h.apart
  have hmem : name ∈ stages.flatMap Stage.slots :=
    List.mem_flatMap.mpr ⟨_, hname, List.mem_singleton_self name⟩
  rw [List.flatMap_cons, List.nodup_cons, List.mem_append, not_or, List.nodup_append] at hapart
  obtain ⟨⟨-, hslot⟩, -, -, hdisjoint⟩ := hapart
  exact ⟨fun hsame => hslot (hsame ▸ hmem), fun hstage => hdisjoint name hstage name hmem rfl⟩

/-- What a stage does with the fault that `handle` holds in the slot. -/
structure Advances (slot : String) (stage : Stage) (handle : Handle) (shelf shelf' : Shelf) :
    Prop where
  tidy : shelf'.Tidy
  made : ∃ handle', shelf'.get? slot = some handle' ∧
    handle'.fault = (stage.context? shelf).toList.foldl under handle.fault
  copied : ∀ name, stage = .copy name → shelf'.get? name = some handle
  unchanged : ∀ name, name ≠ slot → name ∉ stage.slots → shelf'.get? name = shelf.get? name
  origin : ∀ name other, shelf'.get? name = some other → ∀ id < shelf.next, other.holds id →
    shelf.get? name = some other ∨ handle.holds id

variable {rest : Shelf} {stage : Stage} {context : Fault} {cell : Cell} {stages : List Stage}

/-- A context gets a new cell in front of those of the fault. -/
lemma Advances.of_put (hget : shelf.get? slot = some handle) (htidy : shelf.Tidy)
    (hrest : rest.Tidy) (hnext : rest.next = shelf.next) {id next : Nat} (hid : shelf.next ≤ id)
    (hlt : id < next) (hcopy : ∀ name, stage ≠ .copy name)
    (hcontext : stage.context? shelf = some context)
    (hsame : ∀ name, name ≠ slot → name ∉ stage.slots → rest.get? name = shelf.get? name)
    (hfrom : ∀ name other, rest.get? name = some other → shelf.get? name = some other) :
    Advances slot stage handle shelf
      ({ rest with next := next }.put slot ⟨⟨id, context.kind⟩, handle.cells⟩) := by
  have hids := htidy.id_lt_of_get? hget
  refine ⟨?_, ⟨_, get?_put_self _ _ _, ?_⟩, ?_, ?_, ?_⟩
  · apply (hrest.of_le (by omega)).put
    intro cell hcell
    rcases List.mem_cons.mp hcell with rfl | hcell
    · exact hlt
    · exact (hids cell hcell).trans (hid.trans_lt hlt)
  · rw [hcontext]
    rfl
  · intro name hname
    exact absurd hname (hcopy name)
  · intro name hname hslots
    rw [get?_put_of_ne _ _ hname]
    exact hsame name hname hslots
  · intro name other hother id' hid' hholds
    by_cases hname : name = slot
    · subst hname
      obtain rfl := Option.some.inj ((get?_put_self _ _ _).symm.trans hother)
      right
      obtain ⟨cell, hcell, hsame⟩ := List.any_eq_true.mp hholds
      rcases List.mem_cons.mp hcell with rfl | hcell
      · have hnew : id = id' := by simpa using hsame
        omega
      · exact List.any_eq_true.mpr ⟨cell, hcell, hsame⟩
    · rw [get?_put_of_ne _ _ hname] at hother
      exact .inl (hfrom name other hother)

lemma advances_copy (hget : shelf.get? slot = some handle) (htidy : shelf.Tidy)
    (hname : slot ≠ name) :
    Advances slot (.copy name) handle shelf (shelf.put name handle) := by
  refine ⟨htidy.put name (htidy.id_lt_of_get? hget),
    ⟨handle, (get?_put_of_ne _ _ hname).trans hget, rfl⟩, ?_, ?_, ?_⟩
  · rintro other ⟨⟩
    exact get?_put_self _ _ _
  · intro other _ hother
    exact get?_put_of_ne _ _ (by simpa [Stage.slots] using hother)
  · intro other held hheld id _ hholds
    by_cases hother : other = name
    · subst hother
      obtain rfl := Option.some.inj ((get?_put_self _ _ _).symm.trans hheld)
      exact .inr hholds
    · exact .inl ((get?_put_of_ne _ _ hother).symm.trans hheld)

lemma fetch_of_get? (hget : shelf.get? slot = some handle) :
    shelf.fetch slot true = some (handle, shelf.clear slot) :=
  fetch_eq_some_iff.mpr ⟨hget, rfl⟩

/-- A text is a context of its own, so nobody else holds it. -/
lemma run_text (hget : shelf.get? slot = some handle) (message : String) :
    shelf.run slot (.context slot true (.text message)) =
      (.ok ⟨⟨shelf.next + 1, .adhoc message⟩, handle.cells⟩,
       { shelf.clear slot with next := shelf.next + 1 + 1 }.put slot
         ⟨⟨shelf.next + 1, .adhoc message⟩, handle.cells⟩) := by
  rw [run_context_text_eq (fetch_of_get? hget), allocate_adhoc]
  simp [link, Handle.addContext]

lemma run_fault (htidy : shelf.Tidy) (hget : shelf.get? slot = some handle) (hname : slot ≠ name)
    (hheld : shelf.get? name = some ⟨cell, []⟩) (halone : ¬ shelf.Shared name cell.id) :
    shelf.run slot (.context slot true (.slot name true)) =
      (.ok ⟨⟨shelf.next, cell.kind⟩, handle.cells⟩,
       { (shelf.clear slot).clear name with next := shelf.next + 1 }.put slot
         ⟨⟨shelf.next, cell.kind⟩, handle.cells⟩) := by
  have hfetch := fetch_of_get? hget
  have hrest : (shelf.clear slot).get? name = some ⟨cell, []⟩ :=
    (get?_clear_of_ne shelf hname.symm).trans hheld
  have hfree := mt (htidy.any_holds_iff hname hfetch cell.id).mp halone
  rw [run_context_slot_eq hfetch (fetch_of_get? hrest), link, Handle.addContext, if_neg hfree]
  rfl

/-- A stage that fits is never refused. -/
theorem exists_advances (htidy : shelf.Tidy) (hget : shelf.get? slot = some handle)
    (hfit : shelf.Fitting slot (stage :: stages)) :
    ∃ made shelf', shelf.run (stage.target slot) (stage.step slot) = (.ok made, shelf') ∧
      Advances slot stage handle shelf shelf' := by
  have hslot : slot ∉ stage.slots := by
    have hapart := hfit.apart
    rw [List.flatMap_cons, List.nodup_cons, List.mem_append, not_or] at hapart
    exact hapart.1.1
  cases stage with
  | copy name =>
    have hname : slot ≠ name := by simpa [Stage.slots] using hslot
    refine ⟨handle, shelf.put name handle, ?_, advances_copy hget htidy hname⟩
    simp [Stage.target, Stage.step, run, hget]
  | text message =>
    have hcopy (name : String) : Stage.text message ≠ .copy name := Stage.noConfusion
    refine ⟨_, _, run_text hget message, .of_put hget htidy (htidy.clear slot) rfl
      (Nat.le_succ _) (Nat.lt_succ_self _) hcopy rfl ?_ ?_⟩
    · intro name hname _
      exact get?_clear_of_ne shelf hname
    · intro name other hother
      exact (get?_of_get?_clear hother).2
  | fault name =>
    have hname : slot ≠ name := by simpa [Stage.slots] using hslot
    obtain ⟨cell, hheld, halone⟩ := hfit.alone name List.mem_cons_self
    have hcontext : (Stage.fault name).context? shelf = some (of cell.kind) := by
      simp [Stage.context?, hheld, Handle.fault, of]
    have hcopy (other : String) : Stage.fault name ≠ .copy other := Stage.noConfusion
    refine ⟨_, _, run_fault htidy hget hname hheld halone, .of_put hget htidy
      ((htidy.clear slot).clear name) rfl le_rfl (Nat.lt_succ_self _) hcopy hcontext ?_ ?_⟩
    · intro other hother hslots
      have hne : other ≠ name := by simpa [Stage.slots] using hslots
      rw [get?_clear_of_ne _ hne, get?_clear_of_ne shelf hother]
    · intro other held hother
      exact (get?_of_get?_clear (get?_of_get?_clear hother).2).2

/-- The stages that are left fit the shelf after a stage. -/
theorem Advances.fitting {shelf' : Shelf} (h : Advances slot stage handle shelf shelf')
    (htidy : shelf.Tidy) (hget : shelf.get? slot = some handle)
    (hfit : shelf.Fitting slot (stage :: stages)) : shelf'.Fitting slot stages := by
  refine ⟨hfit.apart.sublist (by simp [List.flatMap_cons]), ?_⟩
  intro name hname
  obtain ⟨hne, hnot⟩ := hfit.ne_of_fault_mem hname
  obtain ⟨cell, hheld, halone⟩ := hfit.alone name (List.mem_cons_of_mem _ hname)
  refine ⟨cell, (h.unchanged name hne hnot).trans hheld, ?_⟩
  have hid : cell.id < shelf.next := htidy.id_lt_of_get? hheld cell List.mem_cons_self
  rintro ⟨other, held, hother, hgot, hholds⟩
  rcases h.origin other held hgot cell.id hid hholds with hbefore | hheld
  · exact halone ⟨other, held, hother, hbefore, hholds⟩
  · exact halone ⟨slot, handle, hne.symm, hget, hheld⟩

/-- The contexts that the stages put in front. -/
def contexts (shelf : Shelf) (stages : List Stage) : List Fault :=
  stages.filterMap (Stage.context? shelf)

lemma contexts_cons (shelf : Shelf) (stage : Stage) (stages : List Stage) :
    shelf.contexts (stage :: stages) = (stage.context? shelf).toList ++ shelf.contexts stages := by
  cases hcontext : stage.context? shelf <;> simp [contexts, hcontext]

/-- A stage does not touch the contexts of later ones. -/
lemma Advances.contexts_eq {shelf' : Shelf} (h : Advances slot stage handle shelf shelf')
    (hfit : shelf.Fitting slot (stage :: stages)) {later : List Stage} (hlater : later ⊆ stages) :
    shelf'.contexts later = shelf.contexts later := by
  apply List.filterMap_congr
  intro other hother
  cases other with
  | copy name => rfl
  | text message => rfl
  | fault name =>
    obtain ⟨hne, hnot⟩ := hfit.ne_of_fault_mem (hlater hother)
    rw [Stage.context?, Stage.context?, h.unchanged name hne hnot]

/-- Stages that fit are all gone through: the contexts end up in front of the fault, a copy has
those that came before it, and slots that no stage names are left alone. -/
theorem exists_build (htidy : shelf.Tidy) (hget : shelf.get? slot = some handle)
    (hfit : shelf.Fitting slot stages) :
    ∃ shelf' last, shelf.build slot stages = .ok shelf' ∧ shelf'.get? slot = some last ∧
      last.fault = (shelf.contexts stages).foldl under handle.fault ∧
      (∀ before name after, stages = before ++ .copy name :: after →
        ∃ copy, shelf'.get? name = some copy ∧
          copy.fault = (shelf.contexts before).foldl under handle.fault) ∧
      ∀ name, name ≠ slot → name ∉ stages.flatMap Stage.slots →
        shelf'.get? name = shelf.get? name := by
  induction stages generalizing shelf handle with
  | nil => exact ⟨shelf, handle, rfl, hget, rfl, by simp, fun _ _ _ => rfl⟩
  | cons stage stages ih =>
    obtain ⟨made, between, hrun, hadvances⟩ := exists_advances htidy hget hfit
    obtain ⟨handle', hget', hfault'⟩ := hadvances.made
    obtain ⟨shelf', last, hbuild, hlast, hfault, hcopies, hsame⟩ :=
      ih hadvances.tidy hget' (hadvances.fitting htidy hget hfit)
    -- What a later part of the stages adds to `handle'` is what it adds after this stage.
    have hfoldl {later : List Stage} (hlater : later ⊆ stages) :
        (between.contexts later).foldl under handle'.fault =
          (shelf.contexts (stage :: later)).foldl under handle.fault := by
      rw [hadvances.contexts_eq hfit hlater, contexts_cons, List.foldl_append, hfault']
    refine ⟨shelf', last, ?_, hlast, hfault.trans (hfoldl (List.Subset.refl _)), ?_, ?_⟩
    · rw [build, hrun]
      exact hbuild
    · intro before name after hsplit
      cases before with
      | nil =>
        obtain ⟨rfl, rfl⟩ := List.cons.inj hsplit
        have hapart := hfit.apart
        simp only [List.flatMap_cons, Stage.slots, List.singleton_append, List.nodup_cons,
          List.mem_cons, not_or] at hapart
        refine ⟨handle, ?_, rfl⟩
        rw [hsame name (Ne.symm hapart.1.1) hapart.2.1]
        exact hadvances.copied name rfl
      | cons first before =>
        obtain ⟨rfl, rfl⟩ := List.cons.inj hsplit
        obtain ⟨copy, hcopy, hfault⟩ := hcopies before name after rfl
        exact ⟨copy, hcopy, hfault.trans (hfoldl (List.subset_append_left _ _))⟩
    · intro name hname hslots
      rw [List.flatMap_cons, List.mem_append, not_or] at hslots
      rw [hsame name hname hslots.2, hadvances.unchanged name hname hslots.1]

lemma Fitting.causeless (hfit : shelf.Fitting slot stages) :
    ∀ context ∈ shelf.contexts stages, context.causes = [] := by
  intro context hcontext
  obtain ⟨stage, hstage, hfound⟩ := List.mem_filterMap.mp hcontext
  cases stage with
  | copy name => simp [Stage.context?] at hfound
  | text message =>
    obtain rfl := Option.some.inj hfound
    rfl
  | fault name =>
    obtain ⟨cell, hheld, -⟩ := hfit.alone name hstage
    rw [Stage.context?, hheld] at hfound
    obtain rfl := Option.some.inj hfound
    rfl

/-- Texts, and faults without a cause that nobody else holds, are never refused as contexts. The
fault then reads as they do, and so does every copy that was taken on the way. -/
theorem build_readsUnder (hbuilt : shelf.Built) (hget : shelf.get? slot = some handle)
    (hfit : shelf.Fitting slot stages) :
    ∃ shelf' last, shelf.build slot stages = .ok shelf' ∧ shelf'.get? slot = some last ∧
      ReadsUnder (shelf.contexts stages) handle.fault last.fault ∧
      (∀ before name after, stages = before ++ .copy name :: after →
        ∃ copy, shelf'.get? name = some copy ∧
          ReadsUnder (shelf.contexts before) handle.fault copy.fault) ∧
      ∀ name, name ≠ slot → name ∉ stages.flatMap Stage.slots →
        shelf'.get? name = shelf.get? name := by
  obtain ⟨shelf', last, hbuild, hlast, hfault, hcopies, hsame⟩ := exists_build hbuilt.tidy hget hfit
  have hcauseless := hfit.causeless
  refine ⟨shelf', last, hbuild, hlast, ?_, ?_, hsame⟩
  · rw [hfault]
    exact readsUnder_foldl hcauseless handle.fault
  · intro before name after hsplit
    obtain ⟨copy, hcopy, hfault⟩ := hcopies before name after hsplit
    refine ⟨copy, hcopy, ?_⟩
    rw [hfault]
    apply readsUnder_foldl
    intro context hcontext
    apply hcauseless
    rw [hsplit, contexts, List.filterMap_append]
    exact List.mem_append_left _ hcontext

/-- The three faults with a copy of the one that has a context. -/
def copiedShelf : Shelf := (queryShelf.run "copy" (.clone "schema")).2

theorem build_readsUnder_copiedShelf :
    ∃ handle, copiedShelf.Built ∧ copiedShelf.get? "schema" = some handle ∧
      copiedShelf.Fitting "schema" [.text "retrying", .copy "retried", .fault "query"] ∧
      ∃ shelf' last copy,
        copiedShelf.build "schema" [.text "retrying", .copy "retried", .fault "query"] = .ok shelf' ∧
        shelf'.get? "schema" = some last ∧
        ReadsUnder [of (.adhoc "retrying"), queryFailure "socket closed"] handle.fault last.fault ∧
        shelf'.get? "retried" = some copy ∧
        ReadsUnder [of (.adhoc "retrying")] handle.fault copy.fault ∧
        shelf'.get? "copy" = some handle := by
  have hbuilt : copiedShelf.Built := queryShelf_built.run "copy" (.clone "schema")
  have hfit : copiedShelf.Fitting "schema" [.text "retrying", .copy "retried", .fault "query"] := by
    refine ⟨by decide, ?_⟩
    intro name hname
    obtain rfl : name = "query" := by simpa using hname
    exact ⟨_, rfl, not_shared_of_forall (by decide)⟩
  obtain ⟨shelf', last, hbuild, hlast, hreads, hcopies, hsame⟩ := build_readsUnder hbuilt rfl hfit
  obtain ⟨copy, hcopy, hcopied⟩ := hcopies [.text "retrying"] "retried" [.fault "query"] rfl
  exact ⟨_, hbuilt, rfl, hfit, shelf', last, copy, hbuild, hlast, hreads, hcopy, hcopied,
    hsame "copy" (by decide) (by decide)⟩

end Shelf

end RelProto.Fault
