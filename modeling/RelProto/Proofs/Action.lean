import Mathlib.Data.List.Forall2
import RelProto.Action

/-! What actions come to, apart from their log lines: outcomes, the cases in which an action returns,
and pairs of actions that are run side by side. -/
namespace RelProto.Action

variable {σ σ' α α' β β' : Type}

/-- The result of an action and the world it leaves, without its log lines. -/
def outcome (action : Action σ α) (world : σ) : Except Fault α × σ :=
  ((action world).1.result, (action world).2)

section Outcome

variable (world : σ)

@[simp] theorem outcome_pure (a : α) : (pure a : Action σ α).outcome world = (.ok a, world) := rfl

@[simp] theorem outcome_throw (fault : Fault) :
    (throw fault : Action σ α).outcome world = (.error fault, world) := rfl

@[simp] theorem outcome_ofExcept (x : Except Fault α) :
    (ofExcept x : Action σ α).outcome world = (x, world) := rfl

@[simp] theorem outcome_monadLift (x : Logged Fault α) :
    (monadLift x : Action σ α).outcome world = (x.result, world) := rfl

theorem outcome_bind (action : Action σ α) (next : α → Action σ β) :
    (action >>= next).outcome world =
      match action.outcome world with
      | (.ok a, between) => (next a).outcome between
      | (.error fault, between) => (.error fault, between) := by
  change (action.andThen next).outcome world = _
  simp only [outcome, andThen]
  rcases action world with ⟨⟨fault | a, log⟩, between⟩ <;> rfl

/-- Log lines leave no trace in the outcome. -/
@[simp] theorem outcome_info_bind (message : String) (next : Unit → Action σ α) :
    (info message >>= next).outcome world = (next ()).outcome world := by
  rw [outcome_bind]
  rfl

@[simp] theorem outcome_mapError (f : Fault → Fault) (action : Action σ α) :
    (action.mapError f).outcome world =
      ((action.outcome world).1.mapError f, (action.outcome world).2) := rfl

@[simp] theorem outcome_inContext (message : String) (action : Action σ α) :
    (action.inContext message).outcome world =
      ((action.outcome world).1.mapError (·.context message), (action.outcome world).2) := rfl

end Outcome

lemma mapError_id (action : Action σ α) : action.mapError id = action := by
  funext world
  rw [mapError]
  rcases action world with ⟨⟨fault | a, log⟩, after⟩ <;> rfl

/-- After a success the next action goes on with the log. -/
theorem bind_of_ok {action : Action σ α} {world between : σ} {a : α} {log : List LogLine}
    (h : action world = (⟨.ok a, log⟩, between)) (next : α → Action σ β) :
    (action >>= next) world =
      (⟨(next a between).1.result, log ++ (next a between).1.log⟩, (next a between).2) := by
  change action.andThen next world = _
  rw [andThen, h]

theorem bind_of_error {action : Action σ α} {world between : σ} {fault : Fault}
    {log : List LogLine} (h : action world = (⟨.error fault, log⟩, between))
    (next : α → Action σ β) : (action >>= next) world = (⟨.error fault, log⟩, between) := by
  change action.andThen next world = _
  rw [andThen, h]

theorem bind_pure_apply (action : Action σ α) (g : α → β) (world : σ) :
    (action >>= fun a => pure (g a)) world =
      (⟨(action world).1.result.map g, (action world).1.log⟩, (action world).2) := by
  change action.andThen (fun a => ok (g a)) world = _
  rw [andThen]
  rcases action world with ⟨⟨fault | a, log⟩, after⟩
  · rfl
  · simp [ok, Logged.ok, Except.map]

lemma outcome_bind_congr {action action' : Action σ α} {next next' : α → Action σ β}
    (h : action.outcome = action'.outcome) (hnext : ∀ a, (next a).outcome = (next' a).outcome) :
    (action >>= next).outcome = (action' >>= next').outcome := by
  funext world
  simp only [outcome_bind, h, hnext]

/-- The action succeeds with `a` and leaves the world `after`. -/
def Returns (action : Action σ α) (world : σ) (a : α) (after : σ) : Prop :=
  action.outcome world = (.ok a, after)

section Returns

variable {world after : σ} {a : α} {b : β}

@[simp] theorem returns_pure_iff {other : α} :
    (pure a : Action σ α).Returns world other after ↔ other = a ∧ after = world := by
  simp [Returns, eq_comm]

@[simp] theorem not_returns_throw (fault : Fault) :
    ¬ (throw fault : Action σ α).Returns world a after := by
  simp [Returns]

@[simp] theorem returns_ofExcept_iff {x : Except Fault α} :
    (ofExcept x : Action σ α).Returns world a after ↔ x = .ok a ∧ after = world := by
  simp [Returns, eq_comm]

/-- The world afterwards is whatever the action leaves. -/
lemma returns_of_result_eq {action : Action σ α} (h : (action world).1.result = .ok a) :
    action.Returns world a (action world).2 := Prod.ext h rfl

theorem returns_bind_iff {action : Action σ α} {next : α → Action σ β} :
    (action >>= next).Returns world b after ↔
      ∃ a between, action.Returns world a between ∧ (next a).Returns between b after := by
  simp only [Returns, outcome_bind]
  rcases action.outcome world with ⟨fault | a, between⟩
  · simp
  · constructor
    · intro h
      exact ⟨a, between, rfl, h⟩
    · rintro ⟨_, _, heq, h⟩
      cases heq
      exact h

@[simp] theorem returns_inContext_iff {message : String} {action : Action σ α} :
    (action.inContext message).Returns world a after ↔ action.Returns world a after := by
  rw [Returns, outcome_inContext, Returns]
  rcases action.outcome world with ⟨fault | a, between⟩ <;> simp [Except.mapError]

/-- A check in front of an action. -/
lemma returns_unless_iff {condition : Prop} [Decidable condition] {fault : Fault}
    {next : Unit → Action σ α} {action : Action σ α} :
    (if condition then throw fault >>= next else action).Returns world a after ↔
      ¬ condition ∧ action.Returns world a after := by
  by_cases h : condition
  · simp [h, returns_bind_iff]
  · simp [h]

lemma returns_check_iff {condition : Prop} [Decidable condition] {fault : Fault} {b : α} :
    (if condition then throw fault else pure a : Action σ α).Returns world b after ↔
      ¬ condition ∧ b = a ∧ after = world := by
  by_cases h : condition
  · simp [h]
  · simp [h]

@[simp] theorem returns_info_bind_iff {message : String} {next : Unit → Action σ α} :
    (info message >>= next).Returns world a after ↔ (next ()).Returns world a after := by
  rw [Returns, outcome_info_bind, Returns]

lemma returns_iff_of_outcome {action action' : Action σ α} (h : action.outcome = action'.outcome) :
    action.Returns world a after ↔ action'.Returns world a after := by
  rw [Returns, Returns, h]

lemma returns_unique {after' : σ} {a' : α} {action : Action σ α} (h : action.Returns world a after)
    (h' : action.Returns world a' after') : a = a' ∧ after = after' := by
  rw [Returns] at h h'
  rw [h] at h'
  simpa using h'

/-- A loop that returns has run its body for every element, and holds what these runs returned. Each
of them started in a still world if the body keeps the world still. -/
theorem forall₂_of_keeps_of_returns_mapM {still : σ → Prop} {f : α → Action σ β} {as : List α}
    {bs : List β}
    (hkeeps : ∀ a ∈ as, ∀ ⦃world b after⦄, still world → (f a).Returns world b after → still after)
    (hworld : still world) (h : (as.mapM f).Returns world bs after) :
    List.Forall₂ (fun a b => ∃ before between, still before ∧ (f a).Returns before b between)
      as bs := by
  induction as generalizing world bs with
  | nil =>
    obtain ⟨rfl, _⟩ := returns_pure_iff.mp h
    exact .nil
  | cons a as ih =>
    obtain ⟨ha, has⟩ := List.forall_mem_cons.mp hkeeps
    rw [List.mapM_cons] at h
    obtain ⟨b, between, hb, h⟩ := returns_bind_iff.mp h
    obtain ⟨bs, last, hbs, hpure⟩ := returns_bind_iff.mp h
    obtain ⟨rfl, rfl⟩ := returns_pure_iff.mp hpure
    exact .cons ⟨world, between, hworld, hb⟩ (ih has (ha hworld hb) hbs)

theorem forall₂_of_returns_mapM {f : α → Action σ β} {as : List α} {bs : List β}
    (h : (as.mapM f).Returns world bs after) :
    List.Forall₂ (fun a b => ∃ before between, (f a).Returns before b between) as bs := by
  have hruns := forall₂_of_keeps_of_returns_mapM (fun _ _ _ _ _ _ _ => trivial) trivial h
  exact hruns.imp fun a b ⟨before, between, _, hrun⟩ => ⟨before, between, hrun⟩

theorem runs_of_returns_mapM {f : α → Action σ β} {as : List α} {bs : List β}
    (h : (as.mapM f).Returns world bs after) :
    (∀ a ∈ as, ∃ b ∈ bs, ∃ before between, (f a).Returns before b between) ∧
      ∀ b ∈ bs, ∃ a ∈ as, ∃ before between, (f a).Returns before b between := by
  have hruns := forall₂_of_returns_mapM h
  clear h
  induction hruns with
  | nil => simp
  | cons hrun _ ih =>
    constructor
    · rw [List.forall_mem_cons]
      refine ⟨⟨_, List.mem_cons_self, hrun⟩, ?_⟩
      intro a ha
      obtain ⟨b, hb, hrun⟩ := ih.1 a ha
      exact ⟨b, List.mem_cons_of_mem _ hb, hrun⟩
    · rw [List.forall_mem_cons]
      refine ⟨⟨_, List.mem_cons_self, hrun⟩, ?_⟩
      intro b hb
      obtain ⟨a, ha, hrun⟩ := ih.2 b hb
      exact ⟨a, List.mem_cons_of_mem _ ha, hrun⟩

end Returns

/-- Run from related worlds, two actions that both return give related values and leave related
worlds. -/
def Agree (related : σ → σ' → Prop) (same : α → α' → Prop) (action : Action σ α)
    (action' : Action σ' α') : Prop :=
  ∀ ⦃world world' a a' after after'⦄, related world world' → action.Returns world a after →
    action'.Returns world' a' after' → same a a' ∧ related after after'

namespace Agree

variable {related : σ → σ' → Prop} {same : α → α' → Prop} {same' : β → β' → Prop}
  {action : Action σ α} {action' : Action σ' α'}

theorem pure {a : α} {a' : α'} (h : same a a') :
    Agree related same (Pure.pure a) (Pure.pure a') := by
  intro world world' b b' after after' hworlds hb hb'
  obtain ⟨rfl, rfl⟩ := returns_pure_iff.mp hb
  obtain ⟨rfl, rfl⟩ := returns_pure_iff.mp hb'
  exact ⟨h, hworlds⟩

theorem bind (h : Agree related same action action') {next : α → Action σ β}
    {next' : α' → Action σ' β'} (hnext : ∀ a a', same a a' → Agree related same' (next a) (next' a')) :
    Agree related same' (action >>= next) (action' >>= next') := by
  intro world world' b b' after after' hworlds hb hb'
  obtain ⟨a, between, ha, hb⟩ := returns_bind_iff.mp hb
  obtain ⟨a', between', ha', hb'⟩ := returns_bind_iff.mp hb'
  obtain ⟨hsame, hbetween⟩ := h hworlds ha ha'
  exact hnext a a' hsame hbetween hb hb'

theorem inContext (h : Agree related same action action') (message message' : String) :
    Agree related same (action.inContext message) (action'.inContext message') := by
  intro world world' a a' after after' hworlds ha ha'
  exact h hworlds (returns_inContext_iff.mp ha) (returns_inContext_iff.mp ha')

/-- Two loops over one list whose bodies agree at every element. -/
theorem mapM {ι : Type} {f : ι → Action σ α} {f' : ι → Action σ' α'} {is : List ι}
    (h : ∀ i ∈ is, Agree related same (f i) (f' i)) :
    Agree related (List.Forall₂ same) (is.mapM f) (is.mapM f') := by
  induction is with
  | nil => exact pure .nil
  | cons i is ih =>
    obtain ⟨hi, his⟩ := List.forall_mem_cons.mp h
    rw [List.mapM_cons, List.mapM_cons]
    apply hi.bind
    intro a a' ha
    apply (ih his).bind
    intro as as' has
    exact pure (.cons ha has)

end Agree

/-- All failures of the action are of this kind. -/
def FailsOnly (P : Fault → Prop) (action : Action σ α) : Prop :=
  ∀ world fault after, action.outcome world = (.error fault, after) → P fault

namespace FailsOnly

variable {P : Fault → Prop} {action : Action σ α}

lemma pure (a : α) : FailsOnly P (Pure.pure a : Action σ α) := nofun

lemma throw {fault : Fault} (h : P fault) : FailsOnly P (MonadExcept.throw fault : Action σ α) := by
  rintro world _ after ⟨⟩
  exact h

lemma ofExcept {x : Except Fault α} (h : ∀ fault, x = .error fault → P fault) :
    FailsOnly P (Action.ofExcept x : Action σ α) := by
  rintro world fault after ⟨⟩
  exact h fault rfl

lemma bind (h : FailsOnly P action) {next : α → Action σ β} (hnext : ∀ a, FailsOnly P (next a)) :
    FailsOnly P (action >>= next) := by
  intro world fault after hfails
  rw [outcome_bind] at hfails
  rcases haction : action.outcome world with ⟨cause | a, between⟩
  · rw [haction] at hfails
    cases hfails
    exact h world fault after haction
  · rw [haction] at hfails
    exact hnext a between fault after hfails

lemma bind_pure (h : FailsOnly P action) (g : α → β) :
    FailsOnly P (action >>= fun a => Pure.pure (g a)) := h.bind fun a => pure (g a)

end FailsOnly

end RelProto.Action
