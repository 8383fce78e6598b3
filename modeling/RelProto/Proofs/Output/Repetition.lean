import RelProto.Proofs.Output.Generation

/-! Performing steps once more on the tree that they left. Every step succeeds again, because what it
needs is still there, and the last entry that was put at a place is put there again. -/
namespace RelProto

namespace OutputStep

variable {settings : ProtoSettings} {embed : Bool} {step : OutputStep} {steps : List OutputStep}
  {tree after later : FileTree}

/-- A step succeeds again, whatever has come to the tree since. -/
lemma succeeds_again (h : step.Succeeds settings embed tree after)
    (hkeeps : Contents.Keeps after.entry? later.entry?)
    (hhere : later.workingDirectory = tree.workingDirectory) :
    ∃ last, step.Succeeds settings embed later last := by
  cases h with
  | @directory path _ _ hmade =>
    have hleaves := tree.leaves_createDirectories path
    rw [hmade] at hleaves
    have hpasses := hleaves.passes.mono hkeeps
    rw [FileTree.startOf, ← hhere] at hpasses
    have htakes := FileTree.takes_of_createDirectories hmade
    exact ⟨later, .directory (FileTree.createDirectories_eq_self htakes hpasses)⟩
  | file hrender hwrite =>
    obtain ⟨⟨htakes, _⟩, _⟩ := FileTree.writeFile_eq_ok_iff.mp hwrite
    have hadmits := FileTree.admits_of_writeFile hwrite hkeeps hhere
    exact ⟨_, .file hrender (FileTree.writeFile_eq_ok_iff.mpr ⟨⟨htakes, hadmits⟩, rfl⟩)⟩

/-- Steps that have been performed can be performed again. -/
theorem performed_again (h : Performed settings embed steps tree after)
    (hkeeps : Contents.Keeps after.entry? later.entry?)
    (hhere : later.workingDirectory = tree.workingDirectory) :
    ∃ last, Performed settings embed steps later last := by
  induction h generalizing later with
  | done => exact ⟨later, .done⟩
  | next hstep hrest ih =>
    -- What the step has left is kept by the later steps, and after them.
    have hbetween := (keeps_of_performed hrest).trans hkeeps
    obtain ⟨between, hagain⟩ := succeeds_again hstep hbetween hhere
    have hsame := (workingDirectory_of_succeeds hagain).trans hhere
    obtain ⟨last, hlast⟩ := ih (hkeeps.trans (keeps_of_succeeds hagain))
      (hsame.trans (workingDirectory_of_succeeds hstep).symm)
    exact ⟨last, .next hagain hlast⟩

/-- What may happen at a place, whatever was there: one entry is always put there, or a directory is
if nothing was, or nothing ever is. -/
inductive Puts (place : Place) (change : Contents → Contents) : Prop
  | always (entry : FileEntry) (h : ∀ contents, change contents place = some entry)
  | missing (h : ∀ contents, change contents place = (contents place <|> some .directory))
  | never (h : ∀ contents, change contents place = contents place)

namespace Puts

variable {place : Place} {change next : Contents → Contents}

lemma comp (h : Puts place change) (hnext : Puts place next) : Puts place (next ∘ change) := by
  cases hnext with
  | always entry hnext => exact .always entry fun contents => hnext _
  | missing hnext =>
    cases h with
    | always entry h =>
      refine .always entry fun contents => ?_
      rw [Function.comp_apply, hnext, h]
      rfl
    | missing h =>
      refine .missing fun contents => ?_
      rw [Function.comp_apply, hnext, h]
      cases contents place <;> rfl
    | never h =>
      refine .missing fun contents => ?_
      rw [Function.comp_apply, hnext, h]
  | never hnext =>
    cases h with
    | always entry h => exact .always entry fun contents => (hnext _).trans (h _)
    | missing h => exact .missing fun contents => (hnext _).trans (h _)
    | never h => exact .never fun contents => (hnext _).trans (h _)

/-- What happens at a place happens once. -/
lemma idempotent (h : Puts place change) (contents : Contents) :
    change (change contents) place = change contents place := by
  cases h with
  | always entry h => rw [h, h]
  | missing h =>
    rw [h, h]
    cases contents place <;> rfl
  | never h => exact h _

end Puts

lemma puts_effect (settings : ProtoSettings) (embed : Bool) (here : Place) (step : OutputStep)
    (place : Place) : Puts place (step.effect settings embed here ·) := by
  cases step with
  | directory path =>
    by_cases hplace : place ∈ Path.way (Path.origin here path) (Path.names path)
    · exact .missing fun contents => if_pos hplace
    · exact .never fun contents => Contents.withDirectories_of_notMem hplace
  | file path table =>
    rcases hrender : (table.render settings embed).result with fault | text
    · refine .never fun contents => ?_
      simp only [effect, hrender]
    · simp only [effect_file hrender]
      by_cases hplace : place = Path.place here path
      · subst hplace
        exact .always _ fun contents => Function.update_self _ _ _
      · exact .never fun contents => Function.update_of_ne hplace _ _

lemma puts_effects (settings : ProtoSettings) (embed : Bool) (here : Place)
    (steps : List OutputStep) (place : Place) :
    Puts place (effects settings embed here · steps) := by
  induction steps with
  | nil => exact .never fun contents => rfl
  | cons step steps ih => exact (puts_effect settings embed here step place).comp ih

/-- The effects of steps on what they have left are none. -/
theorem effects_effects (settings : ProtoSettings) (embed : Bool) (here : Place)
    (contents : Contents) (steps : List OutputStep) :
    effects settings embed here (effects settings embed here contents steps) steps =
      effects settings embed here contents steps := by
  funext place
  exact (puts_effects settings embed here steps place).idempotent contents

end OutputStep

/-- Generating once more on the tree that it left writes the same files to the same paths, with the
same log lines, and changes nothing. -/
theorem Database.generate_again (database : Database) (settings : ProtoSettings) (embed : Bool)
    (root : String) (tree after : FileTree) (paths : List String) (log : List LogLine)
    (h : database.generate settings embed root tree = (⟨.ok paths, log⟩, after)) :
    ∃ again, database.generate settings embed root after = (⟨.ok paths, log⟩, again) ∧
      again.entry? = after.entry? := by
  have hreturns : (database.generate settings embed root).Returns tree paths after := by
    rw [Action.Returns, Action.outcome, h]
  obtain ⟨hdone, rfl⟩ := OutputStep.performAll_returns_iff.mp hreturns
  have hhere := OutputStep.workingDirectory_of_performed hdone
  obtain ⟨again, hagain⟩ := OutputStep.performed_again hdone (Contents.Keeps.refl _) hhere
  refine ⟨again, ?_, ?_⟩
  · have hrun := congrArg Prod.fst (h.symm.trans (OutputStep.performAll_of_performed hdone))
    have hrepeat := OutputStep.performAll_of_performed hagain
    exact hrepeat.trans (congrArg (·, again) hrun.symm)
  · rw [ OutputStep.entry?_of_performed hagain, OutputStep.entry?_of_performed hdone, hhere,
      OutputStep.effects_effects]

/-- Two tables that lead to one file lead to it again. -/
theorem Database.generate_again_notes : ∃ after again log,
    notes.generate {} true "out" .empty =
      (⟨.ok ["out/proto/note.proto", "out/proto/./note.proto"], log⟩, after) ∧
    notes.generate {} true "out" after =
      (⟨.ok ["out/proto/note.proto", "out/proto/./note.proto"], log⟩, again) ∧
    again.entry? = after.entry? := by
  obtain ⟨hdone, _⟩ := OutputStep.performAll_returns_iff.mp returns_notes
  have hrun : notes.generate {} true "out" .empty = _ := OutputStep.performAll_of_performed hdone
  obtain ⟨again, hagain, hentry⟩ := generate_again notes {} true "out" .empty _ _ _ hrun
  exact ⟨_, again, _, hrun, hagain, hentry⟩

end RelProto
