import CapyPdf.Document.Theorems.Construct
import CapyPdf.Execution.Theorems.Along

namespace CapyPdf

open PdfDocument

variable {env : Env} {d : PdfDocument}

namespace PdfDocument.OutputIntentStored

theorem pushObject (h : d.OutputIntentStored) (o : ObjectType) : (d.pushObject o).OutputIntentStored :=
  h.mono (List.prefix_append _ _) (List.prefix_refl _) rfl rfl rfl rfl

theorem pushIccProfile (h : d.OutputIntentStored) (info : IccInfo) :
    (d.pushIccProfile info).OutputIntentStored :=
  h.mono (List.prefix_refl _) (List.prefix_append _ _) rfl rfl rfl rfl

end PdfDocument.OutputIntentStored

theorem Registry.along_outputIntentStored (r : Registry) (hr : r ≠ .roots) :
    r.Along (Preserves OutputIntentStored) := by
  cases r
  case roots => exact absurd rfl hr
  case entries => exact fun _ o _ h => h.pushObject o
  case iccProfiles => exact fun _ info h => h.pushIccProfile info
  all_goals simp only [Registry.Along, Preserves]; (repeat' constructor) <;> intros <;> rename_i h <;>
    exact h.mono (List.prefix_refl _) (List.prefix_refl _) rfl rfl rfl rfl

variable (env)

theorem Reachable.outputIntentStored (h : Reachable env d) : d.OutputIntentStored := by
  induction h with
  | init hi => exact .init env hi
  | step op _ ih =>
    refine op.exec_along env (fun d o _ h => h.pushObject o) (fun r hr => r.along_outputIntentStored ?_)
      _ ih
    rintro rfl
    cases op <;> simp [Op.writes] at hr

theorem reachable_output_intent (h : Reachable env d) :
    (d.outputProfile = if (d.cm.profileFor d.opts.outputColorspace).isEmpty then none else some 0) ∧
    (¬(d.cm.profileFor d.opts.outputColorspace).isEmpty → ∃ info buf,
      d.iccProfiles[0]? = some info ∧ info.numChannels = numChannelsFor d.opts.outputColorspace ∧
      d.documentObjects[info.streamNum]? =
        some (.deflatePDFObject buf (d.cm.profileFor d.opts.outputColorspace))) ∧
    d.outputIntentObject.isSome = d.opts.subtype.isSome ∧
    ∀ n, d.outputIntentObject = some n → ∃ info pre, d.iccProfiles[0]? = some info ∧
      d.documentObjects[n]? = some (.fullPDFObject
        (pre ++ "\n  /DestOutputProfile " ++ toString info.streamNum ++ " 0 R\n>>\n") []) := by
  obtain ⟨hp, hi, hd⟩ := h.outputIntentStored env
  unfold ProfileStored at hp
  refine ⟨?_, fun hne => ?_, hi, hd⟩
  · split at hp
    · rwa [if_pos ‹_›]
    · rw [if_neg ‹_›, hp.1]
  · exact (if_neg hne ▸ hp).2

theorem reachable_output_intent_pdfx :
    let d := ((init Env.minimal).run (PdfDocument.new 0
      { outputColorspace := .deviceCMYK, subtype := some .pdfx, intentConditionIdentifier := "FOGRA39" }
      { cmyk := [1] })).state
    Reachable Env.minimal d ∧
    (d.outputProfile = if (d.cm.profileFor d.opts.outputColorspace).isEmpty then none else some 0) ∧
    (¬(d.cm.profileFor d.opts.outputColorspace).isEmpty → ∃ info buf,
      d.iccProfiles[0]? = some info ∧ info.numChannels = numChannelsFor d.opts.outputColorspace ∧
      d.documentObjects[info.streamNum]? =
        some (.deflatePDFObject buf (d.cm.profileFor d.opts.outputColorspace))) ∧
    d.outputIntentObject.isSome = d.opts.subtype.isSome ∧
    ∀ n, d.outputIntentObject = some n → ∃ info pre, d.iccProfiles[0]? = some info ∧
      d.documentObjects[n]? = some (.fullPDFObject
        (pre ++ "\n  /DestOutputProfile " ++ toString info.streamNum ++ " 0 R\n>>\n") []) :=
  have h : Reachable Env.minimal _ := @Reachable.init Env.minimal 0
    { outputColorspace := .deviceCMYK, subtype := some .pdfx, intentConditionIdentifier := "FOGRA39" }
    { cmyk := [1] } _ rfl
  ⟨h, reachable_output_intent _ h⟩

end CapyPdf
