import CapyPdf.Document.Theorems.Checked
import CapyPdf.Execution.Op

namespace CapyPdf

open PdfDocument

variable (env : Env)

theorem Checked.exec (op : Op) (hop : ∀ image isMask, op ≠ .addImage image isMask) :
    Checked (op.exec env) := by
  cases op
  case addImage image isMask => exact absurd rfl (hop image isMask)
  case addPage => exact (Checked.addPage env _ _ _ _ _ _ _ _).seqRight_pure _
  case addFormXobject => exact (Checked.addFormXobject _ _).seqRight_pure _
  case createSeparation => exact (Checked.createSeparation env _ _).seqRight_pure _
  case addLabColorspace => exact .map _ (.addLabColorspace _)
  case loadIccFile => exact (Checked.loadIccFile env _).seqRight_pure _
  case addMaskImage => exact (Checked.addMaskImage env _).seqRight_pure _
  case embedJpg => exact (Checked.embedJpg _ _).seqRight_pure _
  case addGraphicsState => exact .map _ (.addGraphicsState _)
  case addFunction => exact .map _ (.addFunction env _)
  case addShading2 => exact .map _ (.addShading2 _)
  case addShading3 => exact .map _ (.addShading3 _)
  case addShading4 => exact .map _ (.addShading4 _)
  case addShading6 => exact .map _ (.addShading6 _)
  case addPattern => exact .map _ (.addPattern env _)
  case addOutline => exact (Checked.addOutline _ _ _).seqRight_pure _
  case createFormCheckbox => exact (Checked.createFormCheckbox _ _ _).seqRight_pure _
  case embedFile => exact (Checked.embedFile env _).seqRight_pure _
  case createAnnotation => exact (Checked.createAnnotation _).seqRight_pure _
  case addStructureItem => exact (Checked.addStructureItem _ _).seqRight_pure _
  case addOptionalContentGroup => exact (Checked.addOptionalContentGroup env _).seqRight_pure _
  case addTransparencyGroup => exact (Checked.addTransparencyGroup env _ _).seqRight_pure _
  case getBuiltinFontId => exact (Checked.getBuiltinFontId _).seqRight_pure _
  case loadFont => exact (Checked.loadFont env _).seqRight_pure _
  case createCatalog => exact (Checked.createCatalog env).seqRight_pure _
  case getSubsetGlyph => exact (Checked.getSubsetGlyph env _ _).seqRight_pure _
  case addRolemapEntry => exact (Checked.addRolemapEntry _ _).seqRight_pure _

theorem exec_error_unchanged {op : Op} (hop : ∀ image isMask, op ≠ .addImage image isMask)
    {d d' : PdfDocument} {c : ErrorCode} (h : (op.exec env).run d = .error (.error c) d') :
    d' = d :=
  Checked.exec env op hop _ _ _ h

theorem exec_error_unchanged_rolemap :
    let d := ((init Env.minimal).run (PdfDocument.new 0 {} {})).state
    ∃ c d', ((Op.addRolemapEntry "" 0).exec Env.minimal).run d = .error (.error c) d' ∧ d' = d :=
  have hr : ((Op.addRolemapEntry "" 0).exec Env.minimal).run
      ((init Env.minimal).run (PdfDocument.new 0 {} {})).state =
        .error (.error .slashStart) ((init Env.minimal).run (PdfDocument.new 0 {} {})).state := rfl
  ⟨_, _, hr, exec_error_unchanged _ (fun _ _ h => by cases h) hr⟩

end CapyPdf
