import CapyPdf.Document.Theorems.Numbering.Resources
import CapyPdf.Document.Theorems.Numbering.Page
import CapyPdf.Document.Theorems.Numbering.Catalog
import CapyPdf.Execution.Op

namespace CapyPdf

open PdfDocument

variable (env : Env)

theorem Moves.exec (op : Op) : Moves Continues (op.exec env) := by
  cases op
  case addPage => exact .seqRight (.addPage env _ _ _ _ _ _ _ _) (.pure _)
  case addFormXobject => exact .seqRight (.addFormXobject _ _) (.pure _)
  case createSeparation => exact .seqRight (.createSeparation env _ _) (.pure _)
  case addLabColorspace => exact .map _ (Moves.addLabColorspace _).continues
  case loadIccFile => exact .seqRight (.loadIccFile env _) (.pure _)
  case addImage => exact .seqRight (.addImage env _ _) (.pure _)
  case addMaskImage => exact .seqRight (.addMaskImage env _) (.pure _)
  case embedJpg => exact .seqRight (.embedJpg _ _) (.pure _)
  case addGraphicsState => exact .map _ (Moves.addGraphicsState _).continues
  case addFunction => exact .map _ (Moves.addFunction env _).continues
  case addShading2 => exact .map _ (Moves.addShading2 _).continues
  case addShading3 => exact .map _ (Moves.addShading3 _).continues
  case addShading4 => exact .map _ (Moves.addShading4 _).continues
  case addShading6 => exact .map _ (Moves.addShading6 _).continues
  case addPattern => exact .map _ (Moves.addPattern env _).continues
  case addOutline => exact .seqRight (.addOutline _ _ _) (.pure _)
  case createFormCheckbox => exact .seqRight (.createFormCheckbox _ _ _) (.pure _)
  case embedFile => exact .seqRight (.embedFile env _) (.pure _)
  case createAnnotation => exact Moves.createAnnotation _ |>.seqRight (.pure _)
  case addStructureItem => exact .seqRight (.addStructureItem _ _) (.pure _)
  case addOptionalContentGroup => exact .seqRight (.addOptionalContentGroup env _) (.pure _)
  case addTransparencyGroup => exact .seqRight (.addTransparencyGroup env _ _) (.pure _)
  case getBuiltinFontId => exact .seqRight (.getBuiltinFontId _) (.pure _)
  case loadFont => exact .seqRight (.loadFont env _) (.pure _)
  case createCatalog => exact .seqRight (.createCatalog env) (.pure _)
  case getSubsetGlyph => exact .seqRight (.getSubsetGlyph env _ _) (.pure _)
  case addRolemapEntry => exact .seqRight (.addRolemapEntry _ _) (.pure _)

section HandsOut

-- The operations whose ids are object numbers hand out the number of the dictionary they add.

def Op.handsOut : Op → Role
  | .addLabColorspace _ => .head "[ /Lab\n"
  | .addGraphicsState _ => .head "<<\n  /Type /ExtGState\n"
  | .addFunction _ => .head "<<\n  /FunctionType 2\n"
  | .addShading2 _ => .head "<<\n  /ShadingType 2\n"
  | .addShading3 _ => .head "<<\n  /ShadingType 3\n"
  | .addShading4 _ => .head "<<\n  /ShadingType 4\n"
  | .addShading6 _ => .head "<<\n  /ShadingType 6\n"
  | .addPattern _ => .head "<<\n  /Type /Pattern\n"
  | _ => .dict

variable {d d' : PdfDocument} {n : Nat}

theorem meshShadingDict_begins (t : Nat) (cs : Colorspace) (len : Nat) (minx maxx miny maxy : Float) :
    Begins (meshShadingDict t cs len minx maxx miny maxy) ("<<\n  /ShadingType " ++ toString t ++ "\n") := by
  unfold meshShadingDict
  repeat' first | with_reducible exact Begins.append_left (by decide) _ | apply Begins.append

theorem addLabColorspace_ok {lab : LabColorSpace} (h : (addLabColorspace lab).run d = .ok n d') :
    n = d.documentObjects.length ∧ d'.Designates n (.head "[ /Lab\n") := by
  simp only [PdfDocument.addLabColorspace, addObject, run_bind, run_discard, run_modifyGet,
    run_get_bind, run_pure, EStateM.Result.ok.injEq] at h
  obtain ⟨rfl, rfl⟩ := h
  simp only [pushObject_documentObjects, List.length_append, List.length_singleton,
    Nat.add_sub_cancel, true_and]
  refine designates_pushObject_length ?_
  (repeat' apply Begins.append); decide

theorem addGraphicsState_ok {state : GraphicsState}
    (h : (addGraphicsState state).run d = .ok n d') :
    n = d.documentObjects.length ∧ d'.Designates n (.head "<<\n  /Type /ExtGState\n") := by
  simp only [PdfDocument.addGraphicsState, addObject, run_get_bind, run_bind, run_discard,
    run_modifyGet, run_pure, EStateM.Result.ok.injEq] at h
  obtain ⟨rfl, rfl⟩ := h
  refine ⟨rfl, designates_pushObject_length ?_⟩
  unfold graphicsStateDict
  (repeat' apply Begins.append); decide

theorem addFunction_ok {func : FunctionType2} (h : (addFunction env func).run d = .ok n d') :
    n = d.documentObjects.length ∧ d'.Designates n (.head "<<\n  /FunctionType 2\n") := by
  simp only [PdfDocument.addFunction, addObject, run_reterrIf_bind, run_ofExcept_bind,
    run_modifyGet] at h
  repeat' split at h
  all_goals cases h
  refine ⟨rfl, designates_pushObject_length ?_⟩
  (repeat' apply Begins.append); decide

theorem addShading2_ok {shade : ShadingType2} (h : (addShading2 shade).run d = .ok n d') :
    n = d.documentObjects.length ∧ d'.Designates n (.head "<<\n  /ShadingType 2\n") := by
  simp only [PdfDocument.addShading2, addObject, run_modifyGet, EStateM.Result.ok.injEq] at h
  obtain ⟨rfl, rfl⟩ := h
  refine ⟨rfl, designates_pushObject_length ?_⟩
  (repeat' apply Begins.append); decide

theorem addShading3_ok {shade : ShadingType3} (h : (addShading3 shade).run d = .ok n d') :
    n = d.documentObjects.length ∧ d'.Designates n (.head "<<\n  /ShadingType 3\n") := by
  simp only [PdfDocument.addShading3, addObject, run_modifyGet, EStateM.Result.ok.injEq] at h
  obtain ⟨rfl, rfl⟩ := h
  refine ⟨rfl, designates_pushObject_length ?_⟩
  (repeat' apply Begins.append); decide

theorem addShading4_ok {shade : ShadingType4} (h : (addShading4 shade).run d = .ok n d') :
    n = d.documentObjects.length ∧ d'.Designates n (.head "<<\n  /ShadingType 4\n") := by
  simp only [PdfDocument.addShading4, addObject, run_ofExcept_bind, run_modifyGet] at h
  split at h
  all_goals cases h
  exact ⟨rfl, designates_pushObject_length (meshShadingDict_begins 4 ..)⟩

theorem addShading6_ok {shade : ShadingType6} (h : (addShading6 shade).run d = .ok n d') :
    n = d.documentObjects.length ∧ d'.Designates n (.head "<<\n  /ShadingType 6\n") := by
  simp only [PdfDocument.addShading6, addObject, run_ofExcept_bind, run_modifyGet] at h
  split at h
  all_goals cases h
  exact ⟨rfl, designates_pushObject_length (meshShadingDict_begins 6 ..)⟩

theorem addPattern_ok {ctx : DrawContext} (h : (addPattern env ctx).run d = .ok n d') :
    n = d.documentObjects.length ∧ d'.Designates n (.head "<<\n  /Type /Pattern\n") := by
  simp only [PdfDocument.addPattern, addObject, run_get_bind, run_reterrIf_bind,
    run_modifyGet] at h
  repeat' split at h
  all_goals cases h
  refine ⟨rfl, designates_pushObject_length ?_⟩
  (repeat' apply Begins.append); decide

theorem Op.exec_ok_some {op : Op} (h : (op.exec env).run d = .ok (some n) d') :
    n = d.documentObjects.length ∧ d'.Designates n op.handsOut := by
  cases op <;> simp only [Op.exec, run_seqRight, run_map, run_pure] at h <;> split at h <;>
    cases h
  case addLabColorspace.h_1 h => exact addLabColorspace_ok h
  case addGraphicsState.h_1 h => exact addGraphicsState_ok h
  case addFunction.h_1 h => exact addFunction_ok env h
  case addShading2.h_1 h => exact addShading2_ok h
  case addShading3.h_1 h => exact addShading3_ok h
  case addShading4.h_1 h => exact addShading4_ok h
  case addShading6.h_1 h => exact addShading6_ok h
  case addPattern.h_1 h => exact addPattern_ok env h

end HandsOut

theorem Reachable.numbered {d : PdfDocument} (h : Reachable env d) : d.Numbered := by
  induction h with
  | init h => exact Numbered.init env h
  | step op _ ih => exact (Moves.exec env op _ ih).numbered

theorem reachable_object_numbering {d : PdfDocument} (h : Reachable env d) :
    d.documentObjects[0]? = some .dummyIndexZero ∧
    (∀ n, d.documentObjects[n]? = some .dummyIndexZero → n = 0) ∧
    (∀ p n r, d.Records p n r → 0 < n ∧ n < d.documentObjects.length ∧ d.Designates n r) ∧
    ∀ op : Op, d.documentObjects <+: ((op.exec env).run d).state.documentObjects ∧
      ∀ n d', (op.exec env).run d = .ok (some n) d' →
        n = d.documentObjects.length ∧ d'.Designates n op.handsOut := by
  have hn := h.numbered env
  refine ⟨hn.sentinel, hn.sentinel_unique, fun p n r hr => ?_, fun op =>
    ⟨(Moves.exec env op d hn).grows, fun _ _ => Op.exec_ok_some env⟩⟩
  have hd := hn.records hr
  exact ⟨hn.pos hd, hd.lt, hd⟩

theorem reachable_object_numbering_separation :
    let d := ((Op.createSeparation "Spot" ⟨0, 0, 0, 1⟩).exec Env.minimal |>.run
      ((init Env.minimal).run (PdfDocument.new 0 {} {})).state).state
    let d' := ((Op.addGraphicsState {}).exec Env.minimal |>.run d).state
    Reachable Env.minimal d ∧ d.separationObjects = [5] ∧
      (0 < 5 ∧ 5 < d.documentObjects.length ∧ d.Designates 5 (.head "[\n  /Separation\n")) ∧
      (6 = d.documentObjects.length ∧ d'.Designates 6 (.head "<<\n  /Type /ExtGState\n")) :=
  have h : Reachable Env.minimal _ :=
    .step (.createSeparation "Spot" ⟨0, 0, 0, 1⟩) (@Reachable.init Env.minimal 0 {} {} _ rfl)
  have hs : _ = [5] := by rfl
  have hn := reachable_object_numbering Env.minimal h
  ⟨h, hs, hn.2.2.1 .separation 5 _ ⟨hs ▸ List.mem_singleton_self 5, rfl⟩,
    (hn.2.2.2 (.addGraphicsState {})).2 6 _ rfl⟩

end CapyPdf
