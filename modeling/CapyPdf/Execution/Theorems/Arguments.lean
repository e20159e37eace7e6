import CapyPdf.Execution.Op
import CapyPdf.DrawContext.Nesting

namespace CapyPdf

open PdfDocument

variable (env : Env)

section Shading

theorem addShading2_run (d : PdfDocument) (shade : ShadingType2) :
    ∃ pre post, (addShading2 shade).run d = .ok d.documentObjects.length
      (d.pushObject
        (.fullPDFObject (pre ++ "/Function " ++ toString shade.function ++ " 0 R" ++ post) [])) := by
  refine ⟨"<<\n  /ShadingType 2\n  /ColorSpace " ++ colorspaceNames shade.colorspace ++
    "\n  /Coords [ " ++ shade.x0.toString ++ " " ++ shade.y0.toString ++ " " ++ shade.x1.toString ++ " " ++
    shade.y1.toString ++ " ]\n  ",
    "\n  /Extend [ " ++ boolName shade.extend0 ++ " " ++ boolName shade.extend1 ++ " ]\n>>\n", ?_⟩
  simp only [addShading2, addObject, run_modifyGet]
  rw [show (" ]\n  /Function " : String) = " ]\n  " ++ "/Function " from rfl,
    show (" 0 R\n  /Extend [ " : String) = " 0 R" ++ "\n  /Extend [ " from rfl]
  simp only [String.append_assoc]

theorem addShading3_run (d : PdfDocument) (shade : ShadingType3) :
    ∃ pre post, (addShading3 shade).run d = .ok d.documentObjects.length
      (d.pushObject
        (.fullPDFObject (pre ++ "/Function " ++ toString shade.function ++ " 0 R" ++ post) [])) := by
  refine ⟨"<<\n  /ShadingType 3\n  /ColorSpace " ++ colorspaceNames shade.colorspace ++
    "\n  /Coords [ " ++ shade.x0.toString ++ " " ++ shade.y0.toString ++ " " ++ shade.r0.toString ++ " " ++
    shade.x1.toString ++ " " ++ shade.y1.toString ++ " " ++ shade.r1.toString ++ "]\n  ",
    "\n  /Extend [ " ++ boolName shade.extend0 ++ " " ++ boolName shade.extend1 ++ " ]\n>>\n", ?_⟩
  simp only [addShading3, addObject, run_modifyGet]
  rw [show ("]\n  /Function " : String) = "]\n  " ++ "/Function " from rfl,
    show (" 0 R\n  /Extend [ " : String) = " 0 R" ++ "\n  /Extend [ " from rfl]
  simp only [String.append_assoc]

theorem addShading2_dangling_function (d : PdfDocument) (shade : ShadingType2)
    (hout : (d.documentObjects.length : Int) < shade.function) :
    ∃ pre post d', (addShading2 shade).run d = .ok d.documentObjects.length d' ∧
      d'.documentObjects = d.documentObjects ++
        [.fullPDFObject (pre ++ "/Function " ++ toString shade.function ++ " 0 R" ++ post) []] ∧
      (d'.documentObjects.length : Int) ≤ shade.function := by
  obtain ⟨pre, post, h⟩ := addShading2_run d shade
  refine ⟨pre, post, _, h, rfl, ?_⟩
  simp only [pushObject_documentObjects, List.length_append, List.length_singleton]
  omega

theorem addShading2_dangling_function_init :
    let d := ((init Env.minimal).run (PdfDocument.new 0 {} {})).state
    let shade : ShadingType2 := ⟨.deviceRGB, 0, 0, 1, 1, 1000, false, false⟩
    Reachable Env.minimal d ∧ (d.documentObjects.length : Int) < shade.function ∧
      ∃ pre post d', (addShading2 shade).run d = .ok d.documentObjects.length d' ∧
        d'.documentObjects = d.documentObjects ++
          [.fullPDFObject (pre ++ "/Function " ++ toString shade.function ++ " 0 R" ++ post) []] ∧
        (d'.documentObjects.length : Int) ≤ shade.function :=
  ⟨@Reachable.init Env.minimal 0 {} {} _ rfl, by decide,
    addShading2_dangling_function _ _ (by decide)⟩

end Shading

section DrawContexts

theorem addTransparencyGroup_ignores_doc {d : PdfDocument} {ctx : DrawContext}
    {ex : Option TransparencyGroupExtra} {dict commandStream : String}
    (htype : ctx.contextType = .transparencyGroup) (hmarked : ctx.markedDepth = 0)
    (hser : env.serialize ctx ex = .xobject dict commandStream) :
    (addTransparencyGroup env ctx ex).run d = .ok d.transparencyGroups.length
      ((d.pushObject (.fullPDFObject dict (textBytes commandStream))).pushTransparencyGroup
        d.documentObjects.length) := by
  simp [addTransparencyGroup, addObject, htype, hmarked, hser]

theorem addPattern_ignores_nesting {d : PdfDocument} {ctx : DrawContext} (hdoc : ctx.doc = d.addr)
    (htype : ctx.contextType = .colorTiling) (hmarked : ctx.markedDepth = 0) :
    (∃ dict, (addPattern env ctx).run d = .ok d.documentObjects.length
      (d.pushObject (.fullPDFObject dict (textBytes ctx.commands)))) ∧
    ∀ (tg : DrawContext) (ex : Option TransparencyGroupExtra) (dict commandStream : String),
      tg.contextType = .transparencyGroup → tg.markedDepth = 0 →
      env.serialize tg ex = .xobject dict commandStream →
      (addTransparencyGroup env tg ex).run d = .ok d.transparencyGroups.length
        ((d.pushObject (.fullPDFObject dict (textBytes commandStream))).pushTransparencyGroup
          d.documentObjects.length) := by
  refine ⟨?_, fun _ _ _ _ => addTransparencyGroup_ignores_doc env⟩
  simp only [addPattern, addObject, run_get_bind, run_reterrIf_bind, hdoc, htype, hmarked, ne_eq,
    not_true_eq_false, if_false, run_modifyGet]
  exact ⟨_, rfl⟩

theorem addPattern_ignores_nesting_open_q :
    let d := ((init Env.minimal).run (PdfDocument.new 0 {} {})).state
    let ctx :=
      ((DrawContext.indent .saveState).run (DrawContext.new 0 .colorTiling ⟨0, 0, 1, 1⟩)).state
    let tg := DrawContext.new 1 .transparencyGroup ⟨0, 0, 1, 1⟩
    Reachable Env.minimal d ∧ DrawContext.Reaches ctx [.push .saveState] ∧
      ctx.hasUnclosedState = true ∧ ctx.doc = d.addr ∧ tg.doc ≠ d.addr ∧
      ((∃ dict, (addPattern Env.minimal ctx).run d = .ok d.documentObjects.length
        (d.pushObject (.fullPDFObject dict (textBytes ctx.commands)))) ∧
      ∀ (tg : DrawContext) (ex : Option TransparencyGroupExtra) (dict commandStream : String),
        tg.contextType = .transparencyGroup → tg.markedDepth = 0 →
        Env.minimal.serialize tg ex = .xobject dict commandStream →
        (addTransparencyGroup Env.minimal tg ex).run d = .ok d.transparencyGroups.length
          ((d.pushObject (.fullPDFObject dict (textBytes commandStream))).pushTransparencyGroup
            d.documentObjects.length)) ∧
      (addTransparencyGroup Env.minimal tg none).run d = .ok d.transparencyGroups.length
        ((d.pushObject (.fullPDFObject "<< >>\n" (textBytes ""))).pushTransparencyGroup
          d.documentObjects.length) :=
  have h := @addPattern_ignores_nesting Env.minimal ((init Env.minimal).run (PdfDocument.new 0 {} {})).state
    ((DrawContext.indent .saveState).run (DrawContext.new 0 .colorTiling ⟨0, 0, 1, 1⟩)).state rfl rfl rfl
  ⟨@Reachable.init Env.minimal 0 {} {} _ rfl,
    (DrawContext.Reaches.new 0 .colorTiling ⟨0, 0, 1, 1⟩).ok (s := .push .saveState) rfl, rfl, rfl,
    by decide, h, h.2 _ none _ _ rfl rfl rfl⟩

end DrawContexts

end CapyPdf
