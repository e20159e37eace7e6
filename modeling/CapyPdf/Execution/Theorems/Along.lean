import CapyPdf.Document.Theorems.Along
import CapyPdf.Execution.Op

namespace CapyPdf

namespace Op

def writes : Op → List Registry
  | .addPage .. => [.pages, .entries]
  | .addFormXobject .. => [.formXobjects]
  | .createSeparation .. => [.separations]
  | .addLabColorspace _ => []
  | .loadIccFile _ => [.iccProfiles]
  | .addImage .. => [.iccProfiles, .images]
  | .addMaskImage _ => [.images]
  | .embedJpg .. => [.images]
  | .addGraphicsState _ => []
  | .addFunction _ => []
  | .addShading2 _ => []
  | .addShading3 _ => []
  | .addShading4 _ => []
  | .addShading6 _ => []
  | .addPattern _ => []
  | .addOutline .. => [.outlines]
  | .createFormCheckbox .. => [.formWidgets, .entries]
  | .embedFile _ => [.embeddedFiles]
  | createAnnotation _ => [.annotations, .entries]
  | .addStructureItem .. => [.structureItems, .entries]
  | .addOptionalContentGroup _ => [.ocgItems]
  | .addTransparencyGroup .. => [.transparencyGroups]
  | .getBuiltinFontId _ => [.fontObjects, .builtinFonts]
  | .loadFont _ => [.fonts, .fontObjects, .entries]
  | .createCatalog => [.structRoots]
  | .getSubsetGlyph .. => [.subsets]
  | .addRolemapEntry .. => [.rolemap]

variable (env : Env) {R : PdfDocument → PdfDocument → Prop} [IsPreorder PdfDocument R]
  (hobj : ∀ d o, o.isEntry = false → R d (d.pushObject o))

include hobj

theorem exec_along (op : Op) (h : ∀ r ∈ op.writes, r.Along R) : Moves R (op.exec env) := by
  have h₁ {r rs} (hr : op.writes = r :: rs) : r.Along R := h r (hr ▸ .head _)
  have h₂ {r r' rs} (hr : op.writes = r :: r' :: rs) : r'.Along R := h r' (hr ▸ .tail _ (.head _))
  have h₃ {r r' r'' rs} (hr : op.writes = r :: r' :: r'' :: rs) : r''.Along R :=
    h r'' (hr ▸ .tail _ (.tail _ (.head _)))
  cases op
  case addPage => exact .seqRight (.addPage_along env hobj (h₂ rfl) (h₁ rfl) _ _ _ _ _ _ _ _) (.pure _)
  case addFormXobject => exact .seqRight (.addFormXobject_along hobj (h₁ rfl) _ _) (.pure _)
  case createSeparation => exact .seqRight (.createSeparation_along env hobj (h₁ rfl) _ _) (.pure _)
  case addLabColorspace => exact .map _ ((Moves.addLabColorspace _).along hobj)
  case loadIccFile => exact .seqRight (.loadIccFile_along env hobj (h₁ rfl) _) (.pure _)
  case addImage => exact .seqRight (.addImage_along env hobj (h₁ rfl) (h₂ rfl) _ _) (.pure _)
  case addMaskImage => exact .seqRight (.addMaskImage_along env hobj (h₁ rfl) _) (.pure _)
  case embedJpg => exact .seqRight (.embedJpg_along hobj (h₁ rfl) _ _) (.pure _)
  case addGraphicsState => exact .map _ ((Moves.addGraphicsState _).along hobj)
  case addFunction => exact .map _ ((Moves.addFunction env _).along hobj)
  case addShading2 => exact .map _ ((Moves.addShading2 _).along hobj)
  case addShading3 => exact .map _ ((Moves.addShading3 _).along hobj)
  case addShading4 => exact .map _ ((Moves.addShading4 _).along hobj)
  case addShading6 => exact .map _ ((Moves.addShading6 _).along hobj)
  case addPattern => exact .map _ ((Moves.addPattern env _).along hobj)
  case addOutline => exact .seqRight (.addOutline_along (h₁ rfl) _ _ _) (.pure _)
  case createFormCheckbox => exact .seqRight (.createFormCheckbox_along (h₂ rfl) (h₁ rfl) _ _ _) (.pure _)
  case embedFile => exact .seqRight (.embedFile_along env hobj (h₁ rfl) _) (.pure _)
  case createAnnotation => exact .seqRight (.createAnnotation_along (h₂ rfl) (h₁ rfl) _) (.pure _)
  case addStructureItem => exact .seqRight (.addStructureItem_along (h₂ rfl) (h₁ rfl) _ _) (.pure _)
  case addOptionalContentGroup =>
    exact .seqRight (.addOptionalContentGroup_along env hobj (h₁ rfl) _) (.pure _)
  case addTransparencyGroup =>
    exact .seqRight (.addTransparencyGroup_along env hobj (h₁ rfl) _ _) (.pure _)
  case getBuiltinFontId =>
    exact .seqRight (.getBuiltinFontId_along hobj (h₁ rfl) (h₂ rfl) _) (.pure _)
  case loadFont => exact .seqRight (.loadFont_along env (h₃ rfl) (h₁ rfl) (h₂ rfl) _) (.pure _)
  case createCatalog => exact .seqRight (.createCatalog_along env hobj (h₁ rfl)) (.pure _)
  case getSubsetGlyph => exact .seqRight (.getSubsetGlyph_along env (h₁ rfl) _ _) (.pure _)
  case addRolemapEntry => exact .seqRight (.addRolemapEntry_along (h₁ rfl) _ _) (.pure _)

theorem exec_along_of_not_mem (r₀ : Registry) (op : Op) (hop : r₀ ∉ op.writes)
    (hr : ∀ r, r ≠ r₀ → r.Along R) : Moves R (op.exec env) :=
  op.exec_along env hobj fun r hmem => hr r fun h => hop (h ▸ hmem)

end Op

inductive Follows (env : Env) (d : PdfDocument) : PdfDocument → Prop
  | refl : Follows env d d
  | tail {d'} (op : Op) : Follows env d d' → Follows env d ((op.exec env).run d').state

namespace Follows

variable {env : Env} {d d' : PdfDocument}

theorem along {R : PdfDocument → PdfDocument → Prop} [IsPreorder PdfDocument R]
    (hop : ∀ op : Op, Moves R (op.exec env)) (h : Follows env d d') : R d d' := by
  induction h with
  | refl => exact refl_of R d
  | tail op _ ih => exact trans_of R ih (hop op _)

theorem reachable (h : Follows env d d') (hd : Reachable env d) : Reachable env d' := by
  induction h with
  | refl => exact hd
  | tail op _ ih => exact .step op ih

end Follows

open PdfDocument in
theorem Reachable.of_along {env : Env} {P : PdfDocument → Prop} {d : PdfDocument}
    (hnew : ∀ addr opts cm, P (new addr opts cm)) (hobj : ∀ d o, Preserves P d (d.pushObject o))
    (hreg : ∀ r : Registry, r.Along (Preserves P)) (h : Reachable env d) : P d := by
  induction h with
  | init hi =>
    exact (Moves.init_along env (fun d o _ => hobj d o) (hreg .iccProfiles) (hreg .separations)
      (hreg .roots)).of_run_ok hi (hnew ..)
  | step op _ ih => exact op.exec_along env (fun d o _ => hobj d o) (fun r _ => hreg r) _ ih

end CapyPdf
