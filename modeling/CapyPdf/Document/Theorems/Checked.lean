import CapyPdf.Basic.Checked
import CapyPdf.Document.Theorems.Pages.Use

namespace CapyPdf

open PdfDocument

variable (env : Env)

section Writes

-- The writing parts of the operations.

theorem Fails.addObject (o : ObjectType) : Fails Fault.Internal (addObject o) :=
  .modifyGet _

theorem Fails.findIccProfile (contents : Bytes) :
    Fails Fault.Internal (PdfDocument.findIccProfile contents) := by
  refine .bind .get fun d => ?_
  suffices ∀ i l, Fails Fault.Internal (findIccProfile.go contents d i l) from this 0 _
  intro i l
  induction l generalizing i with
  | nil => exact .pure _
  | cons info rest ih =>
    refine .bind (.at! _ _ trivial) fun o => ?_
    split
    · exact .ite _ (.pure _) (ih _)
    · exact .throw trivial

theorem Fails.storeIccProfile (contents : Bytes) (n : Nat) :
    Fails Fault.Internal (PdfDocument.storeIccProfile contents n) := by
  refine .bind (.findIccProfile _) fun existing s e s' hr => ?_
  simp only [addObject, run_assert_bind, run_ite, run_pure, run_modifyGet_bind, run_modify_bind,
    run_get_bind] at hr
  repeat' split at hr
  all_goals cases hr <;> trivial

theorem Fails.createNameDict : Fails Fault.Internal PdfDocument.createNameDict :=
  .bind .get fun _ => .bind (.assert _ trivial) fun _ => .addObject _

theorem Fails.outlineItem (d : PdfDocument) (first catalog curId : Nat) (cur : Outline) :
    Fails Fault.Internal (outlineItem env d first catalog curId cur) :=
  .bind (.someOrThrow _ trivial) fun _ => .bind (.someOrThrow _ trivial) fun _ =>
    .bind (.at! _ _ trivial) fun _ =>
      .bind (.ite _ (.bind (.assert _ trivial) fun _ => .pure _) (.pure _)) fun _ => .pure _

theorem Fails.addOutlineItems (d : PdfDocument) (first catalog : Nat) :
    ∀ curId items, Fails Fault.Internal (addOutlineItems env d first catalog curId items)
  | _, [] => .pure _
  | _, _ :: rest => .bind (.outlineItem env _ _ _ _ _) fun _ =>
      .bind (.map _ (.addObject _)) fun _ => Fails.addOutlineItems d first catalog _ rest

theorem Fails.createOutlines : Fails Fault.Internal (createOutlines env) :=
  .bind .get fun _ => .bind (.addOutlineItems env _ _ _ _ _) fun _ =>
    .bind (.someOrThrow _ trivial) fun _ => .bind .get fun _ => .bind (.assert _ trivial) fun _ =>
      .addObject _

theorem Fails.createStructureParentTree : Fails Fault.Internal createStructureParentTree :=
  .bind .get fun _ => .bind (.listMapM (fun _ => .bind (.listMapM (fun _ =>
    .bind (.at! _ _ trivial) fun _ => .pure _) _) fun _ => .pure _) _) fun _ => .addObject _

theorem Fails.createStructureRootDict : Fails Fault.Internal (createStructureRootDict env) :=
  .bind .get fun _ => .bind (.someOrThrow _ trivial) fun _ => .bind (.assert _ trivial) fun _ =>
    .bind (.addObject _) fun _ => .modify _

theorem Fails.createCatalog : Fails Fault.Internal (createCatalog env) :=
  .bind .get fun _ => .bind (.ite _ (.pure _) (.bind .createNameDict fun _ => .pure _)) fun _ =>
    .bind (.ite _ (.pure _) (.bind (.createOutlines env) fun _ => .pure _)) fun _ =>
      .bind (.ite _ (.pure _) (.bind .createStructureParentTree fun _ => .bind (.modify _) fun _ =>
        .bind (.createStructureRootDict env) fun _ => .bind .get fun _ => .pure _)) fun _ =>
          .bind .get fun _ => .map _ (.addObject _)

end Writes

section Ops

-- Each operation but `add_image`: its checks, then its writes.

theorem Checked.addPage (rd ud cs : String) (fws annots structs : List Int)
    (tr : Option Transition) (subnav : List SubPageNavigation) :
    Checked (PdfDocument.addPage env rd ud cs fws annots structs tr subnav) :=
  fun _ _ _ hr => (addPage_run_error env hr).2 id

theorem Checked.addFormXobject (dict stream : String) :
    Checked (PdfDocument.addFormXobject dict stream) :=
  .of_fails <| .bind (.addObject _) fun _ => .modify _

theorem Checked.createSeparation (name : String) (fallback : DeviceCMYKColor) :
    Checked (PdfDocument.createSeparation env name fallback) :=
  .of_fails <| .bind (.addObject _) fun _ => .bind (.addObject _) fun _ =>
    .bind (.modify _) fun _ => .bind .get fun _ => .pure _

theorem Checked.addLabColorspace (lab : LabColorSpace) :
    Checked (PdfDocument.addLabColorspace lab) :=
  .of_fails <| .bind (.map _ (.addObject _)) fun _ => .bind .get fun _ => .pure _

theorem Checked.loadIccFile (fname : String) : Checked (PdfDocument.loadIccFile env fname) := by
  unfold PdfDocument.loadIccFile
  dsimp only
  refine .bind_unchanged (.lift _) fun _ => .bind_unchanged (Moves.findIccProfile _) fun r => ?_
  split
  · exact .of_fails (.pure _)
  · exact .bind_unchanged (.pure _) fun _ => .bind_unchanged (.lift _) fun _ =>
      .of_fails (.storeIccProfile _ _)

theorem Checked.addImageObject (w h bpc : Int) (interp : ImageInterpolation)
    (cs : ColorspaceType) (smask : Option Nat) (isMask : Bool) (bytes : Bytes) :
    Checked (PdfDocument.addImageObject env w h bpc interp cs smask isMask bytes) := by
  unfold PdfDocument.addImageObject
  refine .bind_unchanged (.lift _) fun _ => .of_fails <| .bind ?_ fun _ =>
    .bind (.addObject _) fun _ => .bind (.modify _) fun _ => .bind .get fun _ => .pure _
  split
  · exact .pure _
  · split
    exacts [.pure _, .bind .get fun _ => .bind (.at! _ _ trivial) fun _ => .pure _]

theorem Checked.addMaskImage (image : RasterImage) :
    Checked (PdfDocument.addMaskImage env image) :=
  .bind_unchanged (.reterrIf _ _) fun _ => .addImageObject env _ _ _ _ _ _ _ _

theorem Checked.embedJpg (jpg : JpgImage) (interpolate : ImageInterpolation) :
    Checked (PdfDocument.embedJpg jpg interpolate) :=
  .of_fails <| .bind (.addObject _) fun _ => .bind (.modify _) fun _ => .bind .get fun _ => .pure _

theorem Checked.addGraphicsState (state : GraphicsState) :
    Checked (PdfDocument.addGraphicsState state) :=
  .of_fails <| .bind .get fun _ => .bind (.map _ (.addObject _)) fun _ => .pure _

theorem Checked.addFunction (func : FunctionType2) : Checked (PdfDocument.addFunction env func) :=
  .bind_unchanged (.reterrIf _ _) fun _ => .bind_unchanged (.ofExcept _) fun _ =>
    .bind_unchanged (.ofExcept _) fun _ => .of_fails (.addObject _)

theorem Checked.addShading2 (shade : ShadingType2) : Checked (PdfDocument.addShading2 shade) :=
  .of_fails (.addObject _)

theorem Checked.addShading3 (shade : ShadingType3) : Checked (PdfDocument.addShading3 shade) :=
  .of_fails (.addObject _)

theorem Checked.addShading4 (shade : ShadingType4) : Checked (PdfDocument.addShading4 shade) :=
  .bind_unchanged (.ofExcept _) fun _ => .of_fails (.addObject _)

theorem Checked.addShading6 (shade : ShadingType6) : Checked (PdfDocument.addShading6 shade) :=
  .bind_unchanged (.ofExcept _) fun _ => .of_fails (.addObject _)

theorem Checked.addPattern (ctx : DrawContext) : Checked (PdfDocument.addPattern env ctx) :=
  .bind_unchanged .get fun _ => .bind_unchanged (.reterrIf _ _) fun _ =>
    .bind_unchanged (.reterrIf _ _) fun _ => .bind_unchanged (.reterrIf _ _) fun _ =>
      .of_fails (.addObject _)

theorem Checked.addOutline (title : String) (dest : Int) (parent : Option Int) :
    Checked (PdfDocument.addOutline title dest parent) :=
  .of_fails <| .bind .get fun _ => .bind (.modify _) fun _ => .pure _

theorem Checked.createFormCheckbox (onstate offstate : Int) (partialName : String) :
    Checked (PdfDocument.createFormCheckbox onstate offstate partialName) :=
  .bind_unchanged .get fun _ => .bind_unchanged (.checkIndexness _ _) fun _ =>
    .bind_unchanged .get fun _ => .bind_unchanged (.checkIndexness _ _) fun _ =>
      .of_fails <| .bind .get fun _ => .bind (.addObject _) fun _ => .bind (.modify _) fun _ =>
        .bind .get fun _ => .pure _

theorem Checked.embedFile (fname : String) : Checked (PdfDocument.embedFile env fname) :=
  .bind_unchanged (.lift _) fun _ => .of_fails <| .bind (.addObject _) fun _ =>
    .bind (.addObject _) fun _ => .bind (.modify _) fun _ => .bind .get fun _ => .pure _

theorem Checked.createAnnotation (a : Annotation) : Checked (PdfDocument.createAnnotation a) :=
  .bind_unchanged (.reterrIf _ _) fun _ => .of_fails <| .bind .get fun _ =>
    .bind (.addObject _) fun _ => .bind (.modify _) fun _ => .pure _

theorem Checked.addStructureItem (stype : StructureItemType) (parent : Option Int) :
    Checked (PdfDocument.addStructureItem stype parent) :=
  .bind_unchanged .get fun _ => .bind_unchanged (.optionForM (fun _ => .checkIndexness _ _) _)
    fun _ => .of_fails <| .bind .get fun _ => .bind (.addObject _) fun _ =>
      .bind (.modify _) fun _ => .bind .get fun _ => .pure _

theorem Checked.addOptionalContentGroup (g : OptionalContentGroup) :
    Checked (PdfDocument.addOptionalContentGroup env g) :=
  .of_fails <| .bind (.addObject _) fun _ => .bind (.modify _) fun _ => .bind .get fun _ => .pure _

theorem Checked.addTransparencyGroup (ctx : DrawContext) (ex : Option TransparencyGroupExtra) :
    Checked (PdfDocument.addTransparencyGroup env ctx ex) := by
  unfold PdfDocument.addTransparencyGroup
  refine .bind_unchanged (.reterrIf _ _) fun _ => .bind_unchanged (.reterrIf _ _) fun _ => ?_
  split
  · exact .of_fails <| .bind (.addObject _) fun _ => .bind (.modify _) fun _ =>
      .bind .get fun _ => .pure _
  · exact .of_fails (.throw trivial)

theorem Checked.getBuiltinFontId (font : BuiltinFont) :
    Checked (PdfDocument.getBuiltinFontId font) := by
  refine .of_fails fun d e d' hr => ?_
  simp only [PdfDocument.getBuiltinFontId, addObject, run_get_bind, run_modifyGet_bind,
    run_modify_bind, run_pure] at hr
  split at hr <;> cases hr

theorem Checked.loadFont (fname : String) : Checked (PdfDocument.loadFont env fname) :=
  .bind_unchanged (.lift _) fun _ => .bind_unchanged (.reterrIf _ _) fun _ =>
    .bind_unchanged (.someOr _ _) fun _ => .bind_unchanged (.reterrIf _ _) fun _ =>
      .bind_unchanged (.reterrIf _ _) fun _ => .bind_unchanged .get fun _ =>
        .bind_unchanged (.lift _) fun _ => .of_fails <| .bind (.modify _) fun _ =>
          .bind (.addObject _) fun _ => .bind (.addObject _) fun _ => .bind (.addObject _) fun _ =>
            .bind (.addObject _) fun _ => .bind .get fun _ => .bind (.modify _) fun _ => .pure _

theorem Checked.createCatalog : Checked (PdfDocument.createCatalog env) :=
  .of_fails (.createCatalog env)

theorem Checked.getSubsetGlyph (fid : Int) (glyph : Nat) :
    Checked (PdfDocument.getSubsetGlyph env fid glyph) :=
  .bind_unchanged .get fun _ => .bind_unchanged (.at! _ _) fun _ =>
    .bind_unchanged (.reterrIf _ _) fun _ => .of_fails <| .bind (.modify _) fun _ => .pure _

theorem Checked.addRolemapEntry (name : String) (builtinType : Nat) :
    Checked (PdfDocument.addRolemapEntry name builtinType) :=
  .bind_unchanged (.reterrIf _ _) fun _ => .bind_unchanged .get fun _ =>
    .bind_unchanged (.reterrIf _ _) fun _ => .of_fails <| .bind (.modify _) fun _ =>
      .bind .get fun _ => .pure _

end Ops

end CapyPdf
