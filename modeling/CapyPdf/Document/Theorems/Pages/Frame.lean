import CapyPdf.Document.Theorems.Numbering.Resources
import CapyPdf.Document.Theorems.Numbering.Catalog
import CapyPdf.Document.Page

namespace CapyPdf

namespace PdfDocument

def pageView (d : PdfDocument) :
    List PageOffsets × UMap Int Nat × UMap Int Nat × UMap Int StructureUsage × List (List Int) :=
  (d.pages, d.formUse, d.annotationUse, d.structureUse, d.structureParentTreeItems)

structure PagesKept (d d' : PdfDocument) : Prop where
  grows : d.documentObjects <+: d'.documentObjects
  view : d'.pageView = d.pageView

instance : IsPreorder PdfDocument PagesKept where
  refl _ := ⟨List.prefix_refl _, rfl⟩
  trans _ _ _ h₁ h₂ := ⟨h₁.grows.trans h₂.grows, h₂.view.trans h₁.view⟩

theorem PagesKept.of_same {d d' : PdfDocument} (hobj : d'.documentObjects = d.documentObjects)
    (hv : d'.pageView = d.pageView) : PagesKept d d' :=
  ⟨hobj ▸ List.prefix_refl _, hv⟩

theorem AppendsDicts.pagesKept {d d' : PdfDocument} (h : AppendsDicts d d') : PagesKept d d' := by
  obtain ⟨os, rfl⟩ := h
  exact ⟨List.prefix_append _ _, rfl⟩

structure FrameKept (d d' : PdfDocument) : Prop where
  pages : PagesKept d d'
  items : d'.structureItems = d.structureItems

instance : IsPreorder PdfDocument FrameKept where
  refl d := ⟨refl_of PagesKept d, rfl⟩
  trans _ _ _ h₁ h₂ := ⟨trans_of PagesKept h₁.pages h₂.pages, h₂.items.trans h₁.items⟩

theorem FrameKept.of_same {d d' : PdfDocument} (hobj : d'.documentObjects = d.documentObjects)
    (hv : d'.pageView = d.pageView) (hi : d'.structureItems = d.structureItems) : FrameKept d d' :=
  ⟨.of_same hobj hv, hi⟩

theorem AppendsDicts.frameKept {d d' : PdfDocument} (h : AppendsDicts d d') : FrameKept d d' :=
  ⟨h.pagesKept, by obtain ⟨os, rfl⟩ := h; rfl⟩

end PdfDocument

open PdfDocument

namespace Moves

variable {α : Type} {x : DocM α}

theorem frameKept (h : Moves AppendsDicts x) : Moves FrameKept x :=
  fun d => (h d).frameKept

theorem pages (h : Moves FrameKept x) : Moves PagesKept x :=
  fun d => (h d).pages

theorem addObject_kept (o : ObjectType) : Moves FrameKept (addObject o) :=
  .modifyGet fun _ => ⟨⟨List.prefix_append _ _, rfl⟩, rfl⟩

end Moves

section Kept

variable (env : Env)

theorem Moves.storeIccProfile_kept (contents : Bytes) (numChannels : Nat) :
    Moves FrameKept (PdfDocument.storeIccProfile contents numChannels) := by
  refine .bind (.findIccProfile _) fun existing d => ?_
  simp only [addObject, run_assert_bind, run_ite, run_pure, run_modifyGet_bind, run_modify_bind,
    run_get_bind]
  repeat' split
  all_goals exact ⟨⟨by simp, rfl⟩, rfl⟩

theorem Moves.createSeparation_kept (name : String) (fallback : DeviceCMYKColor) :
    Moves FrameKept (PdfDocument.createSeparation env name fallback) :=
  .bind (.addObject_kept _) fun _ => .bind (.addObject_kept _) fun _ =>
    .bind (.modify fun _ => .of_same rfl rfl rfl) fun _ => .bind .get fun _ => .pure _

theorem Moves.addFormXobject_kept (dict stream : String) :
    Moves FrameKept (PdfDocument.addFormXobject dict stream) :=
  .bind (.addObject_kept _) fun _ => .modify fun _ => .of_same rfl rfl rfl

theorem Moves.loadIccFile_kept (fname : String) :
    Moves FrameKept (PdfDocument.loadIccFile env fname) := by
  unfold PdfDocument.loadIccFile
  dsimp only
  refine .bind (.lift _) fun _ => .bind (.findIccProfile _) fun r => ?_
  split
  · exact .pure _
  · exact .bind (.pure _) fun _ => .bind (.lift _) fun _ => .storeIccProfile_kept _ _

theorem Moves.addImageObject_kept (w h bpc : Int) (interp : ImageInterpolation)
    (cs : ColorspaceType) (smask : Option Nat) (isMask : Bool) (bytes : Bytes) :
    Moves FrameKept (PdfDocument.addImageObject env w h bpc interp cs smask isMask bytes) := by
  unfold PdfDocument.addImageObject
  refine .bind (.lift _) fun _ => .bind ?_ fun _ => .bind (.addObject_kept _) fun _ =>
    .bind (.modify fun _ => .of_same rfl rfl rfl) fun _ => .bind .get fun _ => .pure _
  split
  · exact .pure _
  · split
    exacts [.pure _, .bind .get fun _ => .bind (.at! _ _) fun _ => .pure _]

theorem Moves.addImage_kept (image : RasterImage) (isMask : Bool) :
    Moves FrameKept (PdfDocument.addImage env image isMask) := by
  unfold PdfDocument.addImage
  dsimp only
  refine .bind (.reterrIf _ _) fun _ => .bind (.reterrIf _ _) fun _ => .bind (.reterrIf _ _) fun _ =>
    .bind (.ite _ (.bind (.addImageObject_kept env _ _ _ _ _ _ _ _) fun _ => .bind .get fun _ =>
      .bind (.at! _ _) fun _ => .pure _) (.pure _)) fun smaskId => ?_
  refine .ite _ (.bind (.storeIccProfile_kept _ _) fun _ =>
    .bind (.addImageObject_kept env _ _ _ _ _ _ _ _) fun _ => .pure _)
    (.bind (.pure _) fun _ => .ite _ (.bind (.addImageObject_kept env _ _ _ _ _ _ _ _) fun _ => .pure _)
      (.bind (.pure _) fun _ => .bind .get fun d => ?_))
  split
  · exact .addImageObject_kept env _ _ _ _ _ _ _ _
  · exact .addImageObject_kept env _ _ _ _ _ _ _ _
  · exact .bind .get fun _ => .bind (.reterrIf _ _) fun _ => .bind (.reterrIf _ _) fun _ =>
      .addImageObject_kept env _ _ _ _ _ _ _ _

theorem Moves.addMaskImage_kept (image : RasterImage) : Moves FrameKept (PdfDocument.addMaskImage env image) :=
  .bind (.reterrIf _ _) fun _ => .addImageObject_kept env _ _ _ _ _ _ _ _

theorem Moves.embedJpg_kept (jpg : JpgImage) (interpolate : ImageInterpolation) :
    Moves FrameKept (PdfDocument.embedJpg jpg interpolate) :=
  .bind (.addObject_kept _) fun _ => .bind (.modify fun _ => .of_same rfl rfl rfl) fun _ =>
    .bind .get fun _ => .pure _

theorem Moves.addOutline_kept (title : String) (dest : Int) (parent : Option Int) :
    Moves FrameKept (PdfDocument.addOutline title dest parent) :=
  .bind .get fun _ => .bind (.modify fun _ => .of_same rfl rfl rfl) fun _ => .pure _

theorem Moves.createFormCheckbox_kept (onstate offstate : Int) (partialName : String) :
    Moves FrameKept (PdfDocument.createFormCheckbox onstate offstate partialName) :=
  .bind .get fun _ => .bind (.checkIndexness _ _) fun _ => .bind .get fun _ =>
    .bind (.checkIndexness _ _) fun _ => .bind .get fun _ => .bind (.addObject_kept _) fun _ =>
      .bind (.modify fun _ => .of_same rfl rfl rfl) fun _ => .bind .get fun _ => .pure _

theorem Moves.embedFile_kept (fname : String) : Moves FrameKept (PdfDocument.embedFile env fname) :=
  .bind (.lift _) fun _ => .bind (.addObject_kept _) fun _ => .bind (.addObject_kept _) fun _ =>
    .bind (.modify fun _ => .of_same rfl rfl rfl) fun _ => .bind .get fun _ => .pure _

theorem Moves.createAnnotation_kept (a : Annotation) : Moves FrameKept (PdfDocument.createAnnotation a) :=
  .bind (.reterrIf _ _) fun _ => .bind .get fun _ => .bind (.addObject_kept _) fun _ =>
    .bind (.modify fun _ => .of_same rfl rfl rfl) fun _ => .pure _

theorem Moves.addStructureItem_kept (stype : StructureItemType) (parent : Option Int) :
    Moves PagesKept (PdfDocument.addStructureItem stype parent) :=
  .bind .get fun _ => .bind (.optionForM (fun _ => .checkIndexness _ _) _) fun _ => .bind .get
    fun _ => .bind (Moves.addObject_kept _).pages fun _ => .bind (.modify fun _ => .of_same rfl rfl)
      fun _ => .bind .get fun _ => .pure _

theorem Moves.addOptionalContentGroup_kept (g : OptionalContentGroup) :
    Moves FrameKept (PdfDocument.addOptionalContentGroup env g) :=
  .bind (.addObject_kept _) fun _ => .bind (.modify fun _ => .of_same rfl rfl rfl) fun _ =>
    .bind .get fun _ => .pure _

theorem Moves.addTransparencyGroup_kept (ctx : DrawContext) (ex : Option TransparencyGroupExtra) :
    Moves FrameKept (PdfDocument.addTransparencyGroup env ctx ex) := by
  unfold PdfDocument.addTransparencyGroup
  refine .bind (.reterrIf _ _) fun _ => .bind (.reterrIf _ _) fun _ => ?_
  split
  · exact .bind (.addObject_kept _) fun _ => .bind (.modify fun _ => .of_same rfl rfl rfl)
      fun _ => .bind .get fun _ => .pure _
  · exact .throw _

theorem Moves.getBuiltinFontId_kept (font : BuiltinFont) :
    Moves FrameKept (PdfDocument.getBuiltinFontId font) := by
  intro d
  simp only [PdfDocument.getBuiltinFontId, addObject, run_get_bind, run_modifyGet_bind,
    run_modify_bind, run_pure]
  split
  all_goals exact ⟨⟨by simp, rfl⟩, rfl⟩

theorem Moves.loadFont_kept (fname : String) : Moves FrameKept (PdfDocument.loadFont env fname) :=
  .bind (.lift _) fun _ => .bind (.reterrIf _ _) fun _ => .bind (.someOr _ _) fun _ =>
    .bind (.reterrIf _ _) fun _ => .bind (.reterrIf _ _) fun _ => .bind .get fun _ =>
      .bind (.lift _) fun _ => .bind (.modify fun _ => .of_same rfl rfl rfl) fun _ =>
        .bind (.addObject_kept _) fun _ => .bind (.addObject_kept _) fun _ =>
          .bind (.addObject_kept _) fun _ => .bind (.addObject_kept _) fun _ => .bind .get fun _ =>
            .bind (.modify fun _ => .of_same rfl rfl rfl) fun _ => .pure _

theorem Moves.getSubsetGlyph_kept (fid : Int) (glyph : Nat) :
    Moves FrameKept (PdfDocument.getSubsetGlyph env fid glyph) :=
  .bind .get fun _ => .bind (.at! _ _) fun _ => .bind (.reterrIf _ _) fun _ =>
    .bind (.modify fun _ => .of_same rfl rfl rfl) fun _ => .pure _

theorem Moves.addRolemapEntry_kept (name : String) (builtinType : Nat) :
    Moves FrameKept (PdfDocument.addRolemapEntry name builtinType) :=
  .bind (.reterrIf _ _) fun _ => .bind .get fun _ => .bind (.reterrIf _ _) fun _ =>
    .bind (.modify fun _ => .of_same rfl rfl rfl) fun _ => .bind .get fun _ => .pure _

theorem Moves.createStructureRootDict_kept : Moves FrameKept (PdfDocument.createStructureRootDict env) :=
  .bind .get fun _ => .bind (.someOrThrow _ _) fun _ => .bind (.assert _) fun _ =>
    .bind (.addObject_kept _) fun _ => .modify fun _ => .of_same rfl rfl rfl

theorem Moves.createCatalog_kept : Moves FrameKept (PdfDocument.createCatalog env) :=
  .bind .get fun _ => .bind (.ite _ (.pure _) (.bind Moves.createNameDict.frameKept fun _ =>
    .pure _)) fun _ => .bind (.ite _ (.pure _) (.bind (Moves.createOutlines env).frameKept fun _ =>
      .pure _)) fun _ => .bind (.ite _ (.pure _) (.bind Moves.createStructureParentTree.frameKept
        fun _ => .bind (.modify fun _ => .of_same rfl rfl rfl) fun _ =>
          .bind (.createStructureRootDict_kept env) fun _ => .bind .get fun _ => .pure _)) fun _ =>
            .bind .get fun _ => .map _ (.addObject_kept _)

theorem Moves.createOutputIntent_kept : Moves FrameKept (PdfDocument.createOutputIntent env) :=
  .bind .get fun _ => .bind (.assert _) fun _ => .bind (.assert _) fun _ => .bind (.at! _ _) fun _ =>
    .bind (.addObject_kept _) fun _ => .modify fun _ => .of_same rfl rfl rfl

theorem Moves.init_kept : Moves FrameKept (PdfDocument.init env) := by
  unfold PdfDocument.init
  refine .bind (.map _ (.addObject_kept _)) fun _ => .bind (.bind .get fun _ =>
    .map _ (.addObject_kept _)) fun _ => .bind .get fun d => .bind ?_ fun _ => .bind ?_ fun _ =>
      .bind (.bind .get fun _ => .addObject_kept _) fun _ => .bind (.modify fun _ => .of_same rfl rfl rfl)
        fun _ => .bind (.addObject_kept _) fun _ => .bind (.modify fun _ => .of_same rfl rfl rfl) fun _ =>
          .ite _ (.pure _) <| .bind .get fun _ => .bind (.reterrIf _ _) fun _ =>
            .bind (.reterrIf _ _) fun _ => .createOutputIntent_kept env
  · exact .ite _ (.map _ (.createSeparation_kept env _ _)) (.pure _)
  · have hstore (p : Bytes) (n : Nat) : Moves FrameKept (storeOutputProfile p n) :=
      .bind (.storeIccProfile_kept _ _) fun _ => .modify fun _ => .of_same rfl rfl rfl
    unfold PdfDocument.initOutputProfile
    split
    · exact .ite _ (.pure _) (hstore _ _)
    · exact .ite _ (.pure _) (hstore _ _)
    · exact (Moves.reterrIf _ _).seqRight (hstore _ _)

end Kept

end CapyPdf
