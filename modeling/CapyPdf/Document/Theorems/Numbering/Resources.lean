import CapyPdf.Document.Theorems.Numbering.Init
import CapyPdf.Document.Shading
import CapyPdf.Document.Resources
import CapyPdf.Document.Pattern

namespace CapyPdf

open PdfDocument

variable (env : Env)

section Dicts

-- The operations that only append dictionaries: their numbers are handed out, not recorded.

theorem Moves.addFunction (func : FunctionType2) : Moves AppendsDicts (addFunction env func) :=
  .bind (.reterrIf _ _) fun _ => .bind (.ofExcept _) fun _ => .bind (.ofExcept _) fun _ =>
    .addObject_dict _ _

theorem Moves.addShading2 (shade : ShadingType2) : Moves AppendsDicts (addShading2 shade) :=
  .addObject_dict _ _

theorem Moves.addShading3 (shade : ShadingType3) : Moves AppendsDicts (addShading3 shade) :=
  .addObject_dict _ _

theorem Moves.addShading4 (shade : ShadingType4) : Moves AppendsDicts (addShading4 shade) :=
  .bind (.ofExcept _) fun _ => .addObject_dict _ _

theorem Moves.addShading6 (shade : ShadingType6) : Moves AppendsDicts (addShading6 shade) :=
  .bind (.ofExcept _) fun _ => .addObject_dict _ _

theorem Moves.addLabColorspace (lab : LabColorSpace) : Moves AppendsDicts (addLabColorspace lab) :=
  .bind (.map _ (.addObject_dict _ _)) fun _ => .bind .get fun _ => .pure _

theorem Moves.addGraphicsState (state : GraphicsState) :
    Moves AppendsDicts (addGraphicsState state) :=
  .bind .get fun _ => .bind (.map _ (.addObject_dict _ _)) fun _ => .pure _

theorem Moves.addPattern (ctx : DrawContext) : Moves AppendsDicts (addPattern env ctx) :=
  .bind .get fun _ => .bind (.reterrIf _ _) fun _ => .bind (.reterrIf _ _) fun _ =>
    .bind (.reterrIf _ _) fun _ => .addObject_dict _ _

end Dicts

section Registered

-- The operations that record the numbers of the objects they add. Each runs symbolically; the
-- document it leaves is a chain of updates, each numbered by its lemma.

theorem Moves.addFormXobject (dict stream : String) :
    Moves Continues (addFormXobject dict stream) := by
  intro d h
  simp only [PdfDocument.addFormXobject, addObject, run_modifyGet_bind, run_modify,
    EStateM.Result.state_ok]
  exact ⟨by simp, (h.pushObject (by simp) (by simp [ObjectType.links])).pushFormXobject
    (designates_pushObject_length (by trivial))⟩

theorem Moves.embedJpg (jpg : JpgImage) (interpolate : ImageInterpolation) :
    Moves Continues (embedJpg jpg interpolate) := by
  intro d h
  simp only [PdfDocument.embedJpg, addObject, run_modifyGet_bind, run_modify_bind, run_get_bind,
    run_pure, EStateM.Result.state_ok]
  exact ⟨by simp, (h.pushObject (by simp) (by simp [ObjectType.links])).pushImageInfo
    (designates_pushObject_length (Role.holds_head.mpr (by (repeat' apply Begins.append); decide)))⟩

theorem Moves.createFormCheckbox (onstate offstate : Int) (partialName : String) :
    Moves Continues (createFormCheckbox onstate offstate partialName) := by
  intro d h
  simp only [PdfDocument.createFormCheckbox, addObject, run_get_bind, run_checkIndexness_bind,
    run_modifyGet_bind, run_modify_bind, run_pure]
  repeat' split
  all_goals try simp only [EStateM.Result.state_error, EStateM.Result.state_ok]
  all_goals try with_reducible exact .refl h
  exact ⟨by simp, (h.pushObject (by simp) (by simp [ObjectType.links])).pushFormWidget
    (designates_pushObject_length (by trivial))⟩

theorem Moves.embedFile (fname : String) : Moves Continues (embedFile env fname) := by
  intro d h
  simp only [PdfDocument.embedFile, addObject, run_lift_bind, run_modifyGet_bind, run_modify_bind,
    run_get_bind, run_pure]
  split
  · exact ⟨by simp, ((h.pushObject (by simp) (by simp [ObjectType.links])).pushObject (by simp)
      (by simp [ObjectType.links])).pushEmbeddedFile
      (designates_pushObject_length (Role.holds_head.mpr (by (repeat' apply Begins.append); decide)))
      ((designates_pushObject_of_lt (by simp)).mpr
        (designates_pushObject_length (Role.holds_head.mpr (by (repeat' apply Begins.append); decide))))⟩
  · exact .refl h

theorem Moves.createAnnotation (a : Annotation) :
    Moves Continues <| PdfDocument.createAnnotation a := by
  intro d h
  simp only [addObject, PdfDocument.createAnnotation, run_reterrIf_bind, run_get_bind,
    run_modifyGet_bind, run_modify_bind, run_pure]
  split
  · exact .refl h
  · exact ⟨by simp, (h.pushObject (by simp) (by simp [ObjectType.links])).pushAnnot
      (designates_pushObject_length (by trivial))⟩

theorem Moves.addStructureItem (stype : StructureItemType) (parent : Option Int) :
    Moves Continues (addStructureItem stype parent) := by
  intro d h
  cases parent
  all_goals simp only [PdfDocument.addStructureItem, addObject, run_get_bind, Option.forM,
    run_pure_bind, run_checkIndexness_bind, run_modifyGet_bind, run_modify_bind, run_pure]
  · exact ⟨by simp, (h.pushObject (by simp) (by simp [ObjectType.links])).pushStructureItem
      (designates_pushObject_length (by trivial))⟩
  · split
    · exact .refl h
    · exact ⟨by simp, (h.pushObject (by simp) (by simp [ObjectType.links])).pushStructureItem
        (designates_pushObject_length (by trivial))⟩

theorem Moves.addOptionalContentGroup (g : OptionalContentGroup) :
    Moves Continues (addOptionalContentGroup env g) := by
  intro d h
  simp only [PdfDocument.addOptionalContentGroup, addObject, run_modifyGet_bind, run_modify_bind,
    run_get_bind, run_pure, EStateM.Result.state_ok]
  exact ⟨by simp, (h.pushObject (by simp) (by simp [ObjectType.links])).pushOcgItem
    (designates_pushObject_length (Role.holds_head.mpr (by (repeat' apply Begins.append); decide)))⟩

theorem Moves.addTransparencyGroup (ctx : DrawContext) (ex : Option TransparencyGroupExtra) :
    Moves Continues (addTransparencyGroup env ctx ex) := by
  intro d h
  simp only [PdfDocument.addTransparencyGroup, addObject, run_reterrIf_bind, run_modifyGet_bind,
    run_modify_bind, run_get_bind, run_pure]
  repeat' split
  all_goals try simp only [EStateM.Result.state_error, EStateM.Result.state_ok, run_throw]
  all_goals try with_reducible exact .refl h
  exact ⟨by simp, (h.pushObject (by simp) (by simp [ObjectType.links])).pushTransparencyGroup
    (designates_pushObject_length (by trivial))⟩

theorem Moves.getBuiltinFontId (font : BuiltinFont) : Moves Continues (getBuiltinFontId font) := by
  intro d h
  simp only [PdfDocument.getBuiltinFontId, addObject, run_get_bind, run_modifyGet_bind,
    run_modify_bind, run_pure]
  split
  · exact .refl h
  · exact ⟨by simp, ((h.pushObject (by simp) (by simp [ObjectType.links])).pushBuiltinFontObject
      (designates_pushObject_length (Role.holds_fontOf_full.mpr ⟨rfl, by (repeat' apply Begins.append); decide⟩))).insertBuiltinFont _ _⟩

theorem Moves.loadFont (fname : String) : Moves Continues (loadFont env fname) := by
  intro d h
  simp only [PdfDocument.loadFont, addObject, run_lift_bind, run_reterrIf_bind, run_get_bind,
    run_someOr_bind, run_modify_bind, run_modifyGet_bind, run_pure]
  repeat' split
  all_goals try simp only [EStateM.Result.state_error, EStateM.Result.state_ok]
  all_goals try with_reducible exact .refl h
  refine ⟨by simp, ((((h.setFonts _).pushObject (by simp) (by simp [ObjectType.links])).pushObject
    (by simp) ?_).pushObject (by simp) (by simp [ObjectType.links])).pushObject (by simp) ?_
    |>.pushSubsetFontObject ?_ ?_ ?_⟩
  all_goals simp [ObjectType.links]

end Registered

section Composed

-- The operations made of the ones above, and those that record no object numbers.

theorem Moves.addImageObject (w h bpc : Int) (interpolate : ImageInterpolation)
    (cs : ColorspaceType) (smaskId : Option Nat) (isMask : Bool) (bytes : Bytes) :
    Moves Continues (addImageObject env w h bpc interpolate cs smaskId isMask bytes) := by
  unfold PdfDocument.addImageObject
  refine .bind (.lift _) fun _ => .bind (.ite _ (.pure _) ?_) fun _ d hd => ?_
  · split
    exacts [.pure _, .bind .get fun _ => .bind (.at! _ _) fun _ => .pure _]
  simp only [addObject, run_modifyGet_bind, run_modify_bind, run_get_bind, run_pure,
    EStateM.Result.state_ok]
  exact ⟨by simp, (hd.pushObject (by simp) (by simp [ObjectType.links])).pushImageInfo
    (designates_pushObject_length (Role.holds_head.mpr (by (repeat' apply Begins.append); decide)))⟩

theorem Moves.addImage (image : RasterImage) (isMask : Bool) :
    Moves Continues (addImage env image isMask) := by
  unfold PdfDocument.addImage
  dsimp only
  refine .bind (.reterrIf _ _) fun _ => .bind (.reterrIf _ _) fun _ => .bind (.reterrIf _ _) fun _ =>
    .bind (.ite _ (.bind (.addImageObject env _ _ _ _ _ _ _ _) fun _ => .bind .get fun _ => .bind (.at! _ _)
      fun _ => .pure _) (.pure _)) fun smaskId => ?_
  refine .ite _ (.bind (.storeIccProfile _ _) fun _ => .bind (.addImageObject env _ _ _ _ _ _ _ _) fun _ => .pure _)
    (.bind (.pure _) fun _ => .ite _ (.bind (.addImageObject env _ _ _ _ _ _ _ _) fun _ => .pure _)
      (.bind (.pure _) fun _ => .bind .get fun d => ?_))
  split
  · exact .addImageObject env _ _ _ _ _ _ _ _
  · exact .addImageObject env _ _ _ _ _ _ _ _
  · exact .bind .get fun _ => .bind (.reterrIf _ _) fun _ => .bind (.reterrIf _ _) fun _ =>
      .addImageObject env _ _ _ _ _ _ _ _

theorem Moves.loadIccFile (fname : String) : Moves Continues (loadIccFile env fname) := by
  unfold PdfDocument.loadIccFile
  dsimp only
  refine .bind (.lift _) fun _ => .bind (.findIccProfile _) fun r => ?_
  split
  · exact .pure _
  · exact .bind (.pure _) fun _ => .bind (.lift _) fun _ => .storeIccProfile _ _

theorem Moves.addMaskImage (image : RasterImage) : Moves Continues (addMaskImage env image) :=
  .bind (.reterrIf _ _) fun _ => .addImageObject env _ _ _ _ _ _ _ _

theorem Moves.getSubsetGlyph (fid : Int) (glyph : Nat) :
    Moves Continues (getSubsetGlyph env fid glyph) :=
  .bind .get fun _ => .bind (.at! _ _) fun _ => .bind (.reterrIf _ _) fun _ =>
    .bind (.modify fun _ h => ⟨List.prefix_refl _, h.setFonts _⟩) fun _ => .pure _

theorem Moves.addOutline (title : String) (dest : Int) (parent : Option Int) :
    Moves Continues (addOutline title dest parent) :=
  .bind .get fun _ => .bind (.modify fun _ h => ⟨List.prefix_refl _, h.setOutlines _⟩) fun _ =>
    .pure _

theorem Moves.addRolemapEntry (name : String) (builtinType : Nat) :
    Moves Continues (addRolemapEntry name builtinType) :=
  .bind (.reterrIf _ _) fun _ => .bind .get fun _ => .bind (.reterrIf _ _) fun _ =>
    .bind (.modify fun _ h => ⟨List.prefix_refl _, h.pushRolemapEntry _⟩) fun _ => .bind .get
      fun _ => .pure _

end Composed

end CapyPdf
