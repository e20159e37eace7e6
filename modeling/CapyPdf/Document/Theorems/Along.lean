import CapyPdf.Document.Theorems.Numbering.Resources
import CapyPdf.Document.Theorems.Numbering.Page
import CapyPdf.Document.Theorems.Numbering.Catalog
import CapyPdf.Document.Theorems.Outlines

namespace CapyPdf

open PdfDocument

def ObjectType.isEntry : ObjectType → Bool
  | .delayedPage _ | ObjectType.delayedAnnotation .. | ObjectType.delayedCheckboxWidgetAnnotation _
  | .delayedStructItem _ | .delayedSubsetFontData .. | .delayedSubsetFontDescriptor ..
  | .delayedSubsetCMap .. | .delayedSubsetFont .. => true
  | _ => false

inductive Registry where
  | entries | iccProfiles | separations | formXobjects | images | outlines | formWidgets | embeddedFiles
  | annotations | structureItems | ocgItems | transparencyGroups | fontObjects | builtinFonts
  | fonts | subsets | rolemap | pages | roots | structRoots
  deriving DecidableEq, Repr

def Registry.Along (R : PdfDocument → PdfDocument → Prop) : Registry → Prop
  | entries => ∀ d o, o.isEntry → R d (d.pushObject o)
  | iccProfiles => ∀ d i, R d (d.pushIccProfile i)
  | separations => ∀ d n, R d (d.pushSeparationObject n)
  | formXobjects => ∀ d n, R d (d.pushFormXobject n)
  | images => ∀ d i, R d (d.pushImageInfo i)
  | outlines => ∀ d o, R d (d.setOutlines (d.outlines.add o))
  | formWidgets => ∀ d n, R d (d.pushFormWidget n)
  | embeddedFiles => ∀ d f, R d (d.pushEmbeddedFile f)
  | annotations => ∀ d n, R d (d.pushAnnot n)
  | structureItems => ∀ d s, R d (d.pushStructureItem s)
  | ocgItems => ∀ d n, R d (d.pushOcgItem n)
  | transparencyGroups => ∀ d n, R d (d.pushTransparencyGroup n)
  | fontObjects => ∀ d i, R d (d.pushFontObject i)
  | builtinFonts => ∀ d f n, d.builtinFonts.find? f = none → R d (d.insertBuiltinFont f n)
  | fonts => ∀ d ttf, R d (d.setFonts (d.fonts ++ [⟨ttf, .init⟩]))
  | subsets => ∀ d (i : Nat) font cp, d.fonts[i]? = some font →
      R d (d.setFonts (d.fonts.set i { font with subsets := (font.subsets.getGlyphSubset cp).2 }))
  | rolemap => ∀ d e, ¬(e.name.isEmpty ∨ e.name.front = '/') → ¬d.rolemap.any (·.name = e.name) →
      R d (d.pushRolemapEntry e)
  | pages => (∀ d s, R d (d.pushStructureParentTreeItems s)) ∧
      ∀ d fws annots structs po, R d (d.registerPage fws annots structs po)
  | roots => (∀ d i, R d (d.setOutputProfile i)) ∧ (∀ d n, R d (d.setPageGroupObject n)) ∧
      (∀ d n, R d (d.setPagesObject n)) ∧ ∀ d n, R d (d.setOutputIntentObject n)
  | structRoots => (∀ d n, R d (d.setStructureParentTreeObject n)) ∧
      ∀ d n, R d (d.setStructureRootObject n)

def Preserves (P : PdfDocument → Prop) (d d' : PdfDocument) : Prop :=
  P d → P d'

instance (P : PdfDocument → Prop) : IsPreorder PdfDocument (Preserves P) where
  refl _ := id
  trans _ _ _ h₁ h₂ := h₂ ∘ h₁

variable (env : Env) {R : PdfDocument → PdfDocument → Prop} [IsPreorder PdfDocument R]
  (hobj : ∀ d o, o.isEntry = false → R d (d.pushObject o))

include hobj

theorem PdfDocument.AppendsDicts.along {d d' : PdfDocument} (h : AppendsDicts d d') : R d d' := by
  obtain ⟨os, rfl⟩ := h
  induction os generalizing d with
  | nil => simpa using refl_of R d
  | cons o os ih => exact pushDicts_cons o os ▸ trans_of R (hobj d (.fullPDFObject o.1 o.2) rfl) ih

theorem Moves.along {α : Type} {x : DocM α} (h : Moves AppendsDicts x) : Moves R x :=
  fun d => (h d).along hobj

omit [IsPreorder PdfDocument R] in
theorem Moves.addObject_along (o : ObjectType) (ho : o.isEntry = false) : Moves R (addObject o) :=
  .modifyGet fun d => hobj d o ho

omit hobj [IsPreorder PdfDocument R] in
theorem Moves.addEntry_along (hent : Registry.entries.Along R) (o : ObjectType) (ho : o.isEntry) :
    Moves R (addObject o) :=
  .modifyGet fun d => hent d o ho

section Updates

-- Each operation, with the updates it makes besides its objects.

theorem Moves.storeIccProfile_along (hicc : Registry.iccProfiles.Along R) (contents : Bytes)
    (numChannels : Nat) : Moves R (PdfDocument.storeIccProfile contents numChannels) := by
  refine .bind (.findIccProfile _) fun existing d => ?_
  simp only [addObject, run_assert_bind, run_ite, run_pure, run_modifyGet_bind, run_modify_bind,
    run_get_bind]
  repeat' split
  all_goals try simp only [EStateM.Result.state_error, EStateM.Result.state_ok]
  all_goals try exact refl_of R d
  exact trans_of R (trans_of R (hobj _ _ (by rfl)) (hobj _ _ (by rfl))) (hicc _ _)

theorem Moves.createSeparation_along (hsep : Registry.separations.Along R) (name : String)
    (fallback : DeviceCMYKColor) : Moves R (PdfDocument.createSeparation env name fallback) :=
  .bind (.addObject_along hobj _ rfl) fun _ => .bind (.addObject_along hobj _ rfl) fun _ =>
    .bind (.modify fun d => hsep d _) fun _ => .bind .get fun _ => .pure _

theorem Moves.addFormXobject_along (hfx : Registry.formXobjects.Along R) (dict stream : String) :
    Moves R (PdfDocument.addFormXobject dict stream) :=
  .bind (.addObject_along hobj _ rfl) fun _ => .modify fun d => hfx d _

theorem Moves.loadIccFile_along (hicc : Registry.iccProfiles.Along R) (fname : String) :
    Moves R (PdfDocument.loadIccFile env fname) := by
  unfold PdfDocument.loadIccFile
  dsimp only
  refine .bind (.lift _) fun _ => .bind (.findIccProfile _) fun r => ?_
  split
  · exact .pure _
  · exact .bind (.pure _) fun _ => .bind (.lift _) fun _ => .storeIccProfile_along hobj hicc _ _

theorem Moves.addImageObject_along (himg : Registry.images.Along R) (w h bpc : Int)
    (interp : ImageInterpolation) (cs : ColorspaceType) (smask : Option Nat) (isMask : Bool)
    (bytes : Bytes) : Moves R (PdfDocument.addImageObject env w h bpc interp cs smask isMask bytes) := by
  refine .bind (.lift _) fun _ => .bind (.ite _ (.pure _) ?_) fun _ =>
    .bind (.addObject_along hobj _ rfl) fun _ => .bind (.modify fun d => himg d _) fun _ =>
      .bind .get fun _ => .pure _
  split
  exacts [.pure _, .bind .get fun _ => .bind (.at! _ _) fun _ => .pure _]

theorem Moves.addImage_along (hicc : Registry.iccProfiles.Along R)
    (himg : Registry.images.Along R) (image : RasterImage) (isMask : Bool) :
    Moves R (PdfDocument.addImage env image isMask) := by
  have hobject := Moves.addImageObject_along env hobj himg
  unfold PdfDocument.addImage
  dsimp only
  refine .bind (.reterrIf _ _) fun _ => .bind (.reterrIf _ _) fun _ => .bind (.reterrIf _ _) fun _ =>
    .bind (.ite _ (.bind (hobject _ _ _ _ _ _ _ _) fun _ => .bind .get fun _ => .bind (.at! _ _) fun _ =>
      .pure _) (.pure _)) fun _ => ?_
  refine .ite _ (.bind (.storeIccProfile_along hobj hicc _ _) fun _ => .bind (hobject _ _ _ _ _ _ _ _) fun _ =>
    .pure _) (.bind (.pure _) fun _ => .ite _ (.bind (hobject _ _ _ _ _ _ _ _) fun _ => .pure _)
      (.bind (.pure _) fun _ => .bind .get fun _ => ?_))
  split
  · exact hobject _ _ _ _ _ _ _ _
  · exact hobject _ _ _ _ _ _ _ _
  · exact .bind .get fun _ => .bind (.reterrIf _ _) fun _ => .bind (.reterrIf _ _) fun _ =>
      hobject _ _ _ _ _ _ _ _

theorem Moves.addMaskImage_along (himg : Registry.images.Along R) (image : RasterImage) :
    Moves R (PdfDocument.addMaskImage env image) :=
  .bind (.reterrIf _ _) fun _ => .addImageObject_along env hobj himg _ _ _ _ _ _ _ _

theorem Moves.embedJpg_along (himg : Registry.images.Along R) (jpg : JpgImage)
    (interpolate : ImageInterpolation) : Moves R (PdfDocument.embedJpg jpg interpolate) :=
  .bind (.addObject_along hobj _ rfl) fun _ => .bind (.modify fun d => himg d _) fun _ =>
    .bind .get fun _ => .pure _

omit hobj [IsPreorder PdfDocument R] in
theorem Moves.addOutline_along (hout : Registry.outlines.Along R)
    (title : String) (dest : Int) (parent : Option Int) : Moves R (PdfDocument.addOutline title dest parent) :=
  fun d => (addOutline_run d title dest parent).symm ▸ hout d _

omit hobj in
theorem Moves.createFormCheckbox_along (hent : Registry.entries.Along R)
    (hfw : Registry.formWidgets.Along R) (onstate offstate : Int) (partialName : String) :
    Moves R (PdfDocument.createFormCheckbox onstate offstate partialName) :=
  .bind .get fun _ => .bind (.checkIndexness _ _) fun _ => .bind .get fun _ =>
    .bind (.checkIndexness _ _) fun _ => .bind .get fun _ => .bind (.addEntry_along hent _ rfl) fun _ =>
      .bind (.modify fun d => hfw d _) fun _ => .bind .get fun _ => .pure _

theorem Moves.embedFile_along (hef : Registry.embeddedFiles.Along R) (fname : String) :
    Moves R (PdfDocument.embedFile env fname) :=
  .bind (.lift _) fun _ => .bind (.addObject_along hobj _ rfl) fun _ =>
    .bind (.addObject_along hobj _ rfl) fun _ => .bind (.modify fun d => hef d _) fun _ =>
      .bind .get fun _ => .pure _

omit hobj in
theorem Moves.createAnnotation_along (hent : Registry.entries.Along R)
    (han : Registry.annotations.Along R) (a : Annotation) : Moves R (PdfDocument.createAnnotation a) :=
  .bind (.reterrIf _ _) fun _ => .bind .get fun _ => .bind (.addEntry_along hent _ rfl) fun _ =>
    .bind (.modify fun d => han d _) fun _ => .pure _

omit hobj in
theorem Moves.addStructureItem_along (hent : Registry.entries.Along R)
    (hsi : Registry.structureItems.Along R) (stype : StructureItemType) (parent : Option Int) :
    Moves R (PdfDocument.addStructureItem stype parent) :=
  .bind .get fun _ => .bind (.optionForM (fun _ => .checkIndexness _ _) _) fun _ => .bind .get
    fun _ => .bind (.addEntry_along hent _ rfl) fun _ => .bind (.modify fun d => hsi d _)
      fun _ => .bind .get fun _ => .pure _

theorem Moves.addOptionalContentGroup_along (hocg : Registry.ocgItems.Along R)
    (g : OptionalContentGroup) : Moves R (PdfDocument.addOptionalContentGroup env g) :=
  .bind (.addObject_along hobj _ rfl) fun _ => .bind (.modify fun d => hocg d _) fun _ =>
    .bind .get fun _ => .pure _

theorem Moves.addTransparencyGroup_along (htg : Registry.transparencyGroups.Along R)
    (ctx : DrawContext) (ex : Option TransparencyGroupExtra) :
    Moves R (PdfDocument.addTransparencyGroup env ctx ex) := by
  unfold PdfDocument.addTransparencyGroup
  refine .bind (.reterrIf _ _) fun _ => .bind (.reterrIf _ _) fun _ => ?_
  split
  · exact .bind (.addObject_along hobj _ rfl) fun _ => .bind (.modify fun d => htg d _) fun _ =>
      .bind .get fun _ => .pure _
  · exact .throw _

theorem Moves.getBuiltinFontId_along (hfo : Registry.fontObjects.Along R)
    (hbf : Registry.builtinFonts.Along R) (font : BuiltinFont) :
    Moves R (PdfDocument.getBuiltinFontId font) := by
  intro d
  simp only [PdfDocument.getBuiltinFontId, addObject, run_get_bind, run_modifyGet_bind,
    run_modify_bind, run_pure]
  split
  · exact refl_of R d
  · next hf =>
    exact trans_of R (trans_of R (hobj d _ (by rfl)) (hfo _ _))
      (hbf _ _ _ (Option.eq_none_iff_forall_not_mem.mpr hf))

omit hobj in
theorem Moves.loadFont_along (hent : Registry.entries.Along R) (hfonts : Registry.fonts.Along R)
    (hfo : Registry.fontObjects.Along R) (fname : String) : Moves R (PdfDocument.loadFont env fname) :=
  .bind (.lift _) fun _ => .bind (.reterrIf _ _) fun _ => .bind (.someOr _ _) fun _ =>
    .bind (.reterrIf _ _) fun _ => .bind (.reterrIf _ _) fun _ => .bind .get fun _ =>
      .bind (.lift _) fun _ => .bind (.modify fun d => hfonts d _) fun _ =>
        .bind (.addEntry_along hent _ rfl) fun _ => .bind (.addEntry_along hent _ rfl) fun _ =>
          .bind (.addEntry_along hent _ rfl) fun _ => .bind (.addEntry_along hent _ rfl) fun _ =>
            .bind .get fun _ => .bind (.modify fun d => hfo d _) fun _ => .pure _

omit hobj in
theorem Moves.getSubsetGlyph_along (hsub : Registry.subsets.Along R) (fid : Int) (glyph : Nat) :
    Moves R (PdfDocument.getSubsetGlyph env fid glyph) := by
  intro d
  simp only [PdfDocument.getSubsetGlyph, run_get_bind, run_at!_bind]
  split
  · next font hfont =>
    rw [run_reterrIf_bind]
    split
    · exact refl_of R d
    · simp only [run_modify_bind, run_pure]
      unfold Prog.getI? at hfont
      split at hfont
      · exact hsub d _ _ _ hfont
      · cases hfont
  · exact refl_of R d

omit hobj in
theorem Moves.addRolemapEntry_along (hrole : Registry.rolemap.Along R) (name : String)
    (builtinType : Nat) : Moves R (PdfDocument.addRolemapEntry name builtinType) := by
  intro d
  simp only [PdfDocument.addRolemapEntry]
  rw [run_reterrIf_bind]
  split
  · exact refl_of R d
  rw [run_get_bind, run_reterrIf_bind]
  split
  · exact refl_of R d
  simp only [run_modify_bind, run_get_bind, run_pure]
  exact hrole d _ ‹_› ‹_›

theorem Moves.createStructureRootDict_along (hroots : Registry.structRoots.Along R) :
    Moves R (PdfDocument.createStructureRootDict env) :=
  .bind .get fun _ => .bind (.someOrThrow _ _) fun _ => .bind (.assert _) fun _ =>
    .bind (.addObject_along hobj _ rfl) fun _ => .modify fun d => hroots.2 d _

theorem Moves.createCatalog_along (hroots : Registry.structRoots.Along R) :
    Moves R (PdfDocument.createCatalog env) :=
  .bind .get fun _ => .bind (.ite _ (.pure _) (.bind (Moves.createNameDict.along hobj) fun _ =>
    .pure _)) fun _ => .bind (.ite _ (.pure _) (.bind ((Moves.createOutlines env).along hobj)
      fun _ => .pure _)) fun _ => .bind (.ite _ (.pure _) (.bind (Moves.createStructureParentTree.along
        hobj) fun _ => .bind (.modify fun d => hroots.1 d _) fun _ =>
          .bind (.createStructureRootDict_along env hobj hroots) fun _ => .bind .get fun _ => .pure _))
            fun _ => .bind .get fun _ => .map _ (.addObject_along hobj _ rfl)

theorem Moves.addPage_along (hent : Registry.entries.Along R) (hpages : Registry.pages.Along R)
    (rd ud cs : String) (fws annots structs : List Int) (tr : Option Transition)
    (subnav : List SubPageNavigation) :
    Moves R (PdfDocument.addPage env rd ud cs fws annots structs tr subnav) := by
  unfold PdfDocument.addPage
  refine .bind .get fun _ => .bind (.reterrIf _ _) fun _ => .bind (.reterrIf _ _) fun _ =>
    .bind (.reterrIf _ _) fun _ => .bind (.addObject_along hobj _ rfl) fun _ =>
      .bind (.ite _ (.addObject_along hobj _ rfl) (.addObject_along hobj _ rfl)) fun _ =>
        .bind (.ite _ (.pure _) (.map _ ((Moves.createSubnavigation env _).along hobj))) fun _ =>
          .bind (.ite _ (.pure _) (.bind .get fun _ => .bind (.modify fun d => hpages.1 d _) fun _ =>
            .pure _)) fun _ => .bind (.addEntry_along hent _ rfl) fun _ =>
              .modify fun d => hpages.2 d _ _ _ _

theorem Moves.init_along (hicc : Registry.iccProfiles.Along R) (hsep : Registry.separations.Along R)
    (hroots : Registry.roots.Along R) : Moves R (PdfDocument.init env) := by
  obtain ⟨hprof, hgroup, hpages, hintent⟩ := hroots
  have hintent' : Moves R (PdfDocument.createOutputIntent env) :=
    .bind .get fun _ => .bind (.assert _) fun _ => .bind (.assert _) fun _ => .bind (.at! _ _)
      fun _ => .bind (.addObject_along hobj _ rfl) fun _ => .modify fun d => hintent d _
  have hstore (p : Bytes) (n : Nat) : Moves R (PdfDocument.storeOutputProfile p n) :=
    .bind (.storeIccProfile_along hobj hicc _ _) fun _ => .modify fun d => hprof d _
  unfold PdfDocument.init
  refine .bind (.map _ (.addObject_along hobj _ rfl)) fun _ => .bind (.bind .get fun _ =>
    .map _ (.addObject_along hobj _ rfl)) fun _ => .bind .get fun d => .bind ?_ fun _ => .bind ?_ fun _ =>
      .bind (.bind .get fun _ => .addObject_along hobj _ rfl) fun _ => .bind (.modify fun d => hgroup d _)
        fun _ => .bind (.addObject_along hobj _ rfl) fun _ => .bind (.modify fun d => hpages d _) fun _ =>
          .ite _ (.pure _) <| .bind .get fun _ => .bind (.reterrIf _ _) fun _ =>
            .bind (.reterrIf _ _) fun _ => hintent'
  · exact .ite _ (.map _ (.createSeparation_along env hobj hsep _ _)) (.pure _)
  · unfold PdfDocument.initOutputProfile
    split
    · exact .ite _ (.pure _) (hstore _ _)
    · exact .ite _ (.pure _) (hstore _ _)
    · exact (Moves.reterrIf _ _).seqRight (hstore _ _)

end Updates

end CapyPdf
