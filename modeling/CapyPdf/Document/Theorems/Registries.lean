import CapyPdf.Document.Theorems.Fonts

namespace CapyPdf

namespace PdfDocument

structure Grows (d d' : PdfDocument) : Prop where
  objects : d.documentObjects <+: d'.documentObjects
  pages : d.pages <+: d'.pages
  parentTree : d.structureParentTreeItems <+: d'.structureParentTreeItems
  structureItems : d.structureItems <+: d'.structureItems
  separations : d.separationObjects <+: d'.separationObjects
  iccProfiles : d.iccProfiles <+: d'.iccProfiles
  images : d.imageInfo <+: d'.imageInfo
  formXobjects : d.formXobjects <+: d'.formXobjects
  fonts : ∀ (i : Nat) font, d.fonts[i]? = some font →
    ∃ font', d'.fonts[i]? = some font' ∧ font'.ttf = font.ttf ∧ font.subsets.Grows font'.subsets
  fontObjects : d.fontObjects <+: d'.fontObjects
  builtinFonts : ∀ font n, d.builtinFonts.find? font = some n → d'.builtinFonts.find? font = some n
  outlines : d.outlines.items <+: d'.outlines.items
  formWidgets : d.formWidgets <+: d'.formWidgets
  annotations : d.annotations <+: d'.annotations
  embeddedFiles : d.embeddedFiles <+: d'.embeddedFiles
  ocgItems : d.ocgItems <+: d'.ocgItems
  transparencyGroups : d.transparencyGroups <+: d'.transparencyGroups
  rolemap : d.rolemap <+: d'.rolemap

namespace Grows

variable {d d' d'' : PdfDocument}

theorem refl (d : PdfDocument) : Grows d d where
  objects := List.prefix_refl _
  pages := List.prefix_refl _
  parentTree := List.prefix_refl _
  structureItems := List.prefix_refl _
  separations := List.prefix_refl _
  iccProfiles := List.prefix_refl _
  images := List.prefix_refl _
  formXobjects := List.prefix_refl _
  fonts _ font h := ⟨font, h, rfl, .refl _⟩
  fontObjects := List.prefix_refl _
  builtinFonts _ _ := id
  outlines := List.prefix_refl _
  formWidgets := List.prefix_refl _
  annotations := List.prefix_refl _
  embeddedFiles := List.prefix_refl _
  ocgItems := List.prefix_refl _
  transparencyGroups := List.prefix_refl _
  rolemap := List.prefix_refl _

theorem trans (h₁ : Grows d d') (h₂ : Grows d' d'') : Grows d d'' where
  objects := h₁.objects.trans h₂.objects
  pages := h₁.pages.trans h₂.pages
  parentTree := h₁.parentTree.trans h₂.parentTree
  structureItems := h₁.structureItems.trans h₂.structureItems
  separations := h₁.separations.trans h₂.separations
  iccProfiles := h₁.iccProfiles.trans h₂.iccProfiles
  images := h₁.images.trans h₂.images
  formXobjects := h₁.formXobjects.trans h₂.formXobjects
  fonts i font h :=
    have ⟨font', h', ht, hg⟩ := h₁.fonts i font h
    have ⟨font'', h'', ht', hg'⟩ := h₂.fonts i font' h'
    ⟨font'', h'', ht'.trans ht, hg.trans hg'⟩
  fontObjects := h₁.fontObjects.trans h₂.fontObjects
  builtinFonts font n h := h₂.builtinFonts font n (h₁.builtinFonts font n h)
  outlines := h₁.outlines.trans h₂.outlines
  formWidgets := h₁.formWidgets.trans h₂.formWidgets
  annotations := h₁.annotations.trans h₂.annotations
  embeddedFiles := h₁.embeddedFiles.trans h₂.embeddedFiles
  ocgItems := h₁.ocgItems.trans h₂.ocgItems
  transparencyGroups := h₁.transparencyGroups.trans h₂.transparencyGroups
  rolemap := h₁.rolemap.trans h₂.rolemap

instance : IsPreorder PdfDocument Grows where
  refl := refl
  trans _ _ _ := trans

theorem pushObject (d : PdfDocument) (o : ObjectType) : Grows d (d.pushObject o) :=
  { refl d with objects := List.prefix_append _ _ }

end Grows

theorem fonts_getElem?_append {d : PdfDocument} {fs : List FontThingy} {i : Nat} {font : FontThingy}
    (h : d.fonts[i]? = some font) : (d.fonts ++ fs)[i]? = some font :=
  getElem?_of_isPrefix (List.prefix_append _ _) h

def RolemapOk (d : PdfDocument) : Prop :=
  (d.rolemap.map (·.name)).Nodup ∧ ∀ e ∈ d.rolemap, ¬(e.name.isEmpty ∨ e.name.front = '/')

theorem RolemapOk.pushRolemapEntry {d : PdfDocument} {e : RolemapEntry} (h : d.RolemapOk)
    (hname : ¬(e.name.isEmpty ∨ e.name.front = '/')) (hnew : ¬d.rolemap.any (·.name = e.name)) :
    (d.pushRolemapEntry e).RolemapOk := by
  refine ⟨?_, fun x hx => ?_⟩
  · simpa [List.nodup_append] using ⟨h.1, by simpa using hnew⟩
  · rcases List.mem_append.mp hx with hx | hx
    · exact h.2 x hx
    · exact List.mem_singleton.mp hx ▸ hname

structure WidgetsChecked (d : PdfDocument) : Prop where
  widgets : ∀ (i : Nat) n, d.formWidgets[i]? = some n → ∃ w,
    d.documentObjects[n]? = (some <| ObjectType.delayedCheckboxWidgetAnnotation w) ∧
      0 ≤ w.onstate ∧ w.onstate < d.formXobjects.length ∧ 0 ≤ w.offstate ∧
        w.offstate < d.formXobjects.length
  annots : ∀ (i : Nat) n, d.annotations[i]? = some n → ∃ a,
    d.documentObjects[n]? = (some <| ObjectType.delayedAnnotation i a) ∧ a.rect.isSome

namespace WidgetsChecked

variable {d d' : PdfDocument}

theorem of_grows (h : d.WidgetsChecked) (hobj : d.documentObjects <+: d'.documentObjects)
    (hfx : d.formXobjects.length ≤ d'.formXobjects.length) (hw : d'.formWidgets = d.formWidgets)
    (ha : d'.annotations = d.annotations) : d'.WidgetsChecked where
  widgets i n hn :=
    have ⟨w, hw', hon, hon', hoff, hoff'⟩ := h.widgets i n (hw ▸ hn)
    ⟨w, getElem?_of_isPrefix hobj hw', hon, by omega, hoff, by omega⟩
  annots i n hn :=
    have ⟨a, ha', hr⟩ := h.annots i n (ha ▸ hn)
    ⟨a, getElem?_of_isPrefix hobj ha', hr⟩

theorem pushObject (h : d.WidgetsChecked) (o : ObjectType) : (d.pushObject o).WidgetsChecked :=
  h.of_grows (List.prefix_append _ _) le_rfl rfl rfl

theorem createFormCheckbox (h : d.WidgetsChecked) (onstate offstate : Int) (partialName : String) :
    ((PdfDocument.createFormCheckbox onstate offstate partialName).run d).state.WidgetsChecked := by
  simp only [PdfDocument.createFormCheckbox, addObject, run_get_bind, run_checkIndexness_bind,
    run_modifyGet_bind, run_modify_bind, run_pure]
  split
  · exact h
  split
  · exact h
  next hon hoff =>
  refine ⟨fun i n hn => ?_, (h.pushObject _).annots⟩
  rcases List.getElem?_concat_eq_some hn with hn | ⟨-, rfl⟩
  · exact (h.pushObject _).widgets i n hn
  · exact ⟨⟨d.formWidgets.length, onstate, offstate, partialName⟩, by simp, by dsimp only; omega,
      by simp; omega, by dsimp only; omega, by simp; omega⟩

theorem createAnnotation (h : d.WidgetsChecked) (a : Annotation) :
    ((PdfDocument.createAnnotation a).run d).state.WidgetsChecked := by
  simp only [PdfDocument.createAnnotation, addObject, run_get_bind, run_modifyGet_bind,
    run_modify_bind, run_pure]
  rw [run_reterrIf_bind]
  split
  · exact h
  next hrect =>
  simp only [run_get_bind, run_modifyGet_bind, run_modify_bind, run_pure]
  refine ⟨(h.pushObject _).widgets, fun i n hn => ?_⟩
  rcases List.getElem?_concat_eq_some hn with hn | ⟨rfl, rfl⟩
  · exact (h.pushObject _).annots i n hn
  · exact ⟨a, by simp, Option.isSome_iff_ne_none.mpr fun hn => hrect (by rw [hn]; rfl)⟩

end WidgetsChecked

end PdfDocument

open PdfDocument

theorem Registry.along_grows : ∀ r : Registry, r.Along Grows
  | .entries => fun d o _ => Grows.pushObject d o
  | .iccProfiles => fun d _ => { Grows.refl d with iccProfiles := List.prefix_append _ _ }
  | .separations => fun d _ => { Grows.refl d with separations := List.prefix_append _ _ }
  | .formXobjects => fun d _ => { Grows.refl d with formXobjects := List.prefix_append _ _ }
  | .images => fun d _ => { Grows.refl d with images := List.prefix_append _ _ }
  | .outlines => fun d _ => { Grows.refl d with outlines := List.prefix_append _ _ }
  | .formWidgets => fun d _ => { Grows.refl d with formWidgets := List.prefix_append _ _ }
  | .embeddedFiles => fun d _ => { Grows.refl d with embeddedFiles := List.prefix_append _ _ }
  | .annotations => fun d _ => { Grows.refl d with annotations := List.prefix_append _ _ }
  | .structureItems => fun d _ => { Grows.refl d with structureItems := List.prefix_append _ _ }
  | .ocgItems => fun d _ => { Grows.refl d with ocgItems := List.prefix_append _ _ }
  | .transparencyGroups => fun d _ =>
    { Grows.refl d with transparencyGroups := List.prefix_append _ _ }
  | .fontObjects => fun d _ => { Grows.refl d with fontObjects := List.prefix_append _ _ }
  | .builtinFonts => fun d font n hnone =>
    { Grows.refl d with
      builtinFonts := fun g m hg => by
        simp only [insertBuiltinFont_builtinFonts, UMap.find?_insert]
        split
        · next hfg => subst hfg; rw [hnone] at hg; cases hg
        · exact hg }
  | .fonts => fun d _ =>
    { Grows.refl d with fonts := fun _ font h => ⟨font, fonts_getElem?_append h, rfl, .refl _⟩ }
  | .subsets => fun d i font cp hf =>
    { Grows.refl d with
      fonts := fun j g hg => by
        simp only [setFonts_fonts, List.getElem?_set]
        split
        · next hij =>
          subst hij
          rw [hf] at hg
          cases hg
          exact ⟨{ font with subsets := (font.subsets.getGlyphSubset cp).2 },
            by simp [(List.getElem?_eq_some_iff.mp hf).1], rfl, FontSubsetter.grows_getGlyphSubset _ _⟩
        · exact ⟨g, hg, rfl, .refl _⟩ }
  | .rolemap => fun d _ _ _ => { Grows.refl d with rolemap := List.prefix_append _ _ }
  | .pages => ⟨fun d _ => { Grows.refl d with parentTree := List.prefix_append _ _ },
      fun d _ _ _ _ => { Grows.refl d with pages := List.prefix_append _ _ }⟩
  | .roots => ⟨fun d _ => { Grows.refl d with }, fun d _ => { Grows.refl d with },
      fun d _ => { Grows.refl d with }, fun d _ => { Grows.refl d with }⟩
  | .structRoots => ⟨fun d _ => { Grows.refl d with }, fun d _ => { Grows.refl d with }⟩

theorem Registry.along_rolemapOk (r : Registry) : r.Along (Preserves RolemapOk) := by
  cases r
  case rolemap => exact fun d e hname hnew h => h.pushRolemapEntry hname hnew
  all_goals simp only [Registry.Along, Preserves]; (repeat' constructor) <;> intros <;> assumption

theorem Registry.along_widgetsChecked (r : Registry) (hw : r ≠ .formWidgets) (ha : r ≠ .annotations) :
    r.Along (Preserves WidgetsChecked) := by
  cases r
  case formWidgets => exact absurd rfl hw
  case annotations => exact absurd rfl ha
  case entries => exact fun _ o _ h => h.pushObject o
  case formXobjects =>
    exact fun _ _ h => h.of_grows (List.prefix_refl _) (by simp) rfl rfl
  all_goals simp only [Registry.Along, Preserves]; (repeat' constructor) <;> intros <;> rename_i h <;>
    exact h.of_grows (List.prefix_refl _) le_rfl rfl rfl

end CapyPdf
