import CapyPdf.Document.Theorems.Profiles
import CapyPdf.Execution.Theorems.Registries

namespace CapyPdf

open PdfDocument

variable (env : Env) {d d₁ d₂ : PdfDocument}

theorem Reachable.builtinFontsNamed (h : Reachable env d) : d.BuiltinFontsNamed := by
  have hobj (d : PdfDocument) (o : ObjectType) (_ : o.isEntry = false) :
      Preserves BuiltinFontsNamed d (d.pushObject o) :=
    fun h => h.of_grows rfl (List.prefix_refl _) (List.prefix_append _ _)
  induction h with
  | init hi =>
    have hreg := Registry.along_builtinFontsNamed
    exact (Moves.init_along env hobj (hreg .iccProfiles (by decide)) (hreg .separations (by decide))
      (hreg .roots (by decide))).of_run_ok hi fun _ _ hf => by simp [new] at hf
  | step op _ ih =>
    cases op
    case getBuiltinFontId font =>
      simpa only [Op.exec, state_run_seqRight_pure] using ih.getBuiltinFontId font
    all_goals
      refine Op.exec_along_of_not_mem env hobj .builtinFonts _ ?_ Registry.along_builtinFontsNamed _ ih
      simp [Op.writes]

theorem getBuiltinFontId_cached {font : BuiltinFont} {n : Nat} (h : Reachable env d)
    (hr : (getBuiltinFontId font).run d = .ok n d₁) :
    (∃ obj, d₁.fontObjects[n]? = some ⟨-1, -1, obj, -1⟩ ∧
      d₁.documentObjects[obj]? = some (.fullPDFObject (builtinFontDict font) [])) ∧
    ∀ d₂, Follows env d₁ d₂ → (getBuiltinFontId font).run d₂ = .ok n d₂ := by
  have hnamed : d₁.BuiltinFontsNamed := by
    simpa [hr] using (h.builtinFontsNamed env).getBuiltinFontId font
  have hmap : d₁.builtinFonts.find? font = some n := by
    rw [getBuiltinFontId_run] at hr
    split at hr
    · next hf => cases hr; exact hf
    · cases hr; simp
  refine ⟨hnamed font n hmap, fun d₂ hrun => ?_⟩
  rw [getBuiltinFontId_run, (registries_grow env hrun).builtinFonts font n hmap]

theorem getBuiltinFontId_cached_helvetica :
    let d := ((init Env.minimal).run (PdfDocument.new 0 {} {})).state
    let d₁ := ((getBuiltinFontId .helvetica).run d).state
    Reachable Env.minimal d ∧ (getBuiltinFontId .helvetica).run d = .ok 0 d₁ ∧
    ((∃ obj, d₁.fontObjects[0]? = some ⟨-1, -1, obj, -1⟩ ∧
      d₁.documentObjects[obj]? = some (.fullPDFObject (builtinFontDict .helvetica) [])) ∧
    ∀ d₂, Follows Env.minimal d₁ d₂ → (getBuiltinFontId .helvetica).run d₂ = .ok 0 d₂) :=
  have h : Reachable Env.minimal _ := @Reachable.init Env.minimal 0 {} {} _ rfl
  have hr : (getBuiltinFontId .helvetica).run ((init Env.minimal).run (PdfDocument.new 0 {} {})).state
      = .ok 0 _ := rfl
  ⟨h, hr, getBuiltinFontId_cached _ h hr⟩

theorem getSubsetGlyph_slot_stable {fid : Int} {glyph : Nat} {info : FontSubsetInfo}
    (h : (getSubsetGlyph env fid glyph).run d = .ok info d₁) (hrun : Follows env d₁ d₂) :
    (∃ ft, Prog.getI? d₂.fonts fid = some ft ∧
      (ft.subsets.getSubset info.subset)[info.offset]? = some glyph) ∧
    (getSubsetGlyph env fid glyph).run d₂ = .ok info d₂ := by
  obtain ⟨ft, hf, hc, rfl, rfl⟩ := getSubsetGlyph_run_ok env h
  obtain ⟨hfid, hft⟩ := getI?_eq_some_iff.mp hf
  have hft₁ : (d.fonts.set fid.toNat { ft with subsets := (ft.subsets.getGlyphSubset glyph).2 })[
      fid.toNat]? = some { ft with subsets := (ft.subsets.getGlyphSubset glyph).2 } := by
    simp [(List.getElem?_eq_some_iff.mp hft).1]
  obtain ⟨ft₂, hft₂, httf, hgrows⟩ := (registries_grow env hrun).fonts _ _ hft₁
  have hf₂ : Prog.getI? d₂.fonts fid = some ft₂ := getI?_eq_some_iff.mpr ⟨hfid, hft₂⟩
  have hs := hgrows.findGlyph (FontSubsetter.findGlyph_getGlyphSubset ft.subsets glyph)
  exact ⟨⟨ft₂, hf₂, FontSubsetter.getSubset_findGlyph hs⟩,
    getSubsetGlyph_run_of_findGlyph env hf₂ (httf ▸ hc) hs⟩

theorem getSubsetGlyph_slot_stable_first :
    let d := ((Op.loadFont "a.ttf").exec Env.minimal |>.run
      ((init Env.minimal).run (PdfDocument.new 0 {} {})).state).state
    let d₁ := ((getSubsetGlyph Env.minimal 0 65).run d).state
    let d₂ := ((Op.getSubsetGlyph 0 66).exec Env.minimal |>.run d₁).state
    (getSubsetGlyph Env.minimal 0 65).run d = .ok ⟨0, 0⟩ d₁ ∧ Follows Env.minimal d₁ d₂ ∧
    ((∃ ft, Prog.getI? d₂.fonts 0 = some ft ∧ (ft.subsets.getSubset 0)[0]? = some 65) ∧
      (getSubsetGlyph Env.minimal 0 65).run d₂ = .ok ⟨0, 0⟩ d₂) :=
  have h : (getSubsetGlyph Env.minimal 0 65).run ((Op.loadFont "a.ttf").exec Env.minimal |>.run
      ((init Env.minimal).run (PdfDocument.new 0 {} {})).state).state = .ok ⟨0, 0⟩ _ := rfl
  have hrun : Follows Env.minimal _ _ := .tail (Op.getSubsetGlyph 0 66) .refl
  ⟨h, hrun, getSubsetGlyph_slot_stable _ h hrun⟩

theorem loadIccFile_stable {fname : String} {id : Int} (h : (loadIccFile env fname).run d = .ok id d₁)
    (hid : 0 ≤ id) (hrun : Follows env d₁ d₂) :
    (∃ contents, env.loadFile fname = .ok contents ∧ ∃ info dict, d₂.iccProfiles[id.toNat]? = some info ∧
      d₂.documentObjects[info.streamNum]? = some (.deflatePDFObject dict contents)) ∧
    (loadIccFile env fname).run d₂ = .ok id d₂ := by
  obtain ⟨contents, hc, hf⟩ := loadIccFile_run_ok env h hid
  have hf₂ := findIccProfile_of_grows hf (registries_grow env hrun)
  refine ⟨⟨contents, hc, ?_⟩, ?_⟩
  · simp only [PdfDocument.findIccProfile, run_get_bind] at hf₂
    obtain ⟨-, info, dict, hl, ho⟩ := findIccProfile_go_found hf₂
    exact ⟨info, dict, by simpa using hl, ho⟩
  · simp only [PdfDocument.loadIccFile, run_lift_bind, hc]
    rw [run_bind, hf₂]
    simp [Int.toNat_of_nonneg hid]

theorem loadIccFile_stable_twice :
    let env : Env := { Env.minimal with loadFile := fun _ => .ok [1] }
    let d₁ := ((loadIccFile env "p.icc").run (PdfDocument.new 0 {} {})).state
    let d₂ := ((Op.loadIccFile "p.icc").exec env |>.run d₁).state
    (loadIccFile env "p.icc").run (PdfDocument.new 0 {} {}) = .ok 0 d₁ ∧ Follows env d₁ d₂ ∧
    ((∃ contents, env.loadFile "p.icc" = .ok contents ∧ ∃ info dict,
      d₂.iccProfiles[(0 : Int).toNat]? = some info ∧
        d₂.documentObjects[info.streamNum]? = some (.deflatePDFObject dict contents)) ∧
    (loadIccFile env "p.icc").run d₂ = .ok 0 d₂) :=
  have h : (loadIccFile { Env.minimal with loadFile := fun _ => .ok [1] } "p.icc").run
      (PdfDocument.new 0 {} {}) = .ok 0 _ := rfl
  have hrun : Follows { Env.minimal with loadFile := fun _ => .ok [1] } _ _ :=
    .tail (Op.loadIccFile "p.icc") .refl
  ⟨h, hrun, loadIccFile_stable _ h le_rfl hrun⟩

end CapyPdf
