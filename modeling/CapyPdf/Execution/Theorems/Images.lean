import CapyPdf.Execution.Op

namespace CapyPdf

open PdfDocument

variable (env : Env)

theorem addImage_error_after_smask {d : PdfDocument} {image : RasterImage} {c : Bytes}
    (hcs : d.opts.outputColorspace = .deviceCMYK) (hcm : d.cm.cmyk ≠ [])
    (hw : 0 < image.md.w) (hh : 0 < image.md.h) (hpix : image.pixels ≠ [])
    (halpha : image.alpha ≠ []) (hicc : image.iccProfile = []) (hrgb : image.md.cs = .deviceRGB)
    (hz : env.flateCompress image.alpha = .ok c) :
    ∃ d' dict, (addImage env image false).run d = .error (.error .unsupportedFormat) d' ∧
      d'.documentObjects = d.documentObjects ++ [.fullPDFObject dict c] ∧
      d'.imageInfo = d.imageInfo ++ [⟨image.md.w, image.md.h, d.documentObjects.length⟩] := by
  have hsize : ¬(image.md.w ≤ 0 ∨ image.md.h ≤ 0) := by omega
  simp [addImage, addImageObject, addObject, hsize, hpix, halpha, hicc, hrgb, hz, hcs, hcm]

theorem addImage_error_after_smask_cmyk :
    let d := ((init Env.minimal).run
      (PdfDocument.new 0 { outputColorspace := .deviceCMYK } { cmyk := [1] })).state
    let image : RasterImage := ⟨⟨1, 1, 8, 8, .deviceRGB, .auto⟩, [0], [0], []⟩
    Reachable Env.minimal d ∧ d.opts.outputColorspace = .deviceCMYK ∧ d.cm.cmyk ≠ [] ∧
      ∃ d' dict, (addImage Env.minimal image false).run d = .error (.error .unsupportedFormat) d' ∧
        d'.documentObjects = d.documentObjects ++ [.fullPDFObject dict [0]] ∧
        d'.imageInfo = d.imageInfo ++ [⟨1, 1, d.documentObjects.length⟩] :=
  ⟨@Reachable.init Env.minimal 0 { outputColorspace := .deviceCMYK } { cmyk := [1] } _ rfl, rfl,
    by decide,
    addImage_error_after_smask _ rfl (by decide) (by decide) (by decide) (by decide) (by decide) rfl
      rfl rfl⟩

theorem addImage_known_profile_aborts {d : PdfDocument} {image : RasterImage} {isMask : Bool}
    {i : Nat} (hw : 0 < image.md.w) (hh : 0 < image.md.h) (hpix : image.pixels ≠ [])
    (halpha : image.alpha = []) (hicc : image.iccProfile ≠ [])
    (hfind : (findIccProfile image.iccProfile).run d = .ok (some i) d) :
    (addImage env image isMask).run d = .error .abort d := by
  have hsize : ¬(image.md.w ≤ 0 ∨ image.md.h ≤ 0) := by omega
  simp [addImage, storeIccProfile, hsize, hpix, halpha, hicc, hfind]

theorem addImage_known_profile_aborts_rgb :
    let d := ((init Env.minimal).run (PdfDocument.new 0 {} { rgb := [7] })).state
    let image : RasterImage := ⟨⟨1, 1, 8, 0, .deviceRGB, .auto⟩, [0], [], [7]⟩
    Reachable Env.minimal d ∧ (findIccProfile image.iccProfile).run d = .ok (some 0) d ∧
      (addImage Env.minimal image false).run d = .error .abort d :=
  have hfind : (findIccProfile [7]).run ((init Env.minimal).run (PdfDocument.new 0 {} { rgb := [7] })).state =
      .ok (some 0) ((init Env.minimal).run (PdfDocument.new 0 {} { rgb := [7] })).state := rfl
  ⟨@Reachable.init Env.minimal 0 {} { rgb := [7] } _ rfl, hfind,
    addImage_known_profile_aborts _ (by decide) (by decide) (by decide) rfl (by decide) hfind⟩

end CapyPdf
