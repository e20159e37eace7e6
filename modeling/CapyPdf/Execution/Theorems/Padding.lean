import CapyPdf.Execution.Op
import CapyPdf.Document.Theorems.Padding

namespace CapyPdf

open PdfDocument FontSubsetter

variable {env : Env}

theorem Reachable.requests {ttf : String} (hc : ∀ cp, env.ftGetCharIndex ttf cp ≠ 0) :
    ∀ {d : PdfDocument} {ss : FontSubsetter} (cps : List Nat), Reachable env d →
      d.fonts = [⟨ttf, ss⟩] →
      ∃ d', Reachable env d' ∧ d'.fonts = [⟨ttf, cps.foldl (fun ss cp => (ss.getGlyphSubset cp).2) ss⟩]
  | _, _, [], hd, hf => ⟨_, hd, hf⟩
  | _, _, cp :: cps, hd, hf =>
    Reachable.requests hc cps (.step (.getSubsetGlyph 0 cp) hd)
      (by simp [Op.exec, PdfDocument.getSubsetGlyph, Prog.getI?, hf, hc])

theorem padSubsetFonts_starved {d : PdfDocument} {sf : FontThingy} (hf : sf ∈ d.fonts)
    (hfull : ∀ i < 100, ∃ s ∈ sf.subsets.full, 33 + i ∈ s) (hlast : sf.subsets.last.length < 32) :
    ∃ d', padSubsetFonts.run d = .error .abort d' :=
  padSubsetFonts_abort hf (padSubset_starved hfull hlast)

theorem padSubsetFonts_starved_range :
    ∃ d, Reachable Env.minimal d ∧ ∃ sf ∈ d.fonts,
      (∀ i < 100, ∃ s ∈ sf.subsets.full, 33 + i ∈ s) ∧ sf.subsets.last.length < 32 ∧
      ∃ d', padSubsetFonts.run d = .error .abort d' := by
  obtain ⟨d, hd, hf⟩ := @Reachable.requests Env.minimal "f" (fun _ => Nat.one_ne_zero) _ _
    (List.range 256 ++ [1000]) (.step (.loadFont "f") (@Reachable.init Env.minimal 0 {} {} _ rfl))
    rfl
  rw [show List.foldl _ FontSubsetter.init _ = requestAll (List.range 256 ++ [1000]) from rfl,
    requestAll_range_256] at hf
  have hmem : (⟨"f", ⟨[List.range 256], [1000]⟩⟩ : FontThingy) ∈ d.fonts := hf ▸ .head _
  have hfull : ∀ i < 100, ∃ s ∈ [List.range 256], 33 + i ∈ s :=
    fun i hi => ⟨_, .head _, List.mem_range.mpr (by omega)⟩
  exact ⟨d, hd, _, hmem, hfull, by decide, padSubsetFonts_starved hmem hfull (by decide)⟩

end CapyPdf
