import CapyPdf.Document.Padding
import Mathlib.Data.List.Nodup
import Mathlib.Data.List.Forall2

namespace CapyPdf

namespace FontSubsetter

variable {ss : FontSubsetter} {cp : Nat}

theorem indexOf?_eq_none_iff_not_mem {a : Nat} {l : List Nat} : l.indexOf? a = none ↔ a ∉ l := by
  rw [List.indexOf?_eq_none_iff]
  exact ⟨fun h ha => h a ha (beq_self_eq_true a), fun h x hx hxa => h (eq_of_beq hxa ▸ hx)⟩

theorem findGlyph_go_eq_none_iff {i : Nat} {l : List (List Nat)} :
    findGlyph.go cp i l = none ↔ ∀ s ∈ l, cp ∉ s := by
  induction l generalizing i with
  | nil => simp [findGlyph.go]
  | cons s rest ih =>
    simp only [findGlyph.go, List.mem_cons, forall_eq_or_imp]
    cases h : s.indexOf? cp with
    | none => simp only [ih, indexOf?_eq_none_iff_not_mem.mp h, not_false_eq_true, true_and]
    | some j =>
      simp only [reduceCtorEq, false_iff, not_and]
      exact fun hn => absurd (indexOf?_eq_none_iff_not_mem.mpr hn) (by simp [h])

theorem getGlyphSubset_of_holds (h : ss.Holds cp) : (ss.getGlyphSubset cp).2 = ss := by
  have hf : ss.findGlyph cp ≠ none := fun hn => by
    obtain ⟨s, hs, hc⟩ := h
    exact findGlyph_go_eq_none_iff.mp hn s hs hc
  unfold getGlyphSubset
  split
  · rfl
  · contradiction

theorem getGlyphSubset_fresh (h : ¬ss.Holds cp) (hlen : ss.last.length < maxGlyphs) :
    (ss.getGlyphSubset cp).2 = { ss with last := ss.last ++ [cp] } := by
  have hf : ss.findGlyph cp = none :=
    findGlyph_go_eq_none_iff.mpr fun s hs hc => h ⟨s, hs, hc⟩
  simp [getGlyphSubset, hf, hlen]

theorem getSubset_last (ss : FontSubsetter) : ss.getSubset (ss.numSubsets - 1) = ss.last := by
  simp [getSubset, numSubsets, subsets]

theorem foldl_request_fresh {pre : List Nat} :
    ∀ {l : List Nat}, (pre ++ l).Nodup → (pre ++ l).length ≤ maxGlyphs →
      l.foldl (fun (ss : FontSubsetter) cp => (ss.getGlyphSubset cp).2) ⟨[], pre⟩ = ⟨[], pre ++ l⟩
  | [], _, _ => by simp
  | cp :: l, hnd, hlen => by
    have hnot : cp ∉ pre := fun h => (List.pairwise_append.mp hnd).2.2 cp h cp (.head _) rfl
    have hstep : (getGlyphSubset ⟨[], pre⟩ cp).2 = ⟨[], pre ++ [cp]⟩ :=
      getGlyphSubset_fresh (by simpa [Holds, subsets] using hnot)
        (by simp only [List.length_append, List.length_cons] at hlen; simp only; omega)
    rw [List.foldl_cons, hstep, @foldl_request_fresh (pre ++ [cp]) l (by simpa using hnd)
      (by simpa using hlen)]
    simp

theorem requestAll_range_256 :
    requestAll (List.range 256 ++ [1000]) = ⟨[List.range 256], [1000]⟩ := by
  have h₁ := @foldl_request_fresh [] (List.range 256)
    (by rw [List.nil_append]; exact List.nodup_range 256)
    (by rw [List.nil_append, List.length_range]; exact Nat.le_refl _)
  simp only [List.nil_append] at h₁
  have hnot : ¬(⟨[], List.range 256⟩ : FontSubsetter).Holds 1000 := by
    simp [Holds, subsets]
  have hf : (⟨[], List.range 256⟩ : FontSubsetter).findGlyph 1000 = none :=
    findGlyph_go_eq_none_iff.mpr fun s hs hc => hnot ⟨s, hs, hc⟩
  rw [requestAll, List.foldl_append, show init = ⟨[], []⟩ from rfl, h₁, List.foldl_cons,
    List.foldl_nil, getGlyphSubset]
  simp [hf, maxGlyphs]

end FontSubsetter

namespace PdfDocument

open FontSubsetter

theorem padLoop_stuck {id : Nat} {ss : FontSubsetter} (hl : (ss.getSubset id).length ≠ 32) :
    ∀ {is : List Nat}, (∀ i ∈ is, ss.Holds (33 + i)) → padLoop id ss is = none
  | [], _ => rfl
  | i :: is, h => by
    rw [padLoop, if_neg hl, getGlyphSubset_of_holds (h i (.head _))]
    exact padLoop_stuck hl fun j hj => h j (.tail _ hj)

theorem padSubset_starved {ss : FontSubsetter} (hfull : ∀ i < 100, ∃ s ∈ ss.full, 33 + i ∈ s)
    (hlast : ss.last.length < 32) : padSubset ss = none := by
  have hloop : padLoop (ss.numSubsets - 1) ss (List.range 100) = none :=
    padLoop_stuck (by rw [getSubset_last]; omega) fun i hi => by
      obtain ⟨s, hs, hc⟩ := hfull i (List.mem_range.mp hi)
      exact ⟨s, List.mem_append_left _ hs, hc⟩
  have hle : ¬(ss.getSubset (ss.numSubsets - 1)).length > 32 := by rw [getSubset_last]; omega
  simp [padSubset, hle, hloop]

theorem padSubsetFonts_abort {d : PdfDocument} {sf : FontThingy} (hf : sf ∈ d.fonts)
    (hp : padSubset sf.subsets = none) : ∃ d', padSubsetFonts.run d = .error .abort d' := by
  have hm : ∀ l : List FontThingy, sf ∈ l → ((l.mapM fun sf =>
      Prog.someOrThrow ((padSubset sf.subsets).map fun ss => { sf with subsets := ss }) .abort :
        DocM (List FontThingy)).run d = .error .abort d) := by
    intro l hl
    induction l with
    | nil => cases hl
    | cons a l ih =>
      rw [List.mapM_cons, run_bind]
      rcases List.mem_cons.mp hl with rfl | hl
      · simp [Prog.someOrThrow, hp]
      · cases ha : padSubset a.subsets with
        | none => simp [Prog.someOrThrow, ha]
        | some ss =>
          have hrun : (Prog.someOrThrow (some { a with subsets := ss }) .abort :
              DocM FontThingy).run d = .ok { a with subsets := ss } d := rfl
          rw [Option.map_some', hrun]
          dsimp only
          rw [run_bind, ih hl]
  exact ⟨d, by simp only [padSubsetFonts, run_get_bind]; rw [run_bind, hm _ hf]⟩

structure Padded (ss ss' : FontSubsetter) : Prop where
  full_eq : ss'.full = ss.full
  keeps : ss.last <+: ss'.last
  untouched : 32 < ss.last.length → ss' = ss
  filled : ss.last.length ≤ 32 → ss'.last.length = 33 ∧ ss'.last[32]? = some 32

theorem getSubset_zero_of_full_nil {ss : FontSubsetter} (h : ss.full = []) :
    ss.getSubset 0 = ss.last := by
  simp [getSubset, subsets, h]

theorem countP_held_le (last : List Nat) {is : List Nat} (hnd : is.Nodup) :
    is.countP (fun i => 33 + i ∈ last) ≤ last.length := by
  rw [List.countP_eq_length_filter, ← List.length_map _ (33 + ·)]
  refine (List.subperm_of_subset ((hnd.filter _).map fun a b h => by omega) ?_).length_le
  intro x hx
  obtain ⟨i, hi, rfl⟩ := List.mem_map.mp hx
  simpa using (List.mem_filter.mp hi).2

theorem padLoop_fills {ss : FontSubsetter} (hfull : ss.full = []) :
    ∀ {is : List Nat}, (is.map (33 + ·)).Nodup → ss.last.length ≤ 32 →
      32 - ss.last.length + is.countP (fun i => 33 + i ∈ ss.last) < is.length →
      ∃ ss', padLoop 0 ss is = some ss' ∧ ss'.full = [] ∧ ss.last <+: ss'.last ∧
        ss'.last.length = 32
  | [], _, _, hc => by simp at hc
  | i :: is, hnd, hle, hc => by
    rw [padLoop, getSubset_zero_of_full_nil hfull]
    split
    case isTrue h32 => exact ⟨ss, rfl, hfull, List.prefix_refl _, h32⟩
    case isFalse h32 =>
    rw [List.map_cons, List.nodup_cons] at hnd
    rw [List.countP_cons, List.length_cons] at hc
    by_cases hi : 33 + i ∈ ss.last
    · rw [getGlyphSubset_of_holds ⟨ss.last, by simp [subsets], hi⟩]
      exact padLoop_fills hfull hnd.2 hle (by simp only [hi, decide_True, if_true] at hc; omega)
    · have hcount : is.countP (fun j => 33 + j ∈ ss.last ++ [33 + i]) =
          is.countP (fun j => 33 + j ∈ ss.last) :=
        List.countP_congr fun j hj => by
          have hne : 33 + j ≠ 33 + i := fun h => hnd.1 (h ▸ List.mem_map_of_mem _ hj)
          simp [hne]
      rw [getGlyphSubset_fresh (by simpa [Holds, subsets, hfull] using hi)
        (by unfold maxGlyphs; omega)]
      obtain ⟨ss', h, hf', hp, hl⟩ := @padLoop_fills { ss with last := ss.last ++ [33 + i] }
        hfull is hnd.2 (by simp only [List.length_append]; simp; omega)
        (by simp only [hcount, List.length_append]; simp only [hi, decide_False] at hc; simp; omega)
      exact ⟨ss', h, hf', (List.prefix_append _ _).trans hp, hl⟩

theorem padSubset_single {ss : FontSubsetter} (hfull : ss.full = []) :
    ∃ ss', padSubset ss = some ss' ∧ Padded ss ss' := by
  have h0 : ss.numSubsets - 1 = 0 := by simp [numSubsets, hfull]
  by_cases hbig : ss.last.length > 32
  · refine ⟨ss, ?_, rfl, List.prefix_refl _, fun _ => rfl, by omega⟩
    simp [padSubset, h0, getSubset_zero_of_full_nil hfull, hbig]
  · have hnd : (List.range 100).Nodup := List.nodup_range 100
    obtain ⟨ss', hloop, hf', hp, hl⟩ := padLoop_fills hfull (hnd.map fun a b h => by omega)
      (by omega) (by have := countP_held_le ss.last hnd; simp only [List.length_range]; omega)
    refine ⟨ss'.uncheckedInsertGlyphToLastSubset 32, ?_, hf'.trans hfull.symm,
      hp.trans (List.prefix_append _ _), fun h => absurd h hbig,
      fun _ => ⟨by simp [uncheckedInsertGlyphToLastSubset, hl], ?_⟩⟩
    · have hins : ((ss'.uncheckedInsertGlyphToLastSubset 32).getSubset 0).length = 33 := by
        simp [uncheckedInsertGlyphToLastSubset, getSubset, subsets, hf', hl]
      simp [padSubset, h0, getSubset_zero_of_full_nil hfull, hbig, hloop, hins]
    · simp [uncheckedInsertGlyphToLastSubset, List.getElem?_append_right, hl]

theorem padSubsetFonts_single {d : PdfDocument} (h : ∀ sf ∈ d.fonts, sf.subsets.full = []) :
    ∃ fonts, padSubsetFonts.run d = .ok () (d.setFonts fonts) ∧
      List.Forall₂ (fun sf sf' => sf'.ttf = sf.ttf ∧ Padded sf.subsets sf'.subsets) d.fonts fonts := by
  let g (sf : FontThingy) : FontThingy := { sf with subsets := (padSubset sf.subsets).getD sf.subsets }
  refine ⟨d.fonts.map g, ?_, ?_⟩
  · simp only [padSubsetFonts, run_get_bind]
    rw [run_bind, run_listMapM_ok _ (g := g) fun sf hsf => ?_]
    · rfl
    · obtain ⟨ss', hp, -⟩ := padSubset_single (h sf hsf)
      simp [Prog.someOrThrow, hp, g]
  · rw [List.forall₂_map_right_iff, List.forall₂_same]
    intro sf hsf
    obtain ⟨ss', hp, hpad⟩ := padSubset_single (h sf hsf)
    exact ⟨rfl, by simpa [g, hp] using hpad⟩

theorem padSubsetFonts_single_one :
    ∃ fonts, padSubsetFonts.run ((PdfDocument.new 0 {} {}).setFonts [⟨"f", ⟨[], [65]⟩⟩]) =
      .ok () (((PdfDocument.new 0 {} {}).setFonts [⟨"f", ⟨[], [65]⟩⟩]).setFonts fonts) ∧
      List.Forall₂ (fun (sf sf' : FontThingy) => sf'.ttf = sf.ttf ∧ Padded sf.subsets sf'.subsets)
        [⟨"f", ⟨[], [65]⟩⟩] fonts :=
  padSubsetFonts_single (by simp)

theorem glfind_iff {cp : Nat} {g : TTGlyphs} : glfind cp g = true ↔ g = .regularGlyph cp := by
  cases g <;> simp [glfind, eq_comm]

@[simp] theorem any_glfind (gs : List TTGlyphs) (cp : Nat) :
    gs.any (glfind cp) = decide (.regularGlyph cp ∈ gs) := by
  rw [Bool.eq_iff_iff, List.any_eq_true, decide_eq_true_iff]
  exact ⟨fun ⟨g, hg, h⟩ => glfind_iff.mp h ▸ hg, fun h => ⟨_, h, glfind_iff.mpr rfl⟩⟩

def freshPadding (gs : List TTGlyphs) (is : List Nat) : List Nat :=
  (is.map (33 + ·)).filter fun cp => .regularGlyph cp ∉ gs

theorem padUntilSpaceLoop_fills :
    ∀ {is : List Nat} {gs : List TTGlyphs}, (is.map (33 + ·)).Nodup → gs.length ≤ 32 →
      32 - gs.length < (freshPadding gs is).length →
      padUntilSpaceLoop gs is =
        some (gs ++ ((freshPadding gs is).take (32 - gs.length)).map .regularGlyph)
  | [], _, _, _, hc => by simp [freshPadding] at hc
  | i :: is, gs, hnd, hle, hc => by
    rw [padUntilSpaceLoop, any_glfind]
    split
    case isTrue h32 => simp [h32]
    case isFalse h32 =>
    rw [List.map_cons, List.nodup_cons] at hnd
    by_cases hi : TTGlyphs.regularGlyph (33 + i) ∈ gs
    · have hf : freshPadding gs (i :: is) = freshPadding gs is := by simp [freshPadding, hi]
      rw [hf] at hc ⊢
      simpa [hi] using padUntilSpaceLoop_fills hnd.2 hle hc
    · have hf : freshPadding gs (i :: is) = (33 + i) :: freshPadding gs is := by
        simp [freshPadding, hi]
      have hf' : freshPadding (gs ++ [.regularGlyph (33 + i)]) is = freshPadding gs is :=
        List.filter_congr fun cp hcp => by
          have : cp ≠ 33 + i := fun h => hnd.1 (h ▸ hcp)
          simp [this]
      rw [hf] at hc ⊢
      have hrec := @padUntilSpaceLoop_fills is (gs ++ [.regularGlyph (33 + i)]) hnd.2
        (by simp; omega) (by rw [hf']; simp at hc ⊢; omega)
      rw [if_neg (by simpa using hi), hrec, hf', show 32 - gs.length = 32 - (gs.length + 1) + 1 by omega]
      simp

theorem length_freshPadding_ge (gs : List TTGlyphs) {is : List Nat}
    (hnd : (is.map (33 + ·)).Nodup) : is.length ≤ (freshPadding gs is).length + gs.length := by
  have hheld : ((is.map (33 + ·)).filter fun cp => TTGlyphs.regularGlyph cp ∈ gs).length ≤
      gs.length := by
    rw [← List.length_map _ TTGlyphs.regularGlyph]
    refine (List.subperm_of_subset ((hnd.filter _).map fun a b h => by cases h; rfl) ?_).length_le
    intro x hx
    obtain ⟨cp, hcp, rfl⟩ := List.mem_map.mp hx
    simpa using (List.mem_filter.mp hcp).2
  have := List.length_eq_countP_add_countP (fun cp => TTGlyphs.regularGlyph cp ∈ gs)
    (is.map (33 + ·))
  simp only [List.countP_eq_length_filter, List.length_map, decide_eq_true_eq] at this
  unfold freshPadding
  omega

theorem padSubsetUntilSpace_pads (gs : List TTGlyphs) :
    ∃ gs', padSubsetUntilSpace gs = some gs' ∧ (32 < gs.length → gs' = gs) ∧
      (gs.length ≤ 32 → ∃ pad : List Nat,
        gs' = gs ++ pad.map .regularGlyph ++ [.regularGlyph 32] ∧ gs'.length = 33 ∧
        gs'[32]? = some (.regularGlyph 32) ∧ pad.Nodup ∧
        ∀ cp ∈ pad, 33 ≤ cp ∧ cp < 133 ∧ .regularGlyph cp ∉ gs) := by
  by_cases hbig : 32 < gs.length
  · exact ⟨gs, by simp [padSubsetUntilSpace, hbig], fun _ => rfl, fun h => absurd h (by omega)⟩
  have hnd : ((List.range 100).map (33 + ·)).Nodup :=
    (List.nodup_range 100).map fun a b h => by omega
  have hlen := length_freshPadding_ge gs hnd
  rw [List.length_range] at hlen
  -- The loop appends the first fresh candidates, as many as the vector lacks of 32.
  set pad := (freshPadding gs (List.range 100)).take (32 - gs.length)
  have hloop : padUntilSpaceLoop gs (List.range 100) = some (gs ++ pad.map .regularGlyph) :=
    padUntilSpaceLoop_fills hnd (by omega) (by omega)
  have hl : (gs ++ pad.map TTGlyphs.regularGlyph).length = 32 := by
    simp only [List.length_append, List.length_map, pad, List.length_take]
    omega
  refine ⟨_, ?_, fun h => absurd h hbig, fun _ => ⟨pad, rfl, by rw [List.length_append, hl]; rfl, ?_,
    (hnd.filter _).sublist (List.take_sublist _ _), fun cp hcp => ?_⟩⟩
  · simp [padSubsetUntilSpace, hbig, hloop, hl]
  · rw [List.getElem?_append_right (by omega), hl]
    rfl
  · obtain ⟨hmem, hfresh⟩ := List.mem_filter.mp (List.mem_of_mem_take hcp)
    obtain ⟨i, hi, rfl⟩ := List.mem_map.mp hmem
    exact ⟨by omega, by simp at hi; omega, by simpa using hfresh⟩

end PdfDocument

end CapyPdf
