import CapyPdf.Document.Theorems.Padding
import CapyPdf.Document.Theorems.Along

namespace CapyPdf

namespace FontSubsetter

variable {ss ss' ss'' : FontSubsetter} {cp : Nat} {info : FontSubsetInfo}

def Grows (ss ss' : FontSubsetter) : Prop :=
  ∃ t rest, ss.last <+: t ∧ ss'.subsets = ss.full ++ t :: rest

theorem Grows.refl (ss : FontSubsetter) : ss.Grows ss :=
  ⟨ss.last, [], List.prefix_refl _, rfl⟩

theorem Grows.trans (h₁ : ss.Grows ss') (h₂ : ss'.Grows ss'') : ss.Grows ss'' := by
  obtain ⟨t₁, r₁, hp₁, he₁⟩ := h₁
  obtain ⟨t₂, r₂, hp₂, he₂⟩ := h₂
  unfold subsets at he₁
  rcases List.eq_nil_or_concat r₁ with rfl | ⟨r, x, rfl⟩
  · obtain ⟨hf, hl⟩ := List.append_inj' he₁ rfl
    cases hl
    exact ⟨t₂, r₂, hp₁.trans hp₂, by rw [he₂, hf]⟩
  · rw [List.concat_eq_append, ← List.cons_append, ← List.append_assoc] at he₁
    obtain ⟨hf, -⟩ := List.append_inj' he₁ rfl
    exact ⟨t₁, r ++ t₂ :: r₂, hp₁, by rw [he₂, hf]; simp⟩

instance : IsPreorder FontSubsetter Grows where
  refl := Grows.refl
  trans _ _ _ := Grows.trans

theorem findGlyph_go_append_cons {i : Nat} {xs : List (List Nat)} {s t : List Nat}
    (rest : List (List Nat)) (hst : s <+: t) (h : findGlyph.go cp i (xs ++ [s]) = some info) :
    findGlyph.go cp i (xs ++ t :: rest) = some info := by
  induction xs generalizing i with
  | nil =>
    simp only [List.nil_append, findGlyph.go] at h ⊢
    cases hs : s.indexOf? cp with
    | none => simp [hs, findGlyph.go] at h
    | some j =>
      rw [hs] at h
      rw [show t.indexOf? cp = some j from hst.findIdx?_eq_some hs]
      exact h
  | cons x xs ih =>
    simp only [List.cons_append, findGlyph.go] at h ⊢
    cases hx : x.indexOf? cp with
    | none => simpa only [hx] using ih (by simpa only [hx] using h)
    | some j => simpa only [hx] using h

theorem Grows.findGlyph (h : ss.Grows ss') (hf : ss.findGlyph cp = some info) :
    ss'.findGlyph cp = some info := by
  obtain ⟨t, rest, hp, he⟩ := h
  unfold FontSubsetter.findGlyph at hf ⊢
  rw [he]
  exact findGlyph_go_append_cons rest hp hf

theorem findGlyph_go_append_of_not_mem {i : Nat} {xs : List (List Nat)} (ys : List (List Nat))
    (h : ∀ s ∈ xs, cp ∉ s) : findGlyph.go cp i (xs ++ ys) = findGlyph.go cp (i + xs.length) ys := by
  induction xs generalizing i with
  | nil => rfl
  | cons x xs ih =>
    have hx : x.indexOf? cp = none := indexOf?_eq_none_iff_not_mem.mpr (h x (.head _))
    simp only [List.cons_append, findGlyph.go, hx, List.length_cons, List.append_eq]
    rw [ih fun s hs => h s (.tail _ hs), Nat.add_assoc, Nat.add_comm 1]

theorem grows_getGlyphSubset (ss : FontSubsetter) (cp : Nat) : ss.Grows (ss.getGlyphSubset cp).2 := by
  unfold getGlyphSubset
  split
  · exact .refl ss
  · split
    · exact ⟨ss.last ++ [cp], [], List.prefix_append _ _, rfl⟩
    · exact ⟨ss.last, [[cp]], List.prefix_refl _, by simp [subsets]⟩

theorem findGlyph_getGlyphSubset (ss : FontSubsetter) (cp : Nat) :
    (ss.getGlyphSubset cp).2.findGlyph cp = some (ss.getGlyphSubset cp).1 := by
  unfold getGlyphSubset
  split
  · next info h => exact h
  · next hn =>
    have hnot : ∀ s ∈ ss.full ++ [ss.last], cp ∉ s := findGlyph_go_eq_none_iff.mp hn
    have hfull (s) (hs : s ∈ ss.full) : cp ∉ s := hnot s (List.mem_append_left _ hs)
    have hlast : ss.last.findIdx? (· == cp) = none :=
      indexOf?_eq_none_iff_not_mem.mpr (hnot _ (List.mem_append_right _ (.head _)))
    split
    · show findGlyph.go cp 0 (ss.full ++ [ss.last ++ [cp]]) = _
      rw [findGlyph_go_append_of_not_mem _ hfull]
      simp [findGlyph.go, List.indexOf?, hlast]
    · show findGlyph.go cp 0 (ss.full ++ [ss.last] ++ [[cp]]) = _
      rw [findGlyph_go_append_of_not_mem _ hnot]
      simp [findGlyph.go, List.indexOf?]

theorem findGlyph_go_slot {i : Nat} {l : List (List Nat)} (h : findGlyph.go cp i l = some info) :
    i ≤ info.subset ∧ (l.getD (info.subset - i) [])[info.offset]? = some cp := by
  induction l generalizing i with
  | nil => cases h
  | cons s rest ih =>
    unfold findGlyph.go at h
    cases hs : s.indexOf? cp with
    | none =>
      rw [hs] at h
      obtain ⟨hi, hslot⟩ := ih h
      refine ⟨by omega, ?_⟩
      rwa [show info.subset - i = info.subset - (i + 1) + 1 by omega, List.getD_cons_succ]
    | some j =>
      rw [hs] at h
      cases h
      obtain ⟨hj, heq, -⟩ := List.findIdx?_eq_some_iff_getElem.mp hs
      simpa [List.getElem?_eq_getElem hj] using heq

theorem getSubset_findGlyph (h : ss.findGlyph cp = some info) :
    (ss.getSubset info.subset)[info.offset]? = some cp := by
  simpa [getSubset, List.getD_eq_getElem?_getD] using (findGlyph_go_slot h).2

end FontSubsetter

theorem getI?_eq_some_iff {α : Type} {xs : List α} {i : Int} {a : α} :
    Prog.getI? xs i = some a ↔ 0 ≤ i ∧ xs[i.toNat]? = some a := by
  unfold Prog.getI?
  split <;> simp_all

theorem set_of_getElem? {α : Type} {l : List α} {i : Nat} {a : α} (h : l[i]? = some a) :
    l.set i a = l :=
  List.ext_getElem? fun j => by
    by_cases hij : i = j
    · subst hij; simp [(List.getElem?_eq_some_iff.mp h).1, h]
    · simp [List.getElem?_set, hij]

-- The spec's Type1 dictionary of a builtin font.
def builtinFontDict (font : BuiltinFont) : String :=
  "<<\n  /Type /Font\n  /Subtype /Type1\n  /BaseFont /" ++ fontNames font ++ "\n>>\n"

namespace PdfDocument

def BuiltinFontsNamed (d : PdfDocument) : Prop :=
  ∀ font n, d.builtinFonts.find? font = some n → ∃ obj,
    d.fontObjects[n]? = some ⟨-1, -1, obj, -1⟩ ∧
      d.documentObjects[obj]? = some (.fullPDFObject (builtinFontDict font) [])

variable {d d' : PdfDocument} {font : BuiltinFont} {n : Nat}

theorem getBuiltinFontId_run (d : PdfDocument) (font : BuiltinFont) :
    (getBuiltinFontId font).run d = match d.builtinFonts.find? font with
      | some n => .ok n d
      | none =>
        let d₁ := d.pushObject (.fullPDFObject (builtinFontDict font) [])
        let d₂ := d₁.pushFontObject ⟨-1, -1, d.documentObjects.length, -1⟩
        .ok d.fontObjects.length (d₂.insertBuiltinFont font d.fontObjects.length) := by
  simp only [PdfDocument.getBuiltinFontId, addObject, run_get_bind, run_modifyGet_bind,
    run_modify_bind, run_pure]
  cases h : d.builtinFonts.find? font <;> simp [builtinFontDict]

variable (env : Env) {fid : Int} {glyph : Nat} {info : FontSubsetInfo} {ft : FontThingy}

theorem getSubsetGlyph_run_ok (h : (getSubsetGlyph env fid glyph).run d = .ok info d') :
    ∃ ft, Prog.getI? d.fonts fid = some ft ∧ env.ftGetCharIndex ft.ttf glyph ≠ 0 ∧
      (ft.subsets.getGlyphSubset glyph).1 = info ∧
      d' = d.setFonts (d.fonts.set fid.toNat { ft with subsets := (ft.subsets.getGlyphSubset glyph).2 }) := by
  simp only [PdfDocument.getSubsetGlyph, run_get_bind, run_at!_bind] at h
  split at h
  · next ft hft =>
    rw [run_reterrIf_bind] at h
    split at h
    · cases h
    · simp only [run_modify_bind, run_pure, EStateM.Result.ok.injEq] at h
      exact ⟨ft, hft, ‹_›, h.1, h.2.symm⟩
  · cases h

theorem getSubsetGlyph_run_of_findGlyph (hf : Prog.getI? d.fonts fid = some ft)
    (hc : env.ftGetCharIndex ft.ttf glyph ≠ 0) (hs : ft.subsets.findGlyph glyph = some info) :
    (getSubsetGlyph env fid glyph).run d = .ok info d := by
  have hget : ft.subsets.getGlyphSubset glyph = (info, ft.subsets) := by
    simp [FontSubsetter.getGlyphSubset, hs]
  simp only [PdfDocument.getSubsetGlyph, run_get_bind, run_at!_bind, hf, run_reterrIf_bind, hc,
    if_false, hget, run_modify_bind, run_pure]
  rw [set_of_getElem? (getI?_eq_some_iff.mp hf).2]
  rfl

theorem BuiltinFontsNamed.getBuiltinFontId (h : d.BuiltinFontsNamed) (font : BuiltinFont) :
    ((getBuiltinFontId font).run d).state.BuiltinFontsNamed := by
  rw [getBuiltinFontId_run]
  split
  · exact h
  · intro g m hg
    simp only [EStateM.Result.state_ok, insertBuiltinFont_builtinFonts, UMap.find?_insert] at hg
    split at hg
    · next hfg =>
      cases hg
      subst hfg
      exact ⟨d.documentObjects.length, by simp, by simp⟩
    · have ⟨obj, hfo, hobj⟩ := h g m hg
      exact ⟨obj, getElem?_of_isPrefix (List.prefix_append _ _) hfo,
        getElem?_of_isPrefix (List.prefix_append _ _) hobj⟩

theorem BuiltinFontsNamed.of_grows (h : d.BuiltinFontsNamed) (hmap : d'.builtinFonts = d.builtinFonts)
    (hfo : d.fontObjects <+: d'.fontObjects) (hobj : d.documentObjects <+: d'.documentObjects) :
    d'.BuiltinFontsNamed := fun font n hf =>
  have ⟨obj, h₁, h₂⟩ := h font n (hmap ▸ hf)
  ⟨obj, getElem?_of_isPrefix hfo h₁, getElem?_of_isPrefix hobj h₂⟩

end PdfDocument

open PdfDocument in
theorem Registry.along_builtinFontsNamed (r : Registry) (hr : r ≠ .builtinFonts) :
    r.Along (Preserves BuiltinFontsNamed) := by
  cases r
  case builtinFonts => exact absurd rfl hr
  case fontObjects => exact fun _ _ h => h.of_grows rfl (List.prefix_append _ _) (List.prefix_refl _)
  case entries => exact fun _ _ _ h => h.of_grows rfl (List.prefix_refl _) (List.prefix_append _ _)
  all_goals simp only [Registry.Along, Preserves]; (repeat' constructor) <;> intros <;> assumption

end CapyPdf
