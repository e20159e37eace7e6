import CapyPdf.Document.Theorems.Numbering.Init
import CapyPdf.Document.Page
import CapyPdf.Document.Pattern

namespace CapyPdf

open PdfDocument

variable (env : Env)

theorem Moves.ocgObjectNumber {R : PdfDocument → PdfDocument → Prop} [IsPreorder PdfDocument R]
    (id : Int) : Moves R (ocgObjectNumber id) :=
  .bind .get fun _ => .at! _ _

theorem Moves.addNavNodes (firstObj : Nat) (ocgs : List Nat) :
    ∀ i subnav, Moves AppendsDicts (addNavNodes env firstObj ocgs i subnav)
  | _, [] => .pure _
  | _, _ :: rest => .bind (.map _ (.addObject_dict _ _)) fun _ => Moves.addNavNodes firstObj ocgs _ rest

theorem Moves.createSubnavigation (subnav : List SubPageNavigation) :
    Moves AppendsDicts (createSubnavigation env subnav) :=
  .bind (.assert _) fun _ => .bind .get fun _ => .bind (.listMapM (fun _ => .ocgObjectNumber _) _)
    fun _ => .bind (.map _ (.addObject_dict _ _)) fun _ => .bind .get fun _ =>
      .bind (.addNavNodes env _ _ _ _) fun _ => .bind (.map _ (.addObject_dict _ _)) fun _ => .pure _

theorem createSubnavigation_root {subnav : List SubPageNavigation} {d d' : PdfDocument} {root : Nat}
    (h : (createSubnavigation env subnav).run d = .ok root d') :
    d'.Designates root (.head "<<\n  /Type /NavNode\n") := by
  simp only [PdfDocument.createSubnavigation, addObject, run_assert_bind, run_get_bind,
    run_discard] at h
  split at h
  · rw [run_bind] at h
    split at h
    · next ocgs s hm =>
      have hs : d = s := (Moves.listMapM (R := Eq) (fun _ => .ocgObjectNumber _) _).of_run_ok hm
      subst hs
      simp only [run_bind, run_discard, run_modifyGet, run_get, run_pure] at h
      split at h
      · next hn =>
        obtain ⟨os, rfl⟩ := (Moves.addNavNodes env _ _ _ _).of_run_ok hn
        simp only [EStateM.Result.ok.injEq] at h
        obtain ⟨rfl, rfl⟩ := h
        refine .pushObject ((designates_pushDicts_of_lt (by simp)).mpr
          (designates_pushObject_length ?_)) _
        (repeat' apply Begins.append); decide
      · cases h
    · cases h
  · cases h

theorem subnavRoot_ok {subnav : List SubPageNavigation} {d d' : PdfDocument} {root : Option Nat}
    (h : (if subnav.isEmpty then pure none else some <$> createSubnavigation env subnav :
      DocM (Option Nat)).run d = .ok root d') :
    AppendsDicts d d' ∧ ∀ n ∈ root, d'.Designates n (.head "<<\n  /Type /NavNode\n") := by
  split at h
  · cases h
    exact ⟨refl_of _ _, by simp⟩
  · rw [run_map] at h
    split at h
    · next r s hr =>
      cases h
      exact ⟨(Moves.createSubnavigation env subnav).of_run_ok hr,
        by simpa using createSubnavigation_root env hr⟩
    · cases h

theorem Moves.addPage (rd ud cs : String) (fws annots structs : List Int)
    (tr : Option Transition) (subnav : List SubPageNavigation) :
    Moves Continues (addPage env rd ud cs fws annots structs tr subnav) := by
  intro d h
  simp only [PdfDocument.addPage, addObject_ite, run_get_bind]
  rw [run_reterrIf_bind]
  split
  · exact .refl h
  rw [run_reterrIf_bind]
  split
  · exact .refl h
  rw [run_reterrIf_bind]
  split
  · exact .refl h
  simp only [addObject, run_modifyGet_bind]
  set d₁ := (d.pushObject (.fullPDFObject rd [])).pushObject (if d.opts.compressStreams then
    .deflatePDFObject ud (textBytes cs) else .fullPDFObject (ud ++ "  /Length " ++
      toString (textBytes cs).length ++ "\n>>\n") (textBytes cs)) with hd₁
  have h₁ : d.Extends d₁ :=
    ⟨by simp [d₁], (h.pushObject (by simp) (by simp [ObjectType.links])).pushObject
      (by split <;> simp) (by split <;> simp [ObjectType.links])⟩
  -- Inside `Moves.addPage`, `pure` and `createSubnavigation` would name the lemmas of `Moves`.
  have hstep : Moves AppendsDicts (if subnav.isEmpty = true then Pure.pure none else
      some <$> PdfDocument.createSubnavigation env subnav) :=
    .ite _ (.pure _) (.map _ (.createSubnavigation env subnav))
  rw [run_bind]
  cases hsub : EStateM.run (if subnav.isEmpty = true then Pure.pure none else
      some <$> PdfDocument.createSubnavigation env subnav) d₁ with
  | error e s₂ => exact h₁.trans_continues ((hstep.of_run_error hsub).continues)
  | ok root s₂ =>
    obtain ⟨⟨os, rfl⟩, hroot⟩ := subnavRoot_ok env hsub
    have h₂ := h₁.numbered.pushDicts os
    simp only [run_bind, run_ite, run_pure, run_get, run_modify, run_modifyGet]
    cases structs.isEmpty <;> simp only [Bool.false_eq_true, ↓reduceIte, EStateM.Result.state_ok]
    · exact ⟨by simp [d₁], ((h₂.pushStructureParentTreeItems structs).pushObject (by simp)
        (ObjectType.links_delayedPage fun n hn =>
          designates_pushStructureParentTreeItems.mpr (hroot n hn))).registerPage
        (by simp [d₁]) (by simp [d₁]) (by simp [d₁]; split <;> simp; exact ⟨ud, rfl⟩)⟩
    · exact ⟨by simp [d₁], (h₂.pushObject (by simp) (ObjectType.links_delayedPage hroot)).registerPage
        (by simp [d₁]) (by simp [d₁]) (by simp [d₁]; split <;> simp; exact ⟨ud, rfl⟩)⟩

end CapyPdf
