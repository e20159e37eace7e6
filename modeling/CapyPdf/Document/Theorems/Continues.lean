import CapyPdf.Basic.Moves
import CapyPdf.Document.Init
import CapyPdf.Objects.Theorems.Table

namespace CapyPdf

namespace PdfDocument

variable {d d' d₁ d₂ d₃ : PdfDocument} {n : Nat} {r : Role}

theorem Designates.mono (hp : d.documentObjects <+: d'.documentObjects) (h : d.Designates n r) :
    d'.Designates n r := by
  obtain ⟨t, ht⟩ := hp
  obtain ⟨o, ho, hr⟩ := h
  exact ⟨o, by rw [← ht, List.getElem?_append_left (List.getElem?_eq_some_iff.mp ho).1, ho], hr⟩

structure Extends (d d' : PdfDocument) : Prop where
  grows : d.documentObjects <+: d'.documentObjects
  numbered : d'.Numbered

theorem Extends.refl (h : d.Numbered) : d.Extends d :=
  ⟨List.prefix_refl _, h⟩

theorem Extends.of_objects_eq (h : d'.Numbered) (hobj : d'.documentObjects = d.documentObjects) :
    d.Extends d' :=
  ⟨hobj ▸ List.prefix_refl _, h⟩

theorem Extends.trans (h₁ : d₁.Extends d₂) (h₂ : d₂.Extends d₃) : d₁.Extends d₃ :=
  ⟨h₁.grows.trans h₂.grows, h₂.numbered⟩

def Continues (d d' : PdfDocument) : Prop :=
  d.Numbered → d.Extends d'

theorem Extends.trans_continues (h₁ : d₁.Extends d₂) (h₂ : Continues d₂ d₃) : d₁.Extends d₃ :=
  h₁.trans (h₂ h₁.numbered)

instance : IsPreorder PdfDocument Continues where
  refl _ h := .refl h
  trans _ _ _ h₁ h₂ h := (h₁ h).trans (h₂ (h₁ h).numbered)

@[simps] def pushDicts (d : PdfDocument) (os : List (String × Bytes)) : PdfDocument :=
  { d with documentObjects := d.documentObjects ++ os.map fun o => .fullPDFObject o.1 o.2 }

@[simp] theorem pushDicts_nil : d.pushDicts [] = d := by
  simp [pushDicts]

@[simp] theorem pushDicts_pushDicts (os₁ os₂ : List (String × Bytes)) :
    (d.pushDicts os₁).pushDicts os₂ = d.pushDicts (os₁ ++ os₂) := by
  simp [pushDicts]

@[simp] theorem designates_pushDicts_of_lt {os : List (String × Bytes)}
    (hn : n < d.documentObjects.length) : (d.pushDicts os).Designates n r ↔ d.Designates n r := by
  simp [Designates, List.getElem?_append_left hn]

theorem pushDicts_cons (o : String × Bytes) (os : List (String × Bytes)) :
    d.pushDicts (o :: os) = (d.pushObject (.fullPDFObject o.1 o.2)).pushDicts os := by
  simp [pushDicts, pushObject]

theorem Numbered.pushDicts (h : d.Numbered) (os : List (String × Bytes)) :
    (d.pushDicts os).Numbered := by
  induction os generalizing d with
  | nil => simpa
  | cons o os ih =>
    exact pushDicts_cons o os ▸ ih (h.pushObject (by simp) (by simp [ObjectType.links]))

def AppendsDicts (d d' : PdfDocument) : Prop :=
  ∃ os, d' = d.pushDicts os

instance : IsPreorder PdfDocument AppendsDicts where
  refl _ := ⟨[], by simp⟩
  trans _ _ _ := fun ⟨os₁, h₁⟩ ⟨os₂, h₂⟩ => ⟨os₁ ++ os₂, by simp [h₁, h₂]⟩

theorem AppendsDicts.continues (h : AppendsDicts d d') : Continues d d' := by
  obtain ⟨os, rfl⟩ := h
  exact fun hn => ⟨by simp, hn.pushDicts os⟩

end PdfDocument

open PdfDocument

variable {α : Type} {x : DocM α}

theorem Moves.continues (h : Moves AppendsDicts x) : Moves Continues x :=
  fun d => (h d).continues

theorem addObject_ite (c : Prop) [Decidable c] (a b : ObjectType) :
    (if c then addObject a else addObject b) = addObject (if c then a else b) := by
  split <;> rfl

theorem Moves.addObject_dict (dict : String) (stream : Bytes) :
    Moves AppendsDicts (addObject (.fullPDFObject dict stream)) :=
  Moves.modifyGet fun _ => ⟨[(dict, stream)], rfl⟩

end CapyPdf
