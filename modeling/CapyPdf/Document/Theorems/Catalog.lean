import CapyPdf.Document.Theorems.Numbering.Catalog

namespace CapyPdf

namespace PdfDocument

variable {d d' : PdfDocument}

structure StructKept (d d' : PdfDocument) : Prop where
  grows : d.documentObjects <+: d'.documentObjects
  items : d'.structureItems = d.structureItems
  root : d'.structureRootObject = d.structureRootObject

instance : IsPreorder PdfDocument StructKept where
  refl _ := ⟨List.prefix_refl _, rfl, rfl⟩
  trans _ _ _ h₁ h₂ := ⟨h₁.grows.trans h₂.grows, h₂.items.trans h₁.items, h₂.root.trans h₁.root⟩

theorem AppendsDicts.structKept (h : AppendsDicts d d') : StructKept d d' := by
  obtain ⟨os, rfl⟩ := h
  exact ⟨List.prefix_append _ _, rfl, rfl⟩

inductive ParentChain (items : List StructItem) : Nat → Nat → Prop
  | refl (i : Nat) : ParentChain items i i
  | parent {i p k : Nat} {s : StructItem} :
      items[i]? = some s → s.parent = some (p : Int) → ParentChain items p k → ParentChain items i k

theorem ParentChain.eq_of_parent_none {items : List StructItem} {i k : Nat} {s : StructItem}
    (hi : items[i]? = some s) (hp : s.parent = none) : ParentChain items i k → i = k
  | .refl _ => rfl
  | .parent hi' hp' _ => by
    rw [hi] at hi'
    cases hi'
    rw [hp] at hp'
    cases hp'

def ParentsEarlier (items : List StructItem) : Prop :=
  ∀ (i : Nat) (s : StructItem) (p : Int), items[i]? = some s → s.parent = some p → 0 ≤ p ∧ p < i

theorem ParentsEarlier.nil : ParentsEarlier [] :=
  fun _ _ _ hi => by simp at hi

theorem ParentsEarlier.concat {items : List StructItem} {s : StructItem} (h : ParentsEarlier items)
    (hs : ∀ p, s.parent = some p → 0 ≤ p ∧ p < items.length) : ParentsEarlier (items ++ [s]) := by
  intro i s' p hi hp
  rcases List.getElem?_concat_eq_some hi with hi | ⟨rfl, rfl⟩
  exacts [h i s' p hi hp, hs p hp]

theorem ParentsEarlier.chain_top {items : List StructItem} (h : ParentsEarlier items) (j : Nat)
    (hj : j < items.length) :
    ∃ k ≤ j, ∃ s, items[k]? = some s ∧ s.parent = none ∧ ParentChain items j k := by
  induction j using Nat.strong_induction_on with
  | _ j ih =>
    have hs := List.getElem?_eq_getElem hj
    cases hp : items[j].parent with
    | none => exact ⟨j, le_rfl, _, hs, hp, .refl j⟩
    | some p =>
      obtain ⟨h0, hpj⟩ := h j _ p hs hp
      obtain ⟨k, hk, s, hks, hkp, hc⟩ := ih p.toNat (by omega) (by omega)
      exact ⟨k, by omega, s, hks, hkp, .parent hs (by rw [hp, Int.toNat_of_nonneg h0]) hc⟩

-- The spec's structure root up to its /K array, which holds the one object root.
def structRootHead (root : Nat) : String :=
  "<<\n  /Type /StructTreeRoot\n  /K [ " ++ (toString root ++ " 0 R") ++ " ]\n"

variable (env : Env)

theorem createStructureRootDict_run_ok (h : (createStructureRootDict env).run d = .ok () d') :
    ∃ k s rest, d.structureItems.findIdx? (·.parent.isNone) = some k ∧ d.structureItems[k]? = some s ∧
      d' = (d.pushObject (.fullPDFObject (structRootHead s.objId ++ rest) [])).setStructureRootObject
        d.documentObjects.length := by
  cases hp : d.structureParentTreeObject with
  | none => simp [PdfDocument.createStructureRootDict, hp, Prog.someOrThrow] at h
  | some pt =>
  cases hk : d.structureItems.findIdx? (·.parent.isNone) with
  | none => simp [PdfDocument.createStructureRootDict, hp, hk, Prog.someOrThrow] at h
  | some k =>
  obtain ⟨hlt, -⟩ := List.findIdx?_eq_some_iff_findIdx_eq.mp hk
  simp only [PdfDocument.createStructureRootDict, addObject, run_get_bind, run_someOrThrow_bind, hp,
    run_assert_bind, hk, Option.isSome_some, if_true, run_modifyGet_bind, run_modify,
    EStateM.Result.ok.injEq] at h
  obtain ⟨-, rfl⟩ := h
  exact ⟨k, _, _, rfl, List.getElem?_eq_getElem hlt, by
    rw [show (" ]\n  /ParentTree " : String) = " ]\n" ++ "  /ParentTree " from rfl]
    simp only [Option.getD_some, List.getD_eq_getElem?_getD, List.getElem?_eq_getElem hlt, structRootHead,
      String.append_assoc, refText_natCast]
    rfl⟩

theorem createCatalog_root (h : (createCatalog env).run d = .ok () d') (hne : d.structureItems ≠ []) :
    ∃ k s r rest, d.structureItems.findIdx? (·.parent.isNone) = some k ∧
      d.structureItems[k]? = some s ∧ d'.structureRootObject = some r ∧
      d'.documentObjects[r]? = some (.fullPDFObject (structRootHead s.objId ++ rest) []) := by
  have kept : ∀ {α : Type} {x : DocM α}, Moves AppendsDicts x → Moves StructKept x :=
    fun hx d => (hx d).structKept
  unfold createCatalog at h
  rw [run_get_bind] at h
  obtain ⟨_, d₁, h₁, h⟩ := run_bind_eq_ok _ h
  obtain ⟨_, d₂, h₂, h⟩ := run_bind_eq_ok _ h
  obtain ⟨_, d₃, h₃, h⟩ := run_bind_eq_ok _ h
  have k₁ : StructKept d d₁ :=
    (Moves.ite _ (.pure _) (.bind (kept Moves.createNameDict) fun _ => .pure _)).of_run_ok h₁
  have k₂ : StructKept d₁ d₂ :=
    (Moves.ite _ (.pure _) (.bind (kept (Moves.createOutlines env)) fun _ => .pure _)).of_run_ok h₂
  rw [if_neg (by simpa using hne)] at h₃
  obtain ⟨t, d₄, h₄, h₃⟩ := run_bind_eq_ok _ h₃
  have k₄ : StructKept d₂ d₄ := (kept Moves.createStructureParentTree).of_run_ok h₄
  rw [run_modify_bind] at h₃
  obtain ⟨_, d₅, h₅, h₃⟩ := run_bind_eq_ok _ h₃
  simp only [run_get_bind, run_pure, EStateM.Result.ok.injEq] at h₃
  obtain ⟨-, rfl⟩ := h₃
  simp only [run_get_bind, run_discard, addObject, run_modifyGet, EStateM.Result.ok.injEq] at h
  obtain ⟨-, rfl⟩ := h
  obtain ⟨k, s, rest, hk, hs, rfl⟩ := createStructureRootDict_run_ok env h₅
  have hitems : d₄.structureItems = d.structureItems := k₄.items.trans (k₂.items.trans k₁.items)
  rw [setStructureParentTreeObject_structureItems, hitems] at hk hs
  refine ⟨k, s, _, rest, hk, hs, rfl, ?_⟩
  simp only [pushObject_documentObjects, setStructureRootObject_documentObjects,
    setStructureParentTreeObject_documentObjects]
  rw [List.getElem?_append_left (by simp), List.getElem?_concat_length]

end PdfDocument

end CapyPdf
