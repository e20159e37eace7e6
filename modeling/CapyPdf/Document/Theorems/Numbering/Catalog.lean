import CapyPdf.Document.Theorems.Numbering.Init
import CapyPdf.Document.Catalog

namespace CapyPdf

open PdfDocument

variable (env : Env)

theorem Moves.createNameDict : Moves AppendsDicts createNameDict :=
  .bind .get fun _ => .bind (.assert _) fun _ => .addObject_dict _ _

-- The parent tree's entries and the outline items' texts only read the document.

theorem Moves.parentTreeEntry {R : PdfDocument → PdfDocument → Prop} [IsPreorder PdfDocument R]
    (items : List StructItem) (i : Nat) (entry : List Int) :
    Moves R (parentTreeEntry items i entry) :=
  .bind (.listMapM (fun _ => .bind (.at! _ _) fun _ => .pure _) _) fun _ => .pure _

theorem Moves.outlineItem {R : PdfDocument → PdfDocument → Prop} [IsPreorder PdfDocument R]
    (d : PdfDocument) (firstObjNum catalogObjNum curId : Nat) (cur : Outline) :
    Moves R (outlineItem env d firstObjNum catalogObjNum curId cur) :=
  .bind (.someOrThrow _ _) fun _ => .bind (.someOrThrow _ _) fun _ => .bind (.at! _ _) fun _ =>
    .bind (.ite _ (.bind (.assert _) fun _ => .pure _) (.pure _)) fun _ => .pure _

theorem Moves.createStructureParentTree : Moves AppendsDicts createStructureParentTree :=
  .bind .get fun _ => .bind (.listMapM (fun _ => .parentTreeEntry _ _ _) _) fun _ =>
    .addObject_dict _ _

theorem createStructureParentTree_ok {d d' : PdfDocument} {n : Nat}
    (h : createStructureParentTree.run d = .ok n d') : d'.Designates n (.head "<< /Nums [\n") := by
  simp only [PdfDocument.createStructureParentTree, run_get_bind] at h
  rw [run_bind] at h
  split at h
  · next es s hm =>
    have hs : d = s := (Moves.listMapM (R := Eq) (fun _ => .parentTreeEntry _ _ _) _).of_run_ok hm
    subst hs
    simp only [addObject, run_modifyGet, EStateM.Result.ok.injEq] at h
    obtain ⟨rfl, rfl⟩ := h
    exact designates_pushObject_length (by (repeat' apply Begins.append); decide)
  · cases h

theorem Moves.createStructureRootDict : Moves Continues (createStructureRootDict env) := by
  intro d h
  simp only [PdfDocument.createStructureRootDict, addObject, run_get_bind, run_someOrThrow_bind,
    run_assert_bind, run_modifyGet_bind, run_modify]
  repeat' split
  all_goals try simp only [EStateM.Result.state_error, EStateM.Result.state_ok]
  all_goals try with_reducible exact .refl h
  all_goals exact ⟨by simp, (h.pushObject (by simp) (by simp [ObjectType.links])).setStructureRootObject
    (designates_pushObject_length (Role.holds_head.mpr (by (repeat' apply Begins.append); decide)))⟩

theorem Moves.addOutlineItems (d : PdfDocument) (firstObjNum catalogObjNum : Nat) :
    ∀ curId items, Moves AppendsDicts (addOutlineItems env d firstObjNum catalogObjNum curId items)
  | _, [] => .pure _
  | _, _ :: rest => .bind (.outlineItem env _ _ _ _ _) fun _ =>
      .bind (.map _ (.addObject_dict _ _)) fun _ => Moves.addOutlineItems d firstObjNum catalogObjNum _ rest

theorem Moves.createOutlines : Moves AppendsDicts (createOutlines env) :=
  .bind .get fun _ => .bind (.addOutlineItems env _ _ _ _ _) fun _ => .bind (.someOrThrow _ _)
    fun _ => .bind .get fun _ => .bind (.assert _) fun _ => .addObject_dict _ _

theorem Moves.createCatalog : Moves Continues (createCatalog env) := by
  unfold PdfDocument.createCatalog
  refine .bind .get fun _ => .bind (.ite _ (.pure _) (.bind (Moves.createNameDict.continues) fun _ =>
    .pure _)) fun _ => .bind (.ite _ (.pure _) (.bind (Moves.createOutlines env).continues fun _ =>
      .pure _)) fun _ => .bind (.ite _ (.pure _) ?_) fun _ => .bind .get fun _ =>
        .map _ (Moves.addObject_dict _ _).continues
  -- The structure tree: the parent tree, whose number is recorded, then the root dictionary.
  intro d h
  rw [run_bind]
  split
  · next n s hr =>
    have hs := (Moves.createStructureParentTree.of_run_ok hr).continues h
    rw [run_modify_bind]
    exact (hs.trans (.of_objects_eq (hs.numbered.setStructureParentTreeObject
      (createStructureParentTree_ok hr)) rfl)).trans_continues
      ((Moves.createStructureRootDict env).bind (fun _ => .bind .get fun _ => .pure _) _)
  · next e s hr => exact (Moves.createStructureParentTree.of_run_error hr).continues h

end CapyPdf
