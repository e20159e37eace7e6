import CapyPdf.Document.Theorems.Pages.Use

namespace CapyPdf

namespace PdfDocument

variable {d d' : PdfDocument}

def structObj (d : PdfDocument) (x : Int) : Nat :=
  ((Prog.getI? d.structureItems x).map (·.objId)).getD 0

-- The spec's parent tree: under each key, in increasing order, the objects of its structure items.
def parentTreeText (d : PdfDocument) : String :=
  "<< /Nums [\n" ++ String.join (d.structureParentTreeItems.enum.map fun (k, items) =>
    "  " ++ toString k ++ " [\n" ++
      String.join (items.map fun x => "    " ++ (toString (d.structObj x) ++ " 0 R") ++ "\n") ++
      "  ]\n") ++
    "] >>\n"

theorem createStructureParentTree_run
    (hv : ∀ items ∈ d.structureParentTreeItems, ∀ x ∈ items,
      (Prog.getI? d.structureItems x).isSome) :
    createStructureParentTree.run d =
      .ok d.documentObjects.length (d.pushObject (.fullPDFObject d.parentTreeText [])) := by
  have hentry : ∀ e ∈ d.structureParentTreeItems.enum,
      (parentTreeEntry d.structureItems e.1 e.2).run d = .ok ("  " ++ toString e.1 ++ " [\n" ++
        String.join (e.2.map fun x => "    " ++ refText (d.structObj x) ++ "\n") ++ "  ]\n") d := by
    rintro ⟨k, items⟩ hk
    have hitems := hv items (List.mem_iff_getElem?.mpr ⟨k, List.mem_enum_iff_getElem?.mp hk⟩)
    unfold parentTreeEntry
    rw [run_bind, run_listMapM_ok (g := fun x => "    " ++ refText (d.structObj x) ++ "\n")]
    · rfl
    · intro x hx
      obtain ⟨it, hit⟩ := Option.isSome_iff_exists.mp (hitems x hx)
      simp [Prog.at!, hit, structObj]
  simp only [createStructureParentTree, run_get_bind]
  rw [run_bind, run_listMapM_ok _ hentry]
  rfl

variable (env : Env)

theorem createStructureRootDict_nextKey (h : (createStructureRootDict env).run d = .ok () d') :
    ∃ (root pt : Nat) (post : String), d.structureParentTreeObject = some pt ∧
      d'.documentObjects = d.documentObjects ++ [.fullPDFObject ("<<\n  /Type /StructTreeRoot\n  /K [ " ++
        (toString root ++ " 0 R") ++ " ]\n  /ParentTree " ++ (toString pt ++ " 0 R") ++
        "\n  /ParentTreeNextKey " ++ toString d.structureParentTreeItems.length ++ "\n" ++ post) []] := by
  cases hp : d.structureParentTreeObject with
  | none => simp [PdfDocument.createStructureRootDict, hp, Prog.someOrThrow] at h
  | some pt =>
  cases hb : (d.structureItems.findIdx? (·.parent.isNone)).isSome with
  | false => simp [PdfDocument.createStructureRootDict, hp, hb, Prog.someOrThrow] at h
  | true =>
  simp only [PdfDocument.createStructureRootDict, addObject, run_get_bind, run_someOrThrow_bind, hp,
    run_assert_bind, hb, if_true, run_modifyGet_bind, run_modify, EStateM.Result.ok.injEq] at h
  obtain ⟨-, rfl⟩ := h
  exact ⟨_, pt, _, rfl, by
    simp only [setStructureRootObject_documentObjects, pushObject_documentObjects, String.append_assoc,
      refText_natCast]
    rfl⟩

end PdfDocument

end CapyPdf
