import CapyPdf.Document.Theorems.Outlines
import CapyPdf.Execution.Op

namespace CapyPdf

namespace PdfDocument

variable (env : Env)

theorem createOutlines_links (d : PdfDocument) (items : List Outline)
    (hout : d.outlines = buildOutlines items) (hne : items ≠ [])
    (hpar : ∀ (i : Nat) (o : Outline) (p : Int), items[i]? = some o → o.parent = some p → 0 ≤ p ∧ p < i)
    (hdest : ∀ o ∈ items, ∃ page, Prog.getI? d.pages o.dest = some page) :
    (createOutlines env).run d = .ok (d.documentObjects.length + items.length)
      (d.pushDicts ((items.enum.map fun io =>
          (outlineText env d.pages items d.documentObjects.length io.1 io.2, [])) ++
        [(outlinesDictText items d.documentObjects.length, [])])) := by
  have hpar' : ∀ o ∈ items, ∀ p, o.parent = some p → 0 ≤ p := fun o ho p hp => by
    obtain ⟨i, hi⟩ := List.mem_iff_getElem?.mp ho
    exact (hpar i o p hi hp).1
  have htop : childrenOf items (-1) ≠ [] := by
    obtain ⟨o, rest, rfl⟩ := List.exists_cons_of_ne_nil hne
    have hp : o.parent = none := by
      cases hp : o.parent with
      | none => rfl
      | some p => have := hpar 0 o p (List.getElem?_cons_zero ..) hp; omega
    simp only [childrenOf, ne_eq, List.filter_eq_nil_iff, not_forall, not_not]
    exact ⟨0, by simp, by simp [Outline.parentKey, hp]⟩
  have hloop := addOutlineItems_run env hout hdest hpar' d.documentObjects.length items 0 d rfl
  simp only [createOutlines, run_get_bind, hout, items_buildOutlines]
  rw [run_bind, hloop]
  dsimp only
  rw [find?_children_buildOutlines, if_neg htop]
  rcases hc : childrenOf items (-1) with _ | ⟨c, cs⟩
  · exact absurd hc htop
  simp only [run_someOrThrow_bind, run_get_bind, run_assert_bind]
  rw [if_pos (by simp [hout]), addObject, run_modifyGet]
  simp [hc, outlinesDictText, pushDicts, pushObject, getLast?_map_cast_getD, List.enum,
    refText_natCast_add]

theorem createOutlines_links_forest :
    let items : List Outline := [⟨"a", 0, none⟩, ⟨"b", 0, some 0⟩, ⟨"c", 0, some 0⟩, ⟨"d", 0, none⟩]
    let d : PdfDocument := { PdfDocument.new 0 {} {} with
      documentObjects := List.replicate 7 .dummyIndexZero, pages := [⟨4, 5, 6⟩],
      outlines := buildOutlines items }
    d.outlines = buildOutlines items ∧ items ≠ [] ∧
      (∀ (i : Nat) (o : Outline) (p : Int), items[i]? = some o → o.parent = some p → 0 ≤ p ∧ p < i) ∧
      (∀ o ∈ items, ∃ page, Prog.getI? d.pages o.dest = some page) ∧
      (createOutlines Env.minimal).run d = .ok (d.documentObjects.length + items.length)
        (d.pushDicts ((items.enum.map fun io =>
            (outlineText Env.minimal d.pages items d.documentObjects.length io.1 io.2, [])) ++
          [(outlinesDictText items d.documentObjects.length, [])])) ∧
      items.enum.map (fun io => outlineText Env.minimal d.pages items 7 io.1 io.2) =
        ["<<\n  /Title ()\n  /Dest [ 6 0 R /XYZ null null null]\n  /Next 10 0 R\n  /First 8 0 R\n" ++
            "  /Last 9 0 R\n  /Count -2\n  /Parent 11 0 R\n>>",
          "<<\n  /Title ()\n  /Dest [ 6 0 R /XYZ null null null]\n  /Next 9 0 R\n  /Parent 7 0 R\n>>",
          "<<\n  /Title ()\n  /Dest [ 6 0 R /XYZ null null null]\n  /Prev 8 0 R\n  /Parent 7 0 R\n>>",
          "<<\n  /Title ()\n  /Dest [ 6 0 R /XYZ null null null]\n  /Prev 7 0 R\n  /Parent 11 0 R\n>>"] ∧
      outlinesDictText items 7 = "<<\n  /Type /Outlines\n  /First 7 0 R\n  /Last 10 0 R\n  /Count 2\n>>\n" :=
  let items : List Outline := [⟨"a", 0, none⟩, ⟨"b", 0, some 0⟩, ⟨"c", 0, some 0⟩, ⟨"d", 0, none⟩]
  have hne : items ≠ [] := List.cons_ne_nil _ _
  have hpar : ∀ (i : Nat) (o : Outline) (p : Int), items[i]? = some o → o.parent = some p →
      0 ≤ p ∧ p < i := fun i o p hi hp => by
    rcases i with _ | _ | _ | _ | i <;> simp [items] at hi <;> subst hi <;> cases hp <;> omega
  have hdest : ∀ o ∈ items, ∃ page, Prog.getI? [(⟨4, 5, 6⟩ : PageOffsets)] o.dest = some page :=
    fun o ho => by
      simp only [items, List.mem_cons, List.not_mem_nil, or_false] at ho
      rcases ho with rfl | rfl | rfl | rfl <;> exact ⟨_, rfl⟩
  ⟨rfl, hne, hpar, hdest, createOutlines_links Env.minimal _ items rfl hne hpar hdest, by decide,
    by decide⟩

theorem addOutline_unchecked :
    (∀ (d : PdfDocument) (title : String) (dest : Int) (parent : Option Int),
      (addOutline title dest parent).run d =
        .ok d.outlines.items.length (d.setOutlines (d.outlines.add ⟨title, dest, parent⟩))) ∧
    ∀ (d : PdfDocument) (items : List Outline), d.outlines = buildOutlines items →
      (∀ o ∈ items, o.parentKey ≠ -1) → ∃ e d', (createOutlines env).run d = .error e d' := by
  refine ⟨addOutline_run, fun d items hout htop => ?_⟩
  have hnil : childrenOf items (-1) = [] := by
    refine List.filter_eq_nil_iff.mpr fun i hi h => ?_
    have ho := List.getElem?_eq_getElem (List.mem_range.mp hi)
    simp only [ho, Option.map_some', Option.some.injEq, decide_eq_true_eq] at h
    exact htop _ (List.getElem_mem _) h
  simp only [createOutlines, run_get_bind]
  rw [run_bind]
  split
  · rw [hout, find?_children_buildOutlines, if_pos hnil]
    exact ⟨_, _, rfl⟩
  · exact ⟨_, _, rfl⟩

theorem addOutline_unchecked_own_parent :
    let d := PdfDocument.new 0 {} {}
    let d₁ := d.setOutlines (d.outlines.add ⟨"", 0, some 0⟩)
    (addOutline "" 0 (some 0)).run d = .ok 0 d₁ ∧ d₁.outlines = buildOutlines [⟨"", 0, some 0⟩] ∧
      ∃ e d', (createOutlines Env.minimal).run d₁ = .error e d' :=
  ⟨(addOutline_unchecked Env.minimal).1 _ _ _ _, rfl,
    (addOutline_unchecked Env.minimal).2 _ [⟨"", 0, some 0⟩] rfl fun o ho => by
      rw [List.mem_singleton.mp ho]
      decide⟩

end PdfDocument

end CapyPdf
