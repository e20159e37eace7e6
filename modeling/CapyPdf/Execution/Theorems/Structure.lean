import CapyPdf.Document.Theorems.Catalog
import CapyPdf.Execution.Theorems.Numbering
import CapyPdf.Execution.Theorems.Pages

namespace CapyPdf

open PdfDocument

variable (env : Env) {d : PdfDocument}

theorem PdfDocument.Numbered.structItem_objId_inj (h : d.Numbered) {i j : Nat} {si sj : StructItem}
    (hi : d.structureItems[i]? = some si) (hj : d.structureItems[j]? = some sj)
    (he : si.objId = sj.objId) : i = j := by
  obtain ⟨o, ho, hr⟩ := h.records (p := .structItem) ⟨i, si, hi, rfl, rfl⟩
  obtain ⟨o', ho', hr'⟩ := h.records (p := .structItem) ⟨j, sj, hj, he.symm, rfl⟩
  rw [ho] at ho'
  cases ho'
  cases o
  case delayedStructItem => exact (Role.holds_structItem.mp hr).symm.trans (Role.holds_structItem.mp hr')
  all_goals exact (hr : False).elim

theorem PdfDocument.ParentsEarlier.addStructureItem (h : ParentsEarlier d.structureItems)
    (stype : StructureItemType) (parent : Option Int) :
    ParentsEarlier ((addStructureItem stype parent).run d).state.structureItems := by
  cases parent
  all_goals simp only [PdfDocument.addStructureItem, addObject, run_get_bind, Option.forM,
    run_pure_bind, run_checkIndexness_bind, run_modifyGet_bind, run_modify_bind, run_pure]
  · exact h.concat fun p hp => by cases hp
  · split
    · exact h
    · next hp => exact h.concat fun q hq => by cases hq; omega

theorem Reachable.parentsEarlier (h : Reachable env d) : ParentsEarlier d.structureItems := by
  induction h with
  | init hi =>
    rw [((Moves.init_kept env).of_run_ok hi).items]
    exact .nil
  | @step d op _ ih =>
    cases op
    case addPage => simpa only [Op.exec, state_run_seqRight_pure, addPage_structureItems] using ih
    case addStructureItem =>
      simpa only [Op.exec, state_run_seqRight_pure] using ih.addStructureItem _ _
    all_goals exact (congrArg ParentsEarlier (Op.exec_frameKept env _ rfl rfl d).items).mpr ih

theorem reachable_structure_forest (h : Reachable env d) :
    (∀ (i : Nat) (s : StructItem) (p : Int), d.structureItems[i]? = some s → s.parent = some p →
      0 ≤ p ∧ p < i) ∧
    ∀ j < d.structureItems.length, ∃ k ≤ j, ∃ s, d.structureItems[k]? = some s ∧
      s.parent = none ∧ ParentChain d.structureItems j k :=
  have hp := h.parentsEarlier
  ⟨hp, hp.chain_top⟩

theorem reachable_structure_forest_child :
    let d := ((Op.addStructureItem (.builtin 0) (some 0)).exec Env.minimal |>.run
      ((Op.addStructureItem (.builtin 0) none).exec Env.minimal |>.run
        ((init Env.minimal).run (PdfDocument.new 0 {} {})).state).state).state
    (∀ (i : Nat) (s : StructItem) (p : Int), d.structureItems[i]? = some s → s.parent = some p →
      0 ≤ p ∧ p < i) ∧
    ∀ j < d.structureItems.length, ∃ k ≤ j, ∃ s, d.structureItems[k]? = some s ∧
      s.parent = none ∧ ParentChain d.structureItems j k :=
  reachable_structure_forest Env.minimal (.step (.addStructureItem (.builtin 0) (some 0))
    (.step (.addStructureItem (.builtin 0) none) (@Reachable.init Env.minimal 0 {} {} _ rfl)))

theorem createCatalog_detached_root (h : Reachable env d) {i j : Nat} {si sj : StructItem}
    (hij : i < j) (hi : d.structureItems[i]? = some si) (hj : d.structureItems[j]? = some sj)
    (hpi : si.parent = none) (hpj : sj.parent = none) {d' : PdfDocument}
    (hc : (createCatalog env).run d = .ok () d') :
    ∃ k sk r rest, k ≤ i ∧ d.structureItems[k]? = some sk ∧ sk.parent = none ∧
      d'.structureRootObject = some r ∧
      d'.documentObjects[r]? = some (.fullPDFObject (structRootHead sk.objId ++ rest) []) ∧
      ¬ParentChain d.structureItems j k ∧ sk.objId ≠ sj.objId := by
  have hne : d.structureItems ≠ [] := fun he => by simp [he] at hi
  obtain ⟨k, sk, r, rest, hk, hsk, hr, hobj⟩ := createCatalog_root env hc hne
  obtain ⟨hlt, hpk, hbefore⟩ := List.findIdx?_eq_some_iff_getElem.mp hk
  obtain ⟨hil, hsi⟩ := List.getElem?_eq_some_iff.mp hi
  obtain ⟨_, hsk'⟩ := List.getElem?_eq_some_iff.mp hsk
  have hki : k ≤ i := Nat.le_of_not_lt fun hik => hbefore i hik (by simp [hsi, hpi])
  refine ⟨k, sk, r, rest, hki, hsk, by simpa [hsk'] using hpk, hr, hobj,
    fun hc => by have := ParentChain.eq_of_parent_none hj hpj hc; omega, fun he => ?_⟩
  have := (Reachable.numbered env h).structItem_objId_inj hsk hj he
  omega

theorem createCatalog_detached_root_two :
    let d := ((Op.addStructureItem (.builtin 0) none).exec Env.minimal |>.run
      ((Op.addStructureItem (.builtin 0) none).exec Env.minimal |>.run
        ((init Env.minimal).run (PdfDocument.new 0 {} {})).state).state).state
    ∃ si sj d', d.structureItems[0]? = some si ∧ d.structureItems[1]? = some sj ∧
      si.parent = none ∧ sj.parent = none ∧ (createCatalog Env.minimal).run d = .ok () d' ∧
      ∃ k sk r rest, k ≤ 0 ∧ d.structureItems[k]? = some sk ∧ sk.parent = none ∧
        d'.structureRootObject = some r ∧
        d'.documentObjects[r]? = some (.fullPDFObject (structRootHead sk.objId ++ rest) []) ∧
        ¬ParentChain d.structureItems 1 k ∧ sk.objId ≠ sj.objId :=
  have h : Reachable Env.minimal _ := .step (.addStructureItem (.builtin 0) none)
    (.step (.addStructureItem (.builtin 0) none) (@Reachable.init Env.minimal 0 {} {} _ rfl))
  ⟨_, _, _, rfl, rfl, rfl, rfl, rfl,
    createCatalog_detached_root Env.minimal h (i := 0) (j := 1) Nat.one_pos rfl rfl rfl rfl rfl⟩

end CapyPdf
