import CapyPdf.Document.Theorems.Pages.Tree
import CapyPdf.Execution.Op

namespace CapyPdf

open PdfDocument

variable (env : Env) {d : PdfDocument}

namespace PdfDocument

theorem PageUse.new (addr : Nat) (opts : PdfGenerationData) (cm : PdfColorConverter) :
    PageUse (PdfDocument.new addr opts cm) where
  entry i hi := by simp [PdfDocument.new] at hi
  form a n := by simp [PdfDocument.new, pageEntry?]
  annot a n := by simp [PdfDocument.new, pageEntry?]
  structUse s i m h := by simp [PdfDocument.new] at h
  structListed s i h := by simp [PdfDocument.new, pageStructs, structKey?, pageEntry?] at h
  keys := rfl
  nonempty := by simp [PdfDocument.new]

theorem PageUse.unique {use : UMap Int Nat} {ids : DelayedPage → List Int} (h : PageUse d)
    (hu : UseMap d.pageEntry? use ids) {a : Int} {i j : Nat} {po po' : PageOffsets}
    {p q : DelayedPage} (hi : d.pageEntry? i = some (po, p)) (hj : d.pageEntry? j = some (po', q))
    (ha : a ∈ ids p) (hb : a ∈ ids q) : i = j := by
  have hn : po.pageObjNum = po'.pageObjNum := by
    have := ((hu a _).mpr ⟨i, po, p, hi, ha, rfl⟩).symm.trans ((hu a _).mpr ⟨j, po', q, hj, hb, rfl⟩)
    exact Option.some.inj this
  have hpq : p = q := by
    have h₁ := (pageEntry?_eq_some.mp hi).2
    rw [hn, (pageEntry?_eq_some.mp hj).2] at h₁
    cases h₁
    rfl
  subst hpq
  obtain ⟨_, _, hi', rfl⟩ := h.entry i (pageEntry?_lt hi)
  obtain ⟨_, _, hj', hj''⟩ := h.entry j (pageEntry?_lt hj)
  rw [hi] at hi'
  rw [hj] at hj'
  cases hi'
  cases hj'
  exact hj''

theorem PageUse.structureUse_iff (h : PageUse d) (s : Int) (i : Nat) :
    (∃ m, d.structureUse.find? s = some ⟨i, m⟩) ↔ s ∈ d.pageStructs i := by
  refine ⟨fun ⟨m, hm⟩ => ?_, h.structListed s i⟩
  obtain ⟨k, hk, hks⟩ := h.structUse s i m hm
  obtain ⟨l, hl, hls⟩ := Option.bind_eq_some.mp hks
  simp only [pageStructs, hk, List.getD_eq_getElem?_getD, hl, Option.getD_some]
  exact List.mem_iff_getElem?.mpr ⟨m, hls⟩

theorem PageUse.structKey?_isSome_iff (h : PageUse d) (i : Nat) :
    (d.structKey? i).isSome ↔ d.pageStructs i ≠ [] := by
  cases hk : d.structKey? i with
  | none => simp [pageStructs, hk]
  | some k =>
    have hl := List.getElem?_eq_getElem (h.key_lt hk)
    simp only [Option.isSome_some, pageStructs, hk, List.getD_eq_getElem?_getD, hl,
      Option.getD_some, true_iff]
    exact fun he => h.nonempty (he ▸ List.getElem_mem _)

variable {rd ud cs : String} {fws annots structs : List Int} {tr : Option Transition}
  {subnav : List SubPageNavigation} {d' : PdfDocument}

theorem PageUse.addPage_structs (h : PageUse d)
    (hr : (PdfDocument.addPage env rd ud cs fws annots structs tr subnav).run d = .ok () d') :
    d'.pageStructs d.pages.length = structs ∧
      (structs ≠ [] → d'.structKey? d.pages.length = some d.structureParentTreeItems.length) := by
  obtain ⟨-, -, -, s, root, hk, rfl⟩ := addPage_run_ok env hr
  have hent : ∀ i < s.pages.length, (s.pageEntry? i).isSome :=
    fun _ hi => (h.of_kept hk.pages).isSome_pageEntry? hi
  have hkey : (s.withPage fws annots structs tr root d.documentObjects.length
      (d.documentObjects.length + 1)).structKey? s.pages.length =
      if structs.isEmpty then none else some s.structureParentTreeItems.length :=
    structKey?_withPage_self hent
  rw [hk.pages.pages_eq, hk.pages.structureParentTreeItems_eq] at hkey
  rw [← hk.pages.pages_eq]
  cases structs with
  | nil => simp [pageStructs, hk.pages.pages_eq, hkey]
  | cons x xs =>
    refine ⟨?_, fun _ => by simpa [hk.pages.pages_eq] using hkey⟩
    simp [pageStructs, hk.pages.pages_eq, hkey, hk.pages.structureParentTreeItems_eq]

end PdfDocument

theorem Op.exec_frameKept (op : Op) (hp : (op matches .addPage ..) = false)
    (hs : (op matches .addStructureItem ..) = false) : Moves FrameKept (op.exec env) := by
  cases op
  case addPage => cases hp
  case addStructureItem => cases hs
  case addFormXobject => exact .seqRight (.addFormXobject_kept _ _) (.pure _)
  case createSeparation => exact .seqRight (.createSeparation_kept env _ _) (.pure _)
  case addLabColorspace => exact .map _ (Moves.addLabColorspace _).frameKept
  case loadIccFile => exact .seqRight (.loadIccFile_kept env _) (.pure _)
  case addImage => exact .seqRight (.addImage_kept env _ _) (.pure _)
  case addMaskImage => exact .seqRight (.addMaskImage_kept env _) (.pure _)
  case embedJpg => exact .seqRight (.embedJpg_kept _ _) (.pure _)
  case addGraphicsState => exact .map _ (Moves.addGraphicsState _).frameKept
  case addFunction => exact .map _ (Moves.addFunction env _).frameKept
  case addShading2 => exact .map _ (Moves.addShading2 _).frameKept
  case addShading3 => exact .map _ (Moves.addShading3 _).frameKept
  case addShading4 => exact .map _ (Moves.addShading4 _).frameKept
  case addShading6 => exact .map _ (Moves.addShading6 _).frameKept
  case addPattern => exact .map _ (Moves.addPattern env _).frameKept
  case addOutline => exact .seqRight (.addOutline_kept _ _ _) (.pure _)
  case createFormCheckbox => exact .seqRight (.createFormCheckbox_kept _ _ _) (.pure _)
  case embedFile => exact .seqRight (.embedFile_kept env _) (.pure _)
  case createAnnotation => exact .seqRight (.createAnnotation_kept _) (.pure _)
  case addOptionalContentGroup => exact .seqRight (.addOptionalContentGroup_kept env _) (.pure _)
  case addTransparencyGroup => exact .seqRight (.addTransparencyGroup_kept env _ _) (.pure _)
  case getBuiltinFontId => exact .seqRight (.getBuiltinFontId_kept _) (.pure _)
  case loadFont => exact .seqRight (.loadFont_kept env _) (.pure _)
  case createCatalog => exact .seqRight (.createCatalog_kept env) (.pure _)
  case getSubsetGlyph => exact .seqRight (.getSubsetGlyph_kept env _ _) (.pure _)
  case addRolemapEntry => exact .seqRight (.addRolemapEntry_kept _ _) (.pure _)

theorem PdfDocument.PageUse.exec (h : PageUse d) (op : Op) : PageUse ((op.exec env).run d).state := by
  cases op
  case addPage => simpa only [Op.exec, state_run_seqRight_pure] using h.addPage env
  case addStructureItem => exact h.of_kept (Moves.seqRight (.addStructureItem_kept _ _) (.pure _) d)
  all_goals exact h.of_kept (Op.exec_frameKept env _ rfl rfl d).pages

theorem Reachable.pageUse (h : Reachable env d) : PageUse d := by
  induction h with
  | init hi => exact (PageUse.new _ _ _).of_kept ((Moves.init_kept env).of_run_ok hi).pages
  | step op _ ih => exact ih.exec env op

theorem reachable_page_usage (h : Reachable env d) :
    (∀ a i j po p po' q, d.pageEntry? i = some (po, p) → d.pageEntry? j = some (po', q) →
      a ∈ p.usedFormWidgets → a ∈ q.usedFormWidgets → i = j) ∧
    (∀ a i j po p po' q, d.pageEntry? i = some (po, p) → d.pageEntry? j = some (po', q) →
      a ∈ p.usedAnnotations → a ∈ q.usedAnnotations → i = j) ∧
    (∀ s i j, s ∈ d.pageStructs i → s ∈ d.pageStructs j → i = j) ∧
    UseMap d.pageEntry? d.formUse DelayedPage.usedFormWidgets ∧
    UseMap d.pageEntry? d.annotationUse DelayedPage.usedAnnotations ∧
    (∀ s i, (∃ m, d.structureUse.find? s = some ⟨i, m⟩) ↔ s ∈ d.pageStructs i) ∧
    ∀ rd ud cs fws annots structs tr subnav c d',
      (addPage env rd ud cs fws annots structs tr subnav).run d = .error (.error c) d' →
        d' = d := by
  have hu := h.pageUse env
  refine ⟨fun _ _ _ _ _ _ _ => hu.unique hu.form, fun _ _ _ _ _ _ _ => hu.unique hu.annot,
    fun s i j hi hj => ?_, hu.form, hu.annot, hu.structureUse_iff,
    fun _ _ _ _ _ _ _ _ _ _ he => (addPage_run_error env he).2 id⟩
  obtain ⟨m, hm⟩ := (hu.structureUse_iff s i).mpr hi
  obtain ⟨m', hm'⟩ := (hu.structureUse_iff s j).mpr hj
  rw [hm] at hm'
  cases hm'
  rfl

theorem reachable_page_usage_annot :
    let d₁ := ((Op.addPage "<< >>" "<<\n" "" [] [7] [] none []).exec Env.minimal |>.run
      ((init Env.minimal).run (PdfDocument.new 0 {} {})).state).state
    let d := ((Op.addPage "<< >>" "<<\n" "" [] [7] [] none []).exec Env.minimal |>.run d₁).state
    Reachable Env.minimal d ∧
    (addPage Env.minimal "<< >>" "<<\n" "" [] [7] [] none []).run d₁ =
      .error (.error .annotationReuse) d₁ ∧
    (∀ a i j po p po' q, d.pageEntry? i = some (po, p) → d.pageEntry? j = some (po', q) →
      a ∈ p.usedFormWidgets → a ∈ q.usedFormWidgets → i = j) ∧
    (∀ a i j po p po' q, d.pageEntry? i = some (po, p) → d.pageEntry? j = some (po', q) →
      a ∈ p.usedAnnotations → a ∈ q.usedAnnotations → i = j) ∧
    (∀ s i j, s ∈ d.pageStructs i → s ∈ d.pageStructs j → i = j) ∧
    UseMap d.pageEntry? d.formUse DelayedPage.usedFormWidgets ∧
    UseMap d.pageEntry? d.annotationUse DelayedPage.usedAnnotations ∧
    (∀ s i, (∃ m, d.structureUse.find? s = some ⟨i, m⟩) ↔ s ∈ d.pageStructs i) ∧
    ∀ rd ud cs fws annots structs tr subnav c d',
      (addPage Env.minimal rd ud cs fws annots structs tr subnav).run d = .error (.error c) d' →
        d' = d :=
  have h : Reachable Env.minimal _ := .step (.addPage "<< >>" "<<\n" "" [] [7] [] none [])
    (.step (.addPage "<< >>" "<<\n" "" [] [7] [] none []) (@Reachable.init Env.minimal 0 {} {} _ rfl))
  ⟨h, rfl, reachable_page_usage _ h⟩

theorem reachable_structure_parents (h : Reachable env d) :
    (List.range d.pages.length).filterMap d.structKey? =
      List.range d.structureParentTreeItems.length ∧
    (∀ i < d.pages.length, (d.structKey? i).isSome ↔ d.pageStructs i ≠ []) ∧
    (∀ s i m, d.structureUse.find? s = some ⟨i, m⟩ →
      ∃ k, d.structKey? i = some k ∧ (d.structureParentTreeItems[k]?).bind (·[m]?) = some s) ∧
    (∀ rd ud cs fws annots structs tr subnav d',
      (addPage env rd ud cs fws annots structs tr subnav).run d = .ok () d' →
        d'.pageStructs d.pages.length = structs ∧
        (structs ≠ [] → d'.structKey? d.pages.length = some d.structureParentTreeItems.length)) ∧
    ((∀ items ∈ d.structureParentTreeItems, ∀ x ∈ items, (Prog.getI? d.structureItems x).isSome) →
      createStructureParentTree.run d =
        .ok d.documentObjects.length (d.pushObject (.fullPDFObject d.parentTreeText []))) ∧
    ∀ d₁ d₁', PagesKept d d₁ → (createStructureRootDict env).run d₁ = .ok () d₁' →
      ∃ (root pt : Nat) (post : String), d₁.structureParentTreeObject = some pt ∧
        d₁'.documentObjects = d₁.documentObjects ++ [.fullPDFObject ("<<\n  /Type /StructTreeRoot\n  /K [ " ++
          (toString root ++ " 0 R") ++ " ]\n  /ParentTree " ++ (toString pt ++ " 0 R") ++
          "\n  /ParentTreeNextKey " ++
          toString ((List.range d.pages.length).filterMap d.structKey?).length ++ "\n" ++ post) []] := by
  have hu := h.pageUse env
  refine ⟨hu.keys, fun i _ => hu.structKey?_isSome_iff i, hu.structUse,
    fun _ _ _ _ _ _ _ _ _ => hu.addPage_structs env, createStructureParentTree_run,
    fun d₁ d₁' hk hr => ?_⟩
  rw [hu.keys, List.length_range, ← hk.structureParentTreeItems_eq]
  exact createStructureRootDict_nextKey env hr

theorem reachable_structure_parents_second_page :
    let d := ((Op.addPage "<< >>" "<<\n" "" [] [] [0] none []).exec Env.minimal |>.run
      ((Op.addPage "<< >>" "<<\n" "" [] [] [] none []).exec Env.minimal |>.run
      ((Op.addStructureItem (.builtin 0) none).exec Env.minimal |>.run
        ((init Env.minimal).run (PdfDocument.new 0 {} {})).state).state).state).state
    Reachable Env.minimal d ∧ d.structKey? 1 = some 0 ∧
    (List.range d.pages.length).filterMap d.structKey? =
      List.range d.structureParentTreeItems.length ∧
    (∀ i < d.pages.length, (d.structKey? i).isSome ↔ d.pageStructs i ≠ []) ∧
    (∀ s i m, d.structureUse.find? s = some ⟨i, m⟩ →
      ∃ k, d.structKey? i = some k ∧ (d.structureParentTreeItems[k]?).bind (·[m]?) = some s) ∧
    (∀ rd ud cs fws annots structs tr subnav d',
      (addPage Env.minimal rd ud cs fws annots structs tr subnav).run d = .ok () d' →
        d'.pageStructs d.pages.length = structs ∧
        (structs ≠ [] → d'.structKey? d.pages.length = some d.structureParentTreeItems.length)) ∧
    ((∀ items ∈ d.structureParentTreeItems, ∀ x ∈ items, (Prog.getI? d.structureItems x).isSome) →
      createStructureParentTree.run d =
        .ok d.documentObjects.length (d.pushObject (.fullPDFObject d.parentTreeText []))) ∧
    ∀ d₁ d₁', PagesKept d d₁ → (createStructureRootDict Env.minimal).run d₁ = .ok () d₁' →
      ∃ (root pt : Nat) (post : String), d₁.structureParentTreeObject = some pt ∧
        d₁'.documentObjects = d₁.documentObjects ++ [.fullPDFObject ("<<\n  /Type /StructTreeRoot\n  /K [ " ++
          (toString root ++ " 0 R") ++ " ]\n  /ParentTree " ++ (toString pt ++ " 0 R") ++
          "\n  /ParentTreeNextKey " ++
          toString ((List.range d.pages.length).filterMap d.structKey?).length ++ "\n" ++ post) []] :=
  have h : Reachable Env.minimal _ := .step (.addPage "<< >>" "<<\n" "" [] [] [0] none [])
    (.step (.addPage "<< >>" "<<\n" "" [] [] [] none [])
    (.step (.addStructureItem (.builtin 0) none) (@Reachable.init Env.minimal 0 {} {} _ rfl)))
  ⟨h, rfl, reachable_structure_parents _ h⟩

end CapyPdf
