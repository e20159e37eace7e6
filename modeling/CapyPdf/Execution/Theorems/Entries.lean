import CapyPdf.Document.Theorems.Entries
import CapyPdf.Execution.Theorems.Along
import CapyPdf.Execution.Theorems.Numbering

namespace CapyPdf

open PdfDocument

variable (env : Env) {d : PdfDocument} {n i : Nat}

theorem Reachable.entriesRecorded (h : Reachable env d) : d.EntriesRecorded := by
  have hobj (d : PdfDocument) (o : ObjectType) (ho : o.isEntry = false) :
      Preserves EntriesRecorded d (d.pushObject o) := fun h => h.pushObject ho
  have hreg := Registry.along_entriesRecorded
  induction h with
  | init hi =>
    exact (Moves.init_along env hobj (hreg .iccProfiles nofun) (hreg .separations nofun)
      (hreg .roots nofun)).of_run_ok hi fun _ _ ho => by simp [new] at ho
  | step op _ ih =>
    cases op
    case addPage => exact (Moves.addPage_entries env _ _ _ _ _ _ _ _).seqRight (.pure _) _ ih
    case createFormCheckbox => exact (Moves.createFormCheckbox_entries _ _ _).seqRight (.pure _) _ ih
    case createAnnotation a => exact (Moves.createAnnotation_entries a).seqRight (.pure _) _ ih
    case addStructureItem => exact (Moves.addStructureItem_entries _ _).seqRight (.pure _) _ ih
    case loadFont => exact (Moves.loadFont_entries env _).seqRight (.pure _) _ ih
    all_goals
      refine Op.exec_along_of_not_mem env hobj .entries _ ?_ hreg _ ih
      simp [Op.writes]

namespace PdfDocument.Designates

-- The object a role designates, for the roles of the entries.

theorem exists_page (h : d.Designates n (.page i)) :
    ∃ p, d.documentObjects[n]? = some (.delayedPage p) ∧ p.pageNum = i := by
  obtain ⟨o, ho, hh⟩ := h
  cases o <;> first | exact ⟨_, ho, hh⟩ | exact hh.elim

theorem exists_annot (h : d.Designates n (.annot i)) :
    ∃ a, d.documentObjects[n]? = (some <| ObjectType.delayedAnnotation i a) := by
  obtain ⟨o, ho, hh⟩ := h
  cases o <;> first | exact ⟨_, hh ▸ ho⟩ | exact hh.elim

theorem exists_widget (h : d.Designates n (.widget i)) :
    ∃ w, d.documentObjects[n]? = (some <| ObjectType.delayedCheckboxWidgetAnnotation w) ∧
      w.widget = i := by
  obtain ⟨o, ho, hh⟩ := h
  cases o <;> first | exact ⟨_, ho, hh⟩ | exact hh.elim

theorem structItem (h : d.Designates n (.structItem i)) :
    d.documentObjects[n]? = some (.delayedStructItem i) := by
  obtain ⟨o, ho, hh⟩ := h
  cases o <;> first | exact hh ▸ ho | exact hh.elim

theorem exists_subsetFont {fid : Nat} (h : d.Designates n (.fontOf fid)) :
    ∃ desc cmap, d.documentObjects[n]? = some (.delayedSubsetFont fid desc cmap) := by
  obtain ⟨o, ho, hh⟩ := h
  cases o <;> try exact hh.elim
  case fullPDFObject => exact absurd (show (fid : Int) = -1 ∧ _ from hh).1 (by omega)
  case delayedSubsetFont => exact ⟨_, _, by rwa [Int.ofNat_inj.mp hh]⟩

end PdfDocument.Designates

theorem reachable_entries_recorded (h : Reachable env d) :
    (∀ n o, d.documentObjects[n]? = some o → d.RecordsEntry n o) ∧
    (∀ n i : Nat, (∃ p : DelayedPage, d.documentObjects[n]? = some (.delayedPage p) ∧
      p.pageNum = i) ↔ ∃ po : PageOffsets, d.pages[i]? = some po ∧ po.pageObjNum = n) ∧
    (∀ n i : Nat, (∃ a, d.documentObjects[n]? = (some <| ObjectType.delayedAnnotation i a)) ↔
      d.annotations[i]? = some n) ∧
    (∀ n i : Nat, (∃ w : DelayedCheckboxWidgetAnnotation,
      d.documentObjects[n]? = (some <| ObjectType.delayedCheckboxWidgetAnnotation w) ∧ w.widget = i) ↔
        d.formWidgets[i]? = some n) ∧
    (∀ n i : Nat, d.documentObjects[n]? = some (.delayedStructItem i) ↔
      ∃ s : StructItem, d.structureItems[i]? = some s ∧ s.objId = n) ∧
    ∀ n fid : Nat, (∃ desc cmap, d.documentObjects[n]? = some (.delayedSubsetFont fid desc cmap)) ↔
      ∃ fi ∈ d.fontObjects, fi.fontIndexTmp = fid ∧ fi.fontObj = n := by
  have hr := h.entriesRecorded env
  have hn := h.numbered env
  refine ⟨hr, fun n i => ⟨?_, ?_⟩, fun n i => ⟨?_, ?_⟩, fun n i => ⟨?_, ?_⟩, fun n i => ⟨?_, ?_⟩,
    fun n fid => ⟨?_, ?_⟩⟩
  · rintro ⟨p, hp, rfl⟩; exact hr n _ hp
  · rintro ⟨po, hpo, rfl⟩
    exact (hn.records (show d.Records .page _ (.page i) from ⟨i, po, hpo, rfl, rfl⟩)).exists_page
  · rintro ⟨a, ha⟩; exact hr n _ ha
  · intro ha; exact (hn.records (show d.Records .annot n (.annot i) from ⟨i, ha, rfl⟩)).exists_annot
  · rintro ⟨w, hw, rfl⟩; exact hr n _ hw
  · intro hw
    exact (hn.records (show d.Records .formWidget n (.widget i) from ⟨i, hw, rfl⟩)).exists_widget
  · intro hs; exact hr n _ hs
  · rintro ⟨s, hs, rfl⟩
    exact (hn.records (show d.Records .structItem _ (.structItem i) from ⟨i, s, hs, rfl, rfl⟩)).structItem
  · rintro ⟨desc, cmap, hf⟩; exact hr n _ hf
  · rintro ⟨fi, hfi, hid, rfl⟩
    exact (hn.records (show d.Records .fontObj _ (.fontOf fid) from ⟨fi, hfi, rfl, hid ▸ rfl⟩)).exists_subsetFont

theorem reachable_entries_recorded_annotation :
    let d := ((Op.addStructureItem (.builtin 0) none).exec Env.minimal |>.run
      ((Op.createAnnotation ⟨some ⟨0, 0, 1, 1⟩⟩).exec Env.minimal |>.run
        ((init Env.minimal).run (PdfDocument.new 0 {} {})).state).state).state
    Reachable Env.minimal d ∧
    (∀ n o, d.documentObjects[n]? = some o → d.RecordsEntry n o) ∧
    (∀ n i : Nat, (∃ p : DelayedPage, d.documentObjects[n]? = some (.delayedPage p) ∧
      p.pageNum = i) ↔ ∃ po : PageOffsets, d.pages[i]? = some po ∧ po.pageObjNum = n) ∧
    (∀ n i : Nat, (∃ a, d.documentObjects[n]? = (some <| ObjectType.delayedAnnotation i a)) ↔
      d.annotations[i]? = some n) ∧
    (∀ n i : Nat, (∃ w : DelayedCheckboxWidgetAnnotation,
      d.documentObjects[n]? = (some <| ObjectType.delayedCheckboxWidgetAnnotation w) ∧ w.widget = i) ↔
        d.formWidgets[i]? = some n) ∧
    (∀ n i : Nat, d.documentObjects[n]? = some (.delayedStructItem i) ↔
      ∃ s : StructItem, d.structureItems[i]? = some s ∧ s.objId = n) ∧
    ∀ n fid : Nat, (∃ desc cmap, d.documentObjects[n]? = some (.delayedSubsetFont fid desc cmap)) ↔
      ∃ fi ∈ d.fontObjects, fi.fontIndexTmp = fid ∧ fi.fontObj = n :=
  have h : Reachable Env.minimal _ := .step (.addStructureItem (.builtin 0) none)
    (.step (Op.createAnnotation ⟨some ⟨0, 0, 1, 1⟩⟩) (@Reachable.init Env.minimal 0 {} {} _ rfl))
  ⟨h, reachable_entries_recorded _ h⟩

theorem Reachable.fontsInStep (h : Reachable env d) : d.FontsInStep := by
  have hobj (d : PdfDocument) (o : ObjectType) (_ : o.isEntry = false) :
      Preserves FontsInStep d (d.pushObject o) := id
  induction h with
  | init hi =>
    have hreg (r : Registry) (hf : r ≠ .fonts) (ho : r ≠ .fontObjects) := r.along_fontsInStep hf ho
    exact (Moves.init_along env hobj (hreg .iccProfiles nofun nofun) (hreg .separations nofun nofun)
      (hreg .roots nofun nofun)).of_run_ok hi ⟨rfl, nofun⟩
  | step op _ ih =>
    cases op
    case getBuiltinFontId font => exact (Moves.getBuiltinFontId_fonts font).seqRight (.pure _) _ ih
    case loadFont => exact (Moves.loadFont_fonts env _).seqRight (.pure _) _ ih
    all_goals
      refine Op.exec_along env hobj _ (fun r hr => r.along_fontsInStep ?_ ?_) _ ih
      all_goals rintro rfl; simp [Op.writes] at hr

theorem reachable_fonts_in_step (h : Reachable env d) :
    (d.fontObjects.filter (0 ≤ ·.fontIndexTmp)).map (·.fontIndexTmp) =
      (List.range d.fonts.length).map Int.ofNat ∧
    ∀ fi ∈ d.fontObjects, fi.fontIndexTmp < 0 → fi = ⟨-1, -1, fi.fontObj, -1⟩ :=
  h.fontsInStep env

theorem reachable_fonts_in_step_builtin_first :
    let d := ((Op.loadFont "a.ttf").exec Env.minimal |>.run
      ((Op.getBuiltinFontId .helvetica).exec Env.minimal |>.run
        ((init Env.minimal).run (PdfDocument.new 0 {} {})).state).state).state
    Reachable Env.minimal d ∧
    ((d.fontObjects.filter (0 ≤ ·.fontIndexTmp)).map (·.fontIndexTmp) =
      (List.range d.fonts.length).map Int.ofNat ∧
    ∀ fi ∈ d.fontObjects, fi.fontIndexTmp < 0 → fi = ⟨-1, -1, fi.fontObj, -1⟩) :=
  have h : Reachable Env.minimal _ := .step (.loadFont "a.ttf")
    (.step (.getBuiltinFontId .helvetica) (@Reachable.init Env.minimal 0 {} {} _ rfl))
  ⟨h, reachable_fonts_in_step _ h⟩

end CapyPdf
