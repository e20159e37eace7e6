import CapyPdf.Document.Theorems.Registries

namespace CapyPdf

namespace PdfDocument

def RecordsEntry (d : PdfDocument) (n : Nat) : ObjectType → Prop
  | .delayedPage p => ∃ po, d.pages[p.pageNum]? = some po ∧ po.pageObjNum = n
  | ObjectType.delayedAnnotation i _ => d.annotations[i]? = some n
  | ObjectType.delayedCheckboxWidgetAnnotation w => d.formWidgets[w.widget]? = some n
  | .delayedStructItem i => ∃ s, d.structureItems[i]? = some s ∧ s.objId = n
  | .delayedSubsetFontData fid _ => ∃ fi ∈ d.fontObjects, fi.fontIndexTmp = fid ∧ fi.fontFileObj = n
  | .delayedSubsetFontDescriptor fid _ _ =>
    ∃ fi ∈ d.fontObjects, fi.fontIndexTmp = fid ∧ fi.fontDescriptorObj = n
  | .delayedSubsetCMap fid _ => ∃ fi ∈ d.fontObjects, fi.fontIndexTmp = fid ∧
    ∃ desc, d.documentObjects[fi.fontObj]? = some (.delayedSubsetFont fid desc n)
  | .delayedSubsetFont fid _ _ => ∃ fi ∈ d.fontObjects, fi.fontIndexTmp = fid ∧ fi.fontObj = n
  | _ => True

def EntriesRecorded (d : PdfDocument) : Prop :=
  ∀ n o, d.documentObjects[n]? = some o → d.RecordsEntry n o

variable {d d' : PdfDocument} {n : Nat} {o : ObjectType}

theorem recordsEntry_of_not_isEntry (ho : o.isEntry = false) : d.RecordsEntry n o := by
  cases o <;> trivial

theorem RecordsEntry.of_grows (hg : Grows d d') : ∀ {o}, d.RecordsEntry n o → d'.RecordsEntry n o
  | .delayedPage _, ⟨po, hpo, hn⟩ => ⟨po, getElem?_of_isPrefix hg.pages hpo, hn⟩
  | ObjectType.delayedAnnotation .., h => getElem?_of_isPrefix hg.annotations h
  | ObjectType.delayedCheckboxWidgetAnnotation _, h => getElem?_of_isPrefix hg.formWidgets h
  | .delayedStructItem _, ⟨s, hs, hn⟩ => ⟨s, getElem?_of_isPrefix hg.structureItems hs, hn⟩
  | .delayedSubsetFontData .., ⟨fi, hfi, h⟩ => ⟨fi, hg.fontObjects.subset hfi, h⟩
  | .delayedSubsetFontDescriptor .., ⟨fi, hfi, h⟩ => ⟨fi, hg.fontObjects.subset hfi, h⟩
  | .delayedSubsetCMap .., ⟨fi, hfi, hid, desc, h⟩ =>
    ⟨fi, hg.fontObjects.subset hfi, hid, desc, getElem?_of_isPrefix hg.objects h⟩
  | .delayedSubsetFont .., ⟨fi, hfi, h⟩ => ⟨fi, hg.fontObjects.subset hfi, h⟩
  | .dummyIndexZero, _ | .fullPDFObject .., _ | .deflatePDFObject .., _ | .delayedPages, _ => trivial

namespace EntriesRecorded

theorem append (h : d.EntriesRecorded) (hg : Grows d d') (os : List ObjectType)
    (hobj : d'.documentObjects = d.documentObjects ++ os)
    (hnew : ∀ (i : Nat) o, os[i]? = some o → d'.RecordsEntry (d.documentObjects.length + i) o) :
    d'.EntriesRecorded := fun m o hm => by
  rw [hobj] at hm
  by_cases hlt : m < d.documentObjects.length
  · rw [List.getElem?_append_left hlt] at hm
    exact (h m o hm).of_grows hg
  · rw [List.getElem?_append_right (by omega)] at hm
    simpa [Nat.add_sub_cancel' (Nat.le_of_not_lt hlt)] using hnew _ o hm

theorem of_grows (h : d.EntriesRecorded) (hg : Grows d d')
    (hobj : d'.documentObjects = d.documentObjects) : d'.EntriesRecorded :=
  h.append hg [] (by simpa using hobj) fun _ _ hi => by simp at hi

theorem pushObject (h : d.EntriesRecorded) (ho : o.isEntry = false) :
    (d.pushObject o).EntriesRecorded :=
  h.append (Grows.pushObject d o) [o] rfl fun i o' hi => by
    obtain ⟨-, rfl⟩ : i = 0 ∧ o = o' := by simpa [List.getElem?_cons] using hi
    exact recordsEntry_of_not_isEntry ho

theorem record (h : d.EntriesRecorded) (hg : Grows (d.pushObject o) d')
    (hobj : d'.documentObjects = d.documentObjects ++ [o])
    (hn : d'.RecordsEntry d.documentObjects.length o) : d'.EntriesRecorded :=
  h.append ((Grows.pushObject d o).trans hg) [o] hobj fun i o' hi => by
    obtain ⟨rfl, rfl⟩ : i = 0 ∧ o = o' := by simpa [List.getElem?_cons] using hi
    exact hn

theorem loadFont (h : d.EntriesRecorded) (ttf : String) :
    let fid := d.fonts.length
    let n := d.documentObjects.length
    ((((((d.setFonts (d.fonts ++ [⟨ttf, .init⟩])).pushObject (.delayedSubsetFontData fid 0)).pushObject
      (.delayedSubsetFontDescriptor fid n 0)).pushObject (.delayedSubsetCMap fid 0)).pushObject
        (.delayedSubsetFont fid (n + 1) (n + 2))).pushFontObject ⟨n, n + 1, n + 3, fid⟩).EntriesRecorded := by
  intro fid n
  refine h.append (((((Registry.along_grows .fonts d ttf).trans (Grows.pushObject _ _)).trans
    (Grows.pushObject _ _)).trans (Grows.pushObject _ _)).trans (Grows.pushObject _ _) |>.trans
      (Registry.along_grows .fontObjects _ _)) [.delayedSubsetFontData fid 0,
    .delayedSubsetFontDescriptor fid n 0, .delayedSubsetCMap fid 0,
    .delayedSubsetFont fid (n + 1) (n + 2)] (by simp) fun i o hi => ?_
  -- Each of the four objects is recorded by the new entry.
  rcases i with _ | _ | _ | _ | i <;> simp at hi <;> subst hi
  · exact ⟨_, List.mem_concat_self _ _, rfl, rfl⟩
  · exact ⟨_, List.mem_concat_self _ _, rfl, by simp [n]⟩
  · refine ⟨_, List.mem_concat_self _ _, rfl, n + 1, ?_⟩
    simp only [pushFontObject_documentObjects, pushObject_documentObjects, setFonts_documentObjects,
      List.append_assoc, List.singleton_append]
    rw [List.getElem?_append_right (by omega)]
    simp [n]
  · exact ⟨_, List.mem_concat_self _ _, rfl, rfl⟩

end EntriesRecorded

def FontsInStep (d : PdfDocument) : Prop :=
  (d.fontObjects.filter (0 ≤ ·.fontIndexTmp)).map (·.fontIndexTmp) =
    (List.range d.fonts.length).map Int.ofNat ∧
  ∀ fi ∈ d.fontObjects, fi.fontIndexTmp < 0 → fi = ⟨-1, -1, fi.fontObj, -1⟩

namespace FontsInStep

theorem pushBuiltin (h : d.FontsInStep) (obj : Nat) :
    (d.pushFontObject ⟨-1, -1, obj, -1⟩).FontsInStep := by
  refine ⟨by simpa using h.1, fun fi hfi hneg => ?_⟩
  rcases List.mem_append.mp hfi with hfi | hfi
  · exact h.2 fi hfi hneg
  · obtain rfl := List.mem_singleton.mp hfi
    rfl

theorem pushLoaded (h : d.FontsInStep) (hf : d'.fonts.length = d.fonts.length + 1)
    (ho : d'.fontObjects = d.fontObjects) {a b : Int} {c : Nat} {k : Int}
    (hk : k = d.fonts.length) : (d'.pushFontObject ⟨a, b, c, k⟩).FontsInStep := by
  subst hk
  refine ⟨?_, fun fi hfi hneg => ?_⟩
  · simp [ho, hf, h.1, List.range_succ, List.filter_cons, Int.ofNat_nonneg]
  · rcases List.mem_append.mp hfi with hfi | hfi
    · exact h.2 fi (ho ▸ hfi) hneg
    · rw [List.mem_singleton.mp hfi] at hneg
      dsimp only at hneg
      omega

end FontsInStep

end PdfDocument

open PdfDocument

namespace Moves

variable {α β : Type}

theorem get_bind {R : PdfDocument → PdfDocument → Prop} {f : PdfDocument → DocM β}
    (h : ∀ d, R d ((f d).run d).state) : Moves R (MonadState.get >>= f) :=
  fun d => by rw [run_get_bind]; exact h d

theorem bind_then {Q P : PdfDocument → Prop} {x : DocM α} {f : α → DocM β}
    (hQP : ∀ d, Q d → P d) (hx : Moves (Preserves Q) x)
    (hf : ∀ a, Moves (fun d d' => Q d → P d') (f a)) :
    Moves (fun d d' => Q d → P d') (x >>= f) := fun d hd => by
  have hd' := hx d hd
  rw [run_bind]
  cases h : x.run d with
  | ok a d₁ => rw [h] at hd'; exact hf a d₁ hd'
  | error e d₁ => rw [h] at hd'; exact hQP d₁ hd'

variable (env : Env)

-- The operations that add objects standing for registry entries, each with its entry.

theorem createAnnotation_entries (a : Annotation) :
    Moves (Preserves EntriesRecorded) (PdfDocument.createAnnotation a) :=
  .bind (.reterrIf _ _) fun _ => .get_bind fun d h => by
    simp only [addObject, run_modifyGet_bind, run_modify_bind, run_pure, EStateM.Result.state_ok]
    exact h.record (Registry.along_grows .annotations _ _) rfl (by simp [RecordsEntry])

theorem createFormCheckbox_entries (onstate offstate : Int) (partialName : String) :
    Moves (Preserves EntriesRecorded) (PdfDocument.createFormCheckbox onstate offstate partialName) :=
  .bind .get fun _ => .bind (.checkIndexness _ _) fun _ => .bind .get fun _ =>
    .bind (.checkIndexness _ _) fun _ => .get_bind fun d h => by
      simp only [addObject, run_modifyGet_bind, run_modify_bind, run_get_bind, run_pure,
        EStateM.Result.state_ok]
      exact h.record (Registry.along_grows .formWidgets _ _) rfl (by simp [RecordsEntry])

theorem addStructureItem_entries (stype : StructureItemType) (parent : Option Int) :
    Moves (Preserves EntriesRecorded) (PdfDocument.addStructureItem stype parent) :=
  .bind .get fun _ => .bind (.optionForM (fun _ => .checkIndexness _ _) _) fun _ =>
    .get_bind fun d h => by
      simp only [addObject, run_modifyGet_bind, run_modify_bind, run_get_bind, run_pure,
        EStateM.Result.state_ok]
      exact h.record (Registry.along_grows .structureItems _ _) rfl (by simp [RecordsEntry])

theorem loadFont_entries (fname : String) :
    Moves (Preserves EntriesRecorded) (PdfDocument.loadFont env fname) :=
  .bind (.lift _) fun _ => .bind (.reterrIf _ _) fun _ => .bind (.someOr _ _) fun _ =>
    .bind (.reterrIf _ _) fun _ => .bind (.reterrIf _ _) fun _ => .get_bind fun d h => by
      simp only [run_lift_bind]
      split
      · simp only [addObject, run_modify_bind, run_modifyGet_bind, run_get_bind, run_modify, run_pure,
          EStateM.Result.state_ok]
        simpa using h.loadFont fname
      · exact h

theorem addPage_entries (rd ud cs : String) (fws annots structs : List Int) (tr : Option Transition)
    (subnav : List SubPageNavigation) :
    Moves (Preserves EntriesRecorded) (PdfDocument.addPage env rd ud cs fws annots structs tr subnav) := by
  unfold PdfDocument.addPage
  refine .get_bind fun d₀ h => ?_
  -- Until its page object, the operation appends plain objects and keeps the pages.
  let Q (d : PdfDocument) := d.EntriesRecorded ∧ d.pages = d₀.pages
  have hobj (d : PdfDocument) (o : ObjectType) (ho : o.isEntry = false) :
      Preserves Q d (d.pushObject o) := fun hd => ⟨hd.1.pushObject ho, hd.2⟩
  have hQP (d : PdfDocument) (hd : Q d) : d.EntriesRecorded := hd.1
  refine (?_ : Moves (fun d d' => Q d → d'.EntriesRecorded) _) d₀ ⟨h, rfl⟩
  refine .bind_then hQP (.reterrIf _ _) fun _ => .bind_then hQP (.reterrIf _ _) fun _ =>
    .bind_then hQP (.reterrIf _ _) fun _ => .bind_then hQP (.addObject_along hobj _ rfl) fun _ =>
      .bind_then hQP (.ite _ (.addObject_along hobj _ rfl) (.addObject_along hobj _ rfl)) fun _ =>
        .bind_then hQP (.ite _ (.pure _) (.map _ ((Moves.createSubnavigation env _).along hobj)))
          fun _ => .bind_then hQP (.ite _ (.pure _) (.bind .get fun _ => .bind (.modify fun d hd =>
            ⟨hd.1.of_grows ((Registry.along_grows .pages).1 d _) rfl, hd.2⟩) fun _ => .pure _))
              fun _ => fun d hd => ?_
  simp only [addObject, run_modifyGet_bind, run_modify, EStateM.Result.state_ok]
  exact hd.1.record ((Registry.along_grows .pages).2 _ _ _ _ _) rfl (by simp [RecordsEntry, hd.2])

-- The operations that write the fonts or their entries.

theorem getBuiltinFontId_fonts (font : BuiltinFont) :
    Moves (Preserves FontsInStep) (PdfDocument.getBuiltinFontId font) := fun d h => by
  rw [getBuiltinFontId_run]
  split
  · exact h
  · exact (show (d.pushObject _).FontsInStep from h).pushBuiltin _

theorem loadFont_fonts (fname : String) :
    Moves (Preserves FontsInStep) (PdfDocument.loadFont env fname) :=
  .bind (.lift _) fun _ => .bind (.reterrIf _ _) fun _ => .bind (.someOr _ _) fun _ =>
    .bind (.reterrIf _ _) fun _ => .bind (.reterrIf _ _) fun _ => .get_bind fun d h => by
      simp only [run_lift_bind]
      split
      · simp only [addObject, run_modify_bind, run_modifyGet_bind, run_get_bind, run_modify, run_pure,
          EStateM.Result.state_ok]
        refine h.pushLoaded ?_ ?_ ?_ <;> simp
      · exact h

end Moves

theorem Registry.along_fontsInStep (r : Registry) (hf : r ≠ .fonts) (ho : r ≠ .fontObjects) :
    r.Along (Preserves FontsInStep) := by
  cases r
  case fonts => exact absurd rfl hf
  case fontObjects => exact absurd rfl ho
  case subsets => exact fun d i font cp _ h => by simpa [FontsInStep] using h
  all_goals simp only [Registry.Along, Preserves]; (repeat' constructor) <;> intros <;> assumption

theorem Registry.along_entriesRecorded (r : Registry) (hr : r ≠ .entries) :
    r.Along (Preserves EntriesRecorded) := by
  cases r
  case entries => exact absurd rfl hr
  case annotations => exact fun d n h => h.of_grows (Registry.along_grows .annotations d n) rfl
  case formWidgets => exact fun d n h => h.of_grows (Registry.along_grows .formWidgets d n) rfl
  case structureItems => exact fun d s h => h.of_grows (Registry.along_grows .structureItems d s) rfl
  case fontObjects => exact fun d i h => h.of_grows (Registry.along_grows .fontObjects d i) rfl
  case pages =>
    exact ⟨fun d s h => h.of_grows ((Registry.along_grows .pages).1 d s) rfl,
      fun d fws annots structs po h => h.of_grows ((Registry.along_grows .pages).2 d fws annots structs po) rfl⟩
  all_goals simp only [Registry.Along, Preserves]; (repeat' constructor) <;> intros <;> assumption

end CapyPdf
