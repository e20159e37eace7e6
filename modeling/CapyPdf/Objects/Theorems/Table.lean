import CapyPdf.Objects.Table

namespace CapyPdf

theorem List.getElem?_concat_eq_some {α : Type} {l : List α} {a x : α} {i : Nat}
    (h : (l ++ [a])[i]? = some x) : l[i]? = some x ∨ (i = l.length ∧ x = a) := by
  rcases Nat.lt_trichotomy i l.length with hi | rfl | hi
  · rw [List.getElem?_append_left hi] at h; exact .inl h
  · rw [List.getElem?_concat_length] at h; exact .inr ⟨rfl, (Option.some.inj h).symm⟩
  · rw [List.getElem?_eq_none (by simp; omega)] at h; cases h

theorem Begins.refl (s : String) : Begins s s :=
  List.prefix_refl _

theorem Begins.append {s p : String} (h : Begins s p) (t : String) : Begins (s ++ t) p := by
  simpa [Begins] using h.trans (List.prefix_append _ _)

theorem Begins.append_left {t u : String} (h : Begins t u) (s : String) : Begins (s ++ t) (s ++ u) := by
  simpa [Begins] using h

section Holds

-- What each role asks of the object kinds that can hold it, stated once so that a proof about
-- an object just added never has to unfold the whole table of `Role.Holds`.
variable {s : String} {b : Bytes} {i j k : Nat} {fid : Int}

@[simp] theorem Role.holds_dict : Role.dict.Holds (.fullPDFObject s b) := trivial
@[simp] theorem Role.holds_bare : Role.bare.Holds (.fullPDFObject s b) ↔ b = [] := .rfl
@[simp] theorem Role.holds_head {p : String} : (Role.head p).Holds (.fullPDFObject s b) ↔ Begins s p :=
  .rfl
@[simp] theorem Role.holds_stream_full :
    Role.stream.Holds (.fullPDFObject s b) ↔ ∃ pre, s = pre ++ "  /Length " ++ toString b.length ++ "\n>>\n" :=
  .rfl
@[simp] theorem Role.holds_stream_deflate : Role.stream.Holds (.deflatePDFObject s b) := trivial
@[simp] theorem Role.holds_deflate : Role.deflate.Holds (.deflatePDFObject s b) := trivial
@[simp] theorem Role.holds_pages : Role.pages.Holds .delayedPages := trivial
@[simp] theorem Role.holds_anyPage {p : DelayedPage} : Role.anyPage.Holds (.delayedPage p) := trivial

@[simp] theorem Role.holds_page {p : DelayedPage} : (Role.page i).Holds (.delayedPage p) ↔ p.pageNum = i :=
  .rfl

@[simp] theorem Role.holds_annot {a : Annotation} :
    ((Role.annot i).Holds <| ObjectType.delayedAnnotation j a) ↔ j = i := .rfl

@[simp] theorem Role.holds_widget {w : DelayedCheckboxWidgetAnnotation} :
    ((Role.widget i).Holds <| ObjectType.delayedCheckboxWidgetAnnotation w) ↔ w.widget = i := .rfl

@[simp] theorem Role.holds_structItem : (Role.structItem i).Holds (.delayedStructItem j) ↔ j = i :=
  .rfl

@[simp] theorem Role.holds_fontData :
    (Role.fontData i).Holds (.delayedSubsetFontData j k) ↔ j = i ∧ k = 0 := .rfl

@[simp] theorem Role.holds_fontDescriptor {data : Nat} :
    (Role.fontDescriptor i).Holds (.delayedSubsetFontDescriptor j data k) ↔ j = i ∧ k = 0 := .rfl

@[simp] theorem Role.holds_cmap : (Role.cmap i).Holds (.delayedSubsetCMap j k) ↔ j = i ∧ k = 0 :=
  .rfl

@[simp] theorem Role.holds_fontOf_full :
    (Role.fontOf fid).Holds (.fullPDFObject s b) ↔ fid = -1 ∧ Begins s "<<\n  /Type /Font\n" := .rfl

@[simp] theorem Role.holds_fontOf_subset {desc cmap : Nat} :
    (Role.fontOf fid).Holds (.delayedSubsetFont j desc cmap) ↔ fid = j := .rfl

end Holds

theorem ObjectType.links_delayedPage {d : PdfDocument} {p : DelayedPage}
    (h : ∀ n ∈ p.subnavRoot, d.Designates n (.head "<<\n  /Type /NavNode\n")) :
    ∀ l ∈ (ObjectType.delayedPage p).links, d.Designates l.1 l.2 := by
  simpa [ObjectType.links] using h

namespace PdfDocument

variable {d d' : PdfDocument} {o : ObjectType} {p : Place} {n m : Nat} {r : Role}

theorem Designates.lt (h : d.Designates n r) : n < d.documentObjects.length :=
  let ⟨_, ho, _⟩ := h
  (List.getElem?_eq_some_iff.mp ho).1

theorem designates_congr (h : d'.documentObjects = d.documentObjects) :
    d'.Designates n r ↔ d.Designates n r := by
  simp [Designates, h]

@[simp] theorem designates_pushStructureParentTreeItems {structs : List Int} :
    (d.pushStructureParentTreeItems structs).Designates n r ↔ d.Designates n r :=
  designates_congr rfl

theorem Designates.pushObject (h : d.Designates n r) (o : ObjectType) :
    (d.pushObject o).Designates n r :=
  let ⟨o', ho, hr⟩ := h
  ⟨o', by simpa [List.getElem?_append_left h.lt] using ho, hr⟩

@[simp] theorem designates_pushObject_self (hn : n = d.documentObjects.length) :
    (d.pushObject o).Designates n r ↔ r.Holds o := by
  simp [Designates, hn]

@[simp] theorem designates_pushObject_of_lt (hn : n < d.documentObjects.length) :
    (d.pushObject o).Designates n r ↔ d.Designates n r := by
  simp [Designates, List.getElem?_append_left hn]

theorem designates_pushObject_length (h : r.Holds o) :
    (d.pushObject o).Designates d.documentObjects.length r :=
  (designates_pushObject_self rfl).mpr h

theorem Numbered.pos (h : d.Numbered) (hd : d.Designates n r) : 0 < n := by
  obtain ⟨o, ho, hr⟩ := hd
  refine Nat.pos_of_ne_zero fun hn => ?_
  subst hn
  rw [h.sentinel] at ho
  cases ho
  exact r.not_holds_dummy hr

theorem Numbered.update (h : d.Numbered) (hobj : d'.documentObjects = d.documentObjects)
    (ps : List Place) (hsame : ∀ p ∉ ps, d'.Records p = d.Records p)
    (hnew : ∀ p ∈ ps, ∀ {n r}, d'.Records p n r → d.Records p n r ∨ d.Designates n r) :
    d'.Numbered where
  sentinel := hobj ▸ h.sentinel
  sentinel_unique := hobj ▸ h.sentinel_unique
  records {p n r} hp := by
    unfold Designates
    rw [hobj]
    by_cases hps : p ∈ ps
    · exact (hnew p hps hp).elim h.records id
    · exact h.records (hsame p hps ▸ hp)

theorem Numbered.pushObject (h : d.Numbered) (ho : o ≠ .dummyIndexZero)
    (hl : ∀ l ∈ o.links, d.Designates l.1 l.2) : (d.pushObject o).Numbered where
  sentinel := by
    have h0 := (List.getElem?_eq_some_iff.mp h.sentinel).1
    simpa [List.getElem?_append_left h0] using h.sentinel
  sentinel_unique n hn := by
    rcases List.getElem?_concat_eq_some hn with hn | ⟨-, hn⟩
    exacts [h.sentinel_unique n hn, absurd hn.symm ho]
  records {p n r} hp := by
    by_cases hpl : p = .link
    · subst hpl
      obtain ⟨m, o', hm, hl'⟩ := hp
      rcases List.getElem?_concat_eq_some hm with hm | ⟨-, rfl⟩
      exacts [(h.records (p := .link) ⟨m, o', hm, hl'⟩).pushObject _, (hl _ hl').pushObject _]
    · have : (d.pushObject o).Records p = d.Records p := by cases p <;> first | rfl | contradiction
      exact (h.records (this ▸ hp)).pushObject o

theorem Numbered.registerPage (h : d.Numbered) {fws annots structs : List Int} {po : PageOffsets}
    (hp : d.Designates po.pageObjNum (.page d.pages.length))
    (hr : d.Designates po.resourceObjNum .bare) (hc : d.Designates po.commandObjNum .stream) :
    (d.registerPage fws annots structs po).Numbered := by
  have hany : d.Designates po.pageObjNum .anyPage :=
    let ⟨o, ho, hh⟩ := hp
    ⟨o, ho, by cases o <;> trivial⟩
  refine h.update rfl [.page, .pageResources, .pageCommands, .formUse, .annotationUse]
    (fun p hp => by cases p <;> first | rfl | simp at hp) ?_
  simp only [List.mem_cons, List.mem_singleton, List.not_mem_nil, or_false, forall_eq_or_imp,
    forall_eq]
  refine ⟨?pageObj, ?resources, ?commands, ?forms, ?annots⟩ <;> intro n r hn
  case pageObj =>
    obtain ⟨i, po', hi, rfl, rfl⟩ := hn
    rcases List.getElem?_concat_eq_some hi with hi | ⟨rfl, rfl⟩
    exacts [.inl ⟨i, po', hi, rfl, rfl⟩, .inr hp]
  case resources | commands =>
    obtain ⟨po', hi, rfl, rfl⟩ := hn
    rcases List.mem_append.mp hi with hi | hi
    exacts [.inl ⟨po', hi, rfl, rfl⟩, List.mem_singleton.mp hi ▸ .inr ‹_›]
  -- The form widgets and the annotations name the page object.
  case forms | annots =>
    obtain ⟨⟨k, hk⟩, rfl⟩ := hn
    rcases UMap.find?_insertAll_eq_some _ _ _ hk with hk | hk
    · exact .inl ⟨⟨k, hk⟩, rfl⟩
    · obtain ⟨_, -, ⟨⟩⟩ := List.mem_map.mp hk
      exact .inr hany

theorem Numbered.pushDict (h : d.Numbered) (pl : Place) (r₀ : Role)
    (hobj : d'.documentObjects = d.documentObjects) (hsame : ∀ p ≠ pl, d'.Records p = d.Records p)
    (hnew : ∀ {n r}, d'.Records pl n r → d.Records pl n r ∨ (n = m ∧ r = r₀))
    (hm : d.Designates m r₀) : d'.Numbered :=
  h.update hobj [pl] (fun p hp => hsame p (by simpa using hp)) fun p hp n r hn => by
    simp only [List.mem_singleton] at hp
    subst hp
    exact (hnew hn).imp id fun ⟨hn, hr⟩ => hn ▸ hr ▸ hm

theorem Numbered.pushFormXobject (h : d.Numbered) (hm : d.Designates m .dict) :
    (d.pushFormXobject m).Numbered :=
  h.pushDict .formXobject _ rfl (fun p hp => by cases p <;> first | rfl | contradiction)
    (fun ⟨hn, hr⟩ => by simp at hn; exact hn.imp (⟨·, hr⟩) (⟨·, hr⟩)) hm

theorem Numbered.pushSeparationObject (h : d.Numbered)
    (hm : d.Designates m (.head "[\n  /Separation\n")) : (d.pushSeparationObject m).Numbered :=
  h.pushDict .separation _ rfl (fun p hp => by cases p <;> first | rfl | contradiction)
    (fun ⟨hn, hr⟩ => by simp at hn; exact hn.imp (⟨·, hr⟩) (⟨·, hr⟩)) hm

theorem Numbered.pushOcgItem (h : d.Numbered) (hm : d.Designates m (.head "<<\n  /Type /OCG\n")) :
    (d.pushOcgItem m).Numbered :=
  h.pushDict .ocg _ rfl (fun p hp => by cases p <;> first | rfl | contradiction)
    (fun ⟨hn, hr⟩ => by simp at hn; exact hn.imp (⟨·, hr⟩) (⟨·, hr⟩)) hm

theorem Numbered.pushTransparencyGroup (h : d.Numbered) (hm : d.Designates m .dict) :
    (d.pushTransparencyGroup m).Numbered :=
  h.pushDict .transparencyGroup _ rfl (fun p hp => by cases p <;> first | rfl | contradiction)
    (fun ⟨hn, hr⟩ => by simp at hn; exact hn.imp (⟨·, hr⟩) (⟨·, hr⟩)) hm

theorem Numbered.pushImageInfo (h : d.Numbered) {info : ImageInfo}
    (hm : d.Designates info.obj (.head "<<\n  /Type /XObject\n  /Subtype /Image\n")) :
    (d.pushImageInfo info).Numbered :=
  h.pushDict .image _ rfl (fun p hp => by cases p <;> first | rfl | contradiction)
    (fun ⟨⟨im, him, hn⟩, hr⟩ => by
      simp only [pushImageInfo_imageInfo, List.mem_append, List.mem_singleton] at him
      rcases him with him | rfl
      exacts [.inl ⟨⟨im, him, hn⟩, hr⟩, .inr ⟨hn.symm, hr⟩]) hm

theorem Numbered.setPageGroupObject (h : d.Numbered)
    (hm : d.Designates m (.head "<<\n  /S /Transparency\n")) : (d.setPageGroupObject m).Numbered :=
  h.pushDict .pageGroupObject _ rfl (fun p hp => by cases p <;> first | rfl | contradiction)
    (fun ⟨hn, hr⟩ => .inr ⟨(Option.some.inj hn).symm, hr⟩) hm

theorem Numbered.setOutputIntentObject (h : d.Numbered)
    (hm : d.Designates m (.head "<<\n  /Type /OutputIntent\n")) :
    (d.setOutputIntentObject m).Numbered :=
  h.pushDict .outputIntent _ rfl (fun p hp => by cases p <;> first | rfl | contradiction)
    (fun ⟨hn, hr⟩ => .inr ⟨(Option.some.inj hn).symm, hr⟩) hm

theorem Numbered.setStructureParentTreeObject (h : d.Numbered)
    (hm : d.Designates m (.head "<< /Nums [\n")) : (d.setStructureParentTreeObject m).Numbered :=
  h.pushDict .structureParentTree _ rfl (fun p hp => by cases p <;> first | rfl | contradiction)
    (fun ⟨hn, hr⟩ => .inr ⟨(Option.some.inj hn).symm, hr⟩) hm

theorem Numbered.setStructureRootObject (h : d.Numbered)
    (hm : d.Designates m (.head "<<\n  /Type /StructTreeRoot\n")) :
    (d.setStructureRootObject m).Numbered :=
  h.pushDict .structureRoot _ rfl (fun p hp => by cases p <;> first | rfl | contradiction)
    (fun ⟨hn, hr⟩ => .inr ⟨(Option.some.inj hn).symm, hr⟩) hm

theorem Numbered.pushStructureItem (h : d.Numbered) {s : StructItem}
    (hm : d.Designates s.objId (.structItem d.structureItems.length)) :
    (d.pushStructureItem s).Numbered :=
  h.update rfl [.structItem] (fun p hp => by cases p <;> first | rfl | simp at hp) fun p hp n r hn => by
    simp only [List.mem_singleton] at hp
    subst hp
    obtain ⟨i, s', hi, rfl, rfl⟩ := hn
    rcases List.getElem?_concat_eq_some hi with hi | ⟨rfl, rfl⟩
    exacts [.inl ⟨i, s', hi, rfl, rfl⟩, .inr hm]

theorem Numbered.pushFormWidget (h : d.Numbered)
    (hm : d.Designates m (.widget d.formWidgets.length)) : (d.pushFormWidget m).Numbered :=
  h.update rfl [.formWidget] (fun p hp => by cases p <;> first | rfl | simp at hp) fun p hp n r hn => by
    simp only [List.mem_singleton] at hp
    subst hp
    obtain ⟨i, hi, rfl⟩ := hn
    rcases List.getElem?_concat_eq_some hi with hi | ⟨rfl, rfl⟩
    exacts [.inl ⟨i, hi, rfl⟩, .inr hm]

theorem Numbered.pushAnnot (h : d.Numbered)
    (hm : d.Designates m (.annot d.annotations.length)) : (d.pushAnnot m).Numbered :=
  h.update rfl [.annot] (fun p hp => by cases p <;> first | rfl | simp at hp) fun p hp n r hn => by
    simp only [List.mem_singleton] at hp
    subst hp
    obtain ⟨i, hi, rfl⟩ := hn
    rcases List.getElem?_concat_eq_some hi with hi | ⟨rfl, rfl⟩
    exacts [.inl ⟨i, hi, rfl⟩, .inr hm]

theorem Numbered.pushIccProfile (h : d.Numbered) {info : IccInfo}
    (hs : d.Designates info.streamNum .deflate)
    (ho : d.Designates info.objectNum (.head ("[ /ICCBased " ++ toString info.streamNum ++ " 0 R ]"))) :
    (d.pushIccProfile info).Numbered :=
  h.update rfl [.iccStream, .iccObject] (fun p hp => by cases p <;> first | rfl | simp at hp)
    fun p hp n r hn => by
      simp only [List.mem_cons, List.mem_singleton, List.not_mem_nil, or_false] at hp
      rcases hp with rfl | rfl
      · obtain ⟨⟨icc, hicc, rfl⟩, rfl⟩ := hn
        simp only [pushIccProfile_iccProfiles, List.mem_append, List.mem_singleton] at hicc
        rcases hicc with hicc | rfl
        exacts [.inl ⟨⟨icc, hicc, rfl⟩, rfl⟩, .inr hs]
      · obtain ⟨icc, hicc, rfl, rfl⟩ := hn
        simp only [pushIccProfile_iccProfiles, List.mem_append, List.mem_singleton] at hicc
        rcases hicc with hicc | rfl
        exacts [.inl ⟨icc, hicc, rfl, rfl⟩, .inr ho]

theorem Numbered.pushEmbeddedFile (h : d.Numbered) {f : EmbeddedFileObject}
    (hs : d.Designates f.filespecObj (.head "<<\n  /Type /Filespec\n"))
    (hc : d.Designates f.contentsObj (.head "<<\n  /Type /EmbeddedFile\n")) :
    (d.pushEmbeddedFile f).Numbered :=
  h.update rfl [.embeddedFilespec, .embeddedContents]
    (fun p hp => by cases p <;> first | rfl | simp at hp) fun p hp n r hn => by
      simp only [List.mem_cons, List.mem_singleton, List.not_mem_nil, or_false] at hp
      rcases hp with rfl | rfl <;> obtain ⟨⟨f', hf, rfl⟩, rfl⟩ := hn <;>
        simp only [pushEmbeddedFile_embeddedFiles, List.mem_append, List.mem_singleton] at hf <;>
        rcases hf with hf | rfl
      exacts [.inl ⟨⟨f', hf, rfl⟩, rfl⟩, .inr hs, .inl ⟨⟨f', hf, rfl⟩, rfl⟩, .inr hc]

theorem Numbered.pushFontObject (h : d.Numbered) {fi : FontInfo}
    (hfile : ∀ n fid : Nat, fi.fontIndexTmp = fid → fi.fontFileObj = n → d.Designates n (.fontData fid))
    (hdesc : ∀ n fid : Nat, fi.fontIndexTmp = fid → fi.fontDescriptorObj = n →
      d.Designates n (.fontDescriptor fid))
    (hobj : d.Designates fi.fontObj (.fontOf fi.fontIndexTmp)) : (d.pushFontObject fi).Numbered :=
  h.update rfl [.fontFile, .fontDescriptor, .fontObj]
    (fun p hp => by cases p <;> first | rfl | simp at hp) fun p hp n r hn => by
      simp only [List.mem_cons, List.mem_singleton, List.not_mem_nil, or_false] at hp
      rcases hp with rfl | rfl | rfl
      · obtain ⟨fi', hfi, fid, h1, h2, rfl⟩ := hn
        simp only [pushFontObject_fontObjects, List.mem_append, List.mem_singleton] at hfi
        rcases hfi with hfi | rfl
        exacts [.inl ⟨fi', hfi, fid, h1, h2, rfl⟩, .inr (hfile n fid h1 h2)]
      · obtain ⟨fi', hfi, fid, h1, h2, rfl⟩ := hn
        simp only [pushFontObject_fontObjects, List.mem_append, List.mem_singleton] at hfi
        rcases hfi with hfi | rfl
        exacts [.inl ⟨fi', hfi, fid, h1, h2, rfl⟩, .inr (hdesc n fid h1 h2)]
      · obtain ⟨fi', hfi, rfl, rfl⟩ := hn
        simp only [pushFontObject_fontObjects, List.mem_append, List.mem_singleton] at hfi
        rcases hfi with hfi | rfl
        exacts [.inl ⟨fi', hfi, rfl, rfl⟩, .inr hobj]

theorem Numbered.pushSubsetFontObject (h : d.Numbered) {file desc obj fid : Nat}
    (hfile : d.Designates file (.fontData fid)) (hdesc : d.Designates desc (.fontDescriptor fid))
    (hobj : d.Designates obj (.fontOf fid)) : (d.pushFontObject ⟨file, desc, obj, fid⟩).Numbered :=
  h.pushFontObject (fun _ _ h1 h2 => by cases h1; cases h2; exact hfile)
    (fun _ _ h1 h2 => by cases h1; cases h2; exact hdesc) hobj

theorem Numbered.pushBuiltinFontObject (h : d.Numbered) (hobj : d.Designates m (.fontOf (-1))) :
    (d.pushFontObject ⟨-1, -1, m, -1⟩).Numbered :=
  h.pushFontObject (fun _ _ h1 => by cases h1) (fun _ _ h1 => by cases h1) hobj

theorem Numbered.setPagesObject (h : d.Numbered) (hm : d.Designates m .pages) :
    (d.setPagesObject m).Numbered :=
  h.update rfl [.pagesObject] (fun p hp => by cases p <;> first | rfl | simp at hp)
    fun p hp n r hn => by
      simp only [List.mem_singleton] at hp
      subst hp
      obtain ⟨hn, rfl⟩ := hn
      cases hn
      exact .inr hm

theorem Numbered.of_records_eq (h : d.Numbered) (hobj : d'.documentObjects = d.documentObjects)
    (hsame : ∀ p, d'.Records p = d.Records p) : d'.Numbered :=
  h.update hobj [] (fun p _ => hsame p) (by simp)

theorem Numbered.pushStructureParentTreeItems (h : d.Numbered) (structs : List Int) :
    (d.pushStructureParentTreeItems structs).Numbered :=
  h.of_records_eq rfl fun p => by cases p <;> rfl

theorem Numbered.setFonts (h : d.Numbered) (fonts : List FontThingy) : (d.setFonts fonts).Numbered :=
  h.of_records_eq rfl fun p => by cases p <;> rfl

theorem Numbered.insertBuiltinFont (h : d.Numbered) (font : BuiltinFont) (fid : Nat) :
    (d.insertBuiltinFont font fid).Numbered :=
  h.of_records_eq rfl fun p => by cases p <;> rfl

theorem Numbered.setOutlines (h : d.Numbered) (outlines : Outlines) :
    (d.setOutlines outlines).Numbered :=
  h.of_records_eq rfl fun p => by cases p <;> rfl

theorem Numbered.pushRolemapEntry (h : d.Numbered) (e : RolemapEntry) :
    (d.pushRolemapEntry e).Numbered :=
  h.of_records_eq rfl fun p => by cases p <;> rfl

theorem Numbered.setOutputProfile (h : d.Numbered) (id : Int) : (d.setOutputProfile id).Numbered :=
  h.of_records_eq rfl fun p => by cases p <;> rfl

end PdfDocument

end CapyPdf
