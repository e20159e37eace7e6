import CapyPdf.Document.Theorems.Pages.Frame
import CapyPdf.Document.Theorems.Numbering.Page
import CapyPdf.Basic.Fails

namespace CapyPdf

theorem getElem?_of_extends {α : Type} {l₁ l₂ : List α} (hp : l₁ <+: l₂) {n : Nat} {a : α}
    (h : l₁[n]? = some a) : l₂[n]? = some a := by
  obtain ⟨t, rfl⟩ := hp
  rw [List.getElem?_append_left (List.getElem?_eq_some_iff.mp h).1, h]

theorem UMap.find?_eq_none_of_not_any {ν : Type} {m : UMap Int ν} {l : List Int}
    (h : ¬(l.any m.contains = true)) : ∀ a ∈ l, m.find? a = none := by
  intro a ha
  cases hf : m.find? a
  · rfl
  · exact absurd (List.any_eq_true.mpr ⟨a, ha, (UMap.contains_iff _ _).mpr ⟨_, hf⟩⟩) h

namespace PdfDocument

variable {d d' : PdfDocument} {i : Nat}

def pageEntry? (d : PdfDocument) (i : Nat) : Option (PageOffsets × DelayedPage) :=
  d.pages[i]?.bind fun po =>
    match d.documentObjects[po.pageObjNum]? with
    | some (.delayedPage p) => some (po, p)
    | _ => none

def structKey? (d : PdfDocument) (i : Nat) : Option Nat :=
  (d.pageEntry? i).bind (·.2.structparents)

def pageStructs (d : PdfDocument) (i : Nat) : List Int :=
  match d.structKey? i with
  | some k => d.structureParentTreeItems.getD k []
  | none => []

theorem pageEntry?_eq_some {po : PageOffsets} {p : DelayedPage} :
    d.pageEntry? i = some (po, p) ↔
      d.pages[i]? = some po ∧ d.documentObjects[po.pageObjNum]? = some (.delayedPage p) := by
  unfold pageEntry?
  cases d.pages[i]? with
  | none => simp
  | some po' =>
    simp only [Option.some_bind, Option.some.injEq]
    split
    · next p' hp' =>
      constructor
      · rintro ⟨⟨⟩⟩
        exact ⟨rfl, hp'⟩
      · rintro ⟨rfl, hp⟩
        rw [hp'] at hp
        cases hp
        rfl
    · next hn =>
      simp only [reduceCtorEq, false_iff, not_and]
      rintro rfl hp
      exact hn _ hp

theorem pageEntry?_lt {e : PageOffsets × DelayedPage} (h : d.pageEntry? i = some e) :
    i < d.pages.length :=
  (List.getElem?_eq_some_iff.mp (pageEntry?_eq_some.mp h).1).1

theorem structKey?_lt {k : Nat} (h : d.structKey? i = some k) : i < d.pages.length :=
  let ⟨_, he, _⟩ := Option.bind_eq_some.mp h
  pageEntry?_lt he

theorem PagesKept.pages_eq (h : PagesKept d d') : d'.pages = d.pages :=
  congrArg Prod.fst h.view

theorem PagesKept.formUse_eq (h : PagesKept d d') : d'.formUse = d.formUse :=
  congrArg (·.2.1) h.view

theorem PagesKept.annotationUse_eq (h : PagesKept d d') : d'.annotationUse = d.annotationUse :=
  congrArg (·.2.2.1) h.view

theorem PagesKept.structureUse_eq (h : PagesKept d d') : d'.structureUse = d.structureUse :=
  congrArg (·.2.2.2.1) h.view

theorem PagesKept.structureParentTreeItems_eq (h : PagesKept d d') :
    d'.structureParentTreeItems = d.structureParentTreeItems :=
  congrArg (·.2.2.2.2) h.view

theorem pageEntry?_of_extends (hp : d.pages <+: d'.pages)
    (ho : d.documentObjects <+: d'.documentObjects) {e : PageOffsets × DelayedPage}
    (he : d.pageEntry? i = some e) : d'.pageEntry? i = some e := by
  obtain ⟨po, p⟩ := e
  obtain ⟨hpo, hobj⟩ := pageEntry?_eq_some.mp he
  exact pageEntry?_eq_some.mpr ⟨getElem?_of_extends hp hpo, getElem?_of_extends ho hobj⟩

theorem PagesKept.pageEntry? (h : PagesKept d d') {e : PageOffsets × DelayedPage}
    (he : d.pageEntry? i = some e) : d'.pageEntry? i = some e :=
  pageEntry?_of_extends (h.pages_eq ▸ List.prefix_refl _) h.grows he

def UseMap (entry : Nat → Option (PageOffsets × DelayedPage)) (use : UMap Int Nat)
    (ids : DelayedPage → List Int) : Prop :=
  ∀ a n, use.find? a = some n ↔ ∃ i po p, entry i = some (po, p) ∧ a ∈ ids p ∧ n = po.pageObjNum

structure PageUse (d : PdfDocument) : Prop where
  entry : ∀ i < d.pages.length, ∃ po p, d.pageEntry? i = some (po, p) ∧ p.pageNum = i
  form : UseMap d.pageEntry? d.formUse DelayedPage.usedFormWidgets
  annot : UseMap d.pageEntry? d.annotationUse DelayedPage.usedAnnotations
  structUse : ∀ s i m, d.structureUse.find? s = some ⟨i, m⟩ →
    ∃ k, d.structKey? i = some k ∧ (d.structureParentTreeItems[k]?).bind (·[m]?) = some s
  structListed : ∀ s i, s ∈ d.pageStructs i → ∃ m, d.structureUse.find? s = some ⟨i, m⟩
  keys : (List.range d.pages.length).filterMap d.structKey? =
    List.range d.structureParentTreeItems.length
  nonempty : [] ∉ d.structureParentTreeItems

theorem PageUse.isSome_pageEntry? (h : PageUse d) (hi : i < d.pages.length) :
    (d.pageEntry? i).isSome := by
  obtain ⟨po, p, he, -⟩ := h.entry i hi
  simp [he]

theorem PageUse.of_view (h : PageUse d) (he : d'.pageEntry? = d.pageEntry?)
    (hv : d'.pageView = d.pageView) : PageUse d' := by
  simp only [pageView, Prod.mk.injEq] at hv
  obtain ⟨hp, hf, ha, hs, ht⟩ := hv
  have hk : d'.structKey? = d.structKey? := by
    funext i
    simp only [structKey?, he]
  have hl : d'.pageStructs = d.pageStructs := by
    funext i
    simp only [pageStructs, hk, ht]
  obtain ⟨h₁, h₂, h₃, h₄, h₅, h₆, h₇⟩ := h
  exact ⟨by rwa [hp, he], by rwa [hf, he], by rwa [ha, he], by rwa [hs, hk, ht], by rwa [hl, hs],
    by rwa [hp, hk, ht], by rwa [ht]⟩

theorem PageUse.of_kept (h : PageUse d) (hk : PagesKept d d') : PageUse d' := by
  refine h.of_view (funext fun i => ?_) hk.view
  by_cases hi : i < d.pages.length
  · obtain ⟨e, he⟩ := Option.isSome_iff_exists.mp (h.isSome_pageEntry? hi)
    rw [he, hk.pageEntry? he]
  · have hn : ∀ {d : PdfDocument}, ¬i < d.pages.length → d.pageEntry? i = none := fun hi => by
      simp [PdfDocument.pageEntry?, List.getElem?_eq_none (Nat.le_of_not_lt hi)]
    rw [hn hi, hn (hk.pages_eq ▸ hi)]

section WithPage

variable {fws annots structs : List Int} {tr : Option Transition} {root : Option Nat}
  {res cmd : Nat}

def newPage (d : PdfDocument) (fws annots structs : List Int) (tr : Option Transition)
    (root : Option Nat) : DelayedPage :=
  ⟨d.pages.length, fws, annots, tr, root,
    if structs.isEmpty then none else some d.structureParentTreeItems.length⟩

def withPage (d : PdfDocument) (fws annots structs : List Int) (tr : Option Transition)
    (root : Option Nat) (res cmd : Nat) : PdfDocument :=
  let d₁ := if structs.isEmpty then d else d.pushStructureParentTreeItems structs
  (d₁.pushObject (.delayedPage (d.newPage fws annots structs tr root))).registerPage fws annots
    structs ⟨res, cmd, d.documentObjects.length⟩

@[simp] theorem withPage_pages :
    (d.withPage fws annots structs tr root res cmd).pages =
      d.pages ++ [⟨res, cmd, d.documentObjects.length⟩] := by
  unfold withPage; split <;> rfl

@[simp] theorem withPage_documentObjects :
    (d.withPage fws annots structs tr root res cmd).documentObjects =
      d.documentObjects ++ [.delayedPage (d.newPage fws annots structs tr root)] := by
  unfold withPage; split <;> rfl

@[simp] theorem withPage_formUse :
    (d.withPage fws annots structs tr root res cmd).formUse =
      d.formUse.insertAll (fws.map (·, d.documentObjects.length)) := by
  unfold withPage; split <;> rfl

@[simp] theorem withPage_annotationUse :
    (d.withPage fws annots structs tr root res cmd).annotationUse =
      d.annotationUse.insertAll (annots.map (·, d.documentObjects.length)) := by
  unfold withPage; split <;> rfl

@[simp] theorem withPage_structureUse :
    (d.withPage fws annots structs tr root res cmd).structureUse =
      d.structureUse.insertAll (structs.enum.map fun (m, s) => (s, ⟨d.pages.length, m⟩)) := by
  unfold withPage; split <;> rfl

@[simp] theorem withPage_structureItems :
    (d.withPage fws annots structs tr root res cmd).structureItems = d.structureItems := by
  unfold withPage; split <;> rfl

@[simp] theorem withPage_structureParentTreeItems :
    (d.withPage fws annots structs tr root res cmd).structureParentTreeItems =
      d.structureParentTreeItems ++ if structs.isEmpty then [] else [structs] := by
  unfold withPage; split <;> simp_all

theorem pageEntry?_withPage (hent : ∀ i < d.pages.length, (d.pageEntry? i).isSome) (j : Nat) :
    (d.withPage fws annots structs tr root res cmd).pageEntry? j =
      if j < d.pages.length then d.pageEntry? j
      else if j = d.pages.length then
        some (⟨res, cmd, d.documentObjects.length⟩, d.newPage fws annots structs tr root)
      else none := by
  split_ifs with h₁ h₂
  · obtain ⟨e, he⟩ := Option.isSome_iff_exists.mp (hent j h₁)
    rw [he]
    exact pageEntry?_of_extends (by simp) (by simp) he
  · subst h₂
    exact pageEntry?_eq_some.mpr ⟨by simp, by simp⟩
  · simp only [PdfDocument.pageEntry?, withPage_pages]
    rw [List.getElem?_eq_none (by simp; omega)]
    rfl

theorem UseMap.register {entry entry' : Nat → Option (PageOffsets × DelayedPage)}
    {use : UMap Int Nat} {ids : DelayedPage → List Int} {len : Nat} {po : PageOffsets}
    {p : DelayedPage} (h : UseMap entry use ids) (hfree : ∀ a ∈ ids p, use.find? a = none)
    (hlt : ∀ i e, entry i = some e → i < len)
    (he : ∀ i, entry' i = if i < len then entry i else if i = len then some (po, p) else none) :
    UseMap entry' (use.insertAll ((ids p).map (·, po.pageObjNum))) ids := by
  intro a n
  constructor
  · intro hfind
    rcases UMap.find?_insertAll_eq_some _ _ _ hfind with hold | hnew
    · obtain ⟨i, po', p', hi, ha, hn⟩ := (h a n).mp hold
      exact ⟨i, po', p', by rw [he, if_pos (hlt _ _ hi)]; exact hi, ha, hn⟩
    · obtain ⟨a', ha', ⟨⟩⟩ := List.mem_map.mp hnew
      exact ⟨len, po, p, by simp [he], ha', rfl⟩
  · rintro ⟨i, po', p', hi, ha, rfl⟩
    rw [he] at hi
    split_ifs at hi with h₁ h₂
    · have hold := (h a _).mpr ⟨i, po', p', hi, ha, rfl⟩
      have hnot : a ∉ ((ids p).map (·, po.pageObjNum)).map Prod.fst := by
        simp only [List.map_map, Function.comp_def, List.map_id']
        exact fun hm => by simp [hfree a hm] at hold
      rw [UMap.find?_insertAll_of_not_mem _ _ _ hnot, hold]
    · obtain ⟨⟩ := hi
      have hmem : a ∈ ((ids p).map (·, po.pageObjNum)).map Prod.fst := by
        simpa [Function.comp_def] using ha
      obtain ⟨v, hv, hm⟩ := UMap.find?_insertAll_of_mem use a hmem
      obtain ⟨_, _, ⟨⟩⟩ := List.mem_map.mp hm
      exact hv

theorem structKey?_withPage_of_lt (hent : ∀ i < d.pages.length, (d.pageEntry? i).isSome)
    (hi : i < d.pages.length) :
    (d.withPage fws annots structs tr root res cmd).structKey? i = d.structKey? i := by
  simp only [structKey?, pageEntry?_withPage hent, if_pos hi]

theorem structKey?_withPage_self (hent : ∀ i < d.pages.length, (d.pageEntry? i).isSome) :
    (d.withPage fws annots structs tr root res cmd).structKey? d.pages.length =
      if structs.isEmpty then none else some d.structureParentTreeItems.length := by
  simp [structKey?, pageEntry?_withPage hent, newPage]

theorem PageUse.key_lt (h : PageUse d) {k : Nat} (hk : d.structKey? i = some k) :
    k < d.structureParentTreeItems.length := by
  have : k ∈ (List.range d.pages.length).filterMap d.structKey? :=
    List.mem_filterMap.mpr ⟨i, List.mem_range.mpr (structKey?_lt hk), hk⟩
  rw [h.keys] at this
  exact List.mem_range.mp this

theorem mem_keys_enum {ν : Type} {l : List Int} {f : Nat → ν} {s : Int} :
    s ∈ (l.enum.map fun (j, s) => (s, f j)).map Prod.fst ↔ s ∈ l := by
  simp only [List.map_map, List.mem_map, Function.comp_apply, Prod.exists]
  constructor
  · rintro ⟨j, t, hj, rfl⟩
    exact List.mem_iff_getElem?.mpr ⟨_, List.mem_enum_iff_getElem?.mp hj⟩
  · intro hs
    obtain ⟨j, hj⟩ := List.mem_iff_getElem?.mp hs
    exact ⟨j, s, List.mem_enum_iff_getElem?.mpr hj, rfl⟩

theorem PageUse.structUse_withPage (h : PageUse d)
    (hent : ∀ i < d.pages.length, (d.pageEntry? i).isSome) (s : Int) (i m : Nat)
    (hfind : (d.withPage fws annots structs tr root res cmd).structureUse.find? s = some ⟨i, m⟩) :
    ∃ k, (d.withPage fws annots structs tr root res cmd).structKey? i = some k ∧
      ((d.withPage fws annots structs tr root res cmd).structureParentTreeItems[k]?).bind
        (·[m]?) = some s := by
  rw [withPage_structureUse] at hfind
  rcases UMap.find?_insertAll_eq_some _ _ _ hfind with hold | hnew
  · obtain ⟨k, hk, hks⟩ := h.structUse s i m hold
    refine ⟨k, by rw [structKey?_withPage_of_lt hent (structKey?_lt hk), hk], ?_⟩
    rw [withPage_structureParentTreeItems, List.getElem?_append_left (h.key_lt hk)]
    exact hks
  · obtain ⟨⟨m', s'⟩, hm, heq⟩ := List.mem_map.mp hnew
    simp only [Prod.mk.injEq, StructureUsage.mk.injEq] at heq
    obtain ⟨rfl, rfl, rfl⟩ := heq
    have hsm : structs[m']? = some s' := List.mem_enum_iff_getElem?.mp hm
    have hne : structs.isEmpty = false := by
      cases structs
      · simp at hsm
      · rfl
    refine ⟨d.structureParentTreeItems.length, by simp [structKey?_withPage_self hent, hne], ?_⟩
    simp [hne, hsm]

theorem PageUse.structListed_withPage (h : PageUse d)
    (hent : ∀ i < d.pages.length, (d.pageEntry? i).isSome)
    (hs : ∀ s ∈ structs, d.structureUse.find? s = none) (s : Int) (i : Nat)
    (hmem : s ∈ (d.withPage fws annots structs tr root res cmd).pageStructs i) :
    ∃ m, (d.withPage fws annots structs tr root res cmd).structureUse.find? s = some ⟨i, m⟩ := by
  cases hk : (d.withPage fws annots structs tr root res cmd).structKey? i with
  | none => simp [pageStructs, hk] at hmem
  | some k =>
    simp only [pageStructs, hk, withPage_structureParentTreeItems,
      List.getD_eq_getElem?_getD] at hmem
    rw [withPage_structureUse]
    by_cases hi : i < d.pages.length
    · rw [structKey?_withPage_of_lt hent hi] at hk
      rw [List.getElem?_append_left (h.key_lt hk)] at hmem
      obtain ⟨m, hm⟩ := h.structListed s i (by simpa [pageStructs, hk] using hmem)
      have hnot : s ∉ structs := fun hsm => by simp [hs s hsm] at hm
      exact ⟨m, by rw [UMap.find?_insertAll_of_not_mem _ _ _ (mt mem_keys_enum.mp hnot), hm]⟩
    · have hle := structKey?_lt hk
      simp only [withPage_pages, List.length_append, List.length_singleton] at hle
      obtain rfl : i = d.pages.length := by omega
      rw [structKey?_withPage_self hent] at hk
      cases hne : structs.isEmpty <;> simp only [hne, if_true, if_false, reduceCtorEq,
        Option.some.injEq] at hk
      subst hk
      have hs' : s ∈ structs := by simpa [hne] using hmem
      obtain ⟨v, hv, hvm⟩ := UMap.find?_insertAll_of_mem d.structureUse s (mem_keys_enum.mpr hs')
      obtain ⟨⟨j, t⟩, -, hjt⟩ := List.mem_map.mp hvm
      simp only [Prod.mk.injEq] at hjt
      obtain ⟨rfl, rfl⟩ := hjt
      exact ⟨j, hv⟩

theorem PageUse.withPage (h : PageUse d) (hf : ∀ a ∈ fws, d.formUse.find? a = none)
    (ha : ∀ a ∈ annots, d.annotationUse.find? a = none)
    (hs : ∀ s ∈ structs, d.structureUse.find? s = none) :
    PageUse (d.withPage fws annots structs tr root res cmd) := by
  have hent : ∀ i < d.pages.length, (d.pageEntry? i).isSome := fun _ => h.isSome_pageEntry?
  have hlt : ∀ i e, d.pageEntry? i = some e → i < d.pages.length := fun _ _ => pageEntry?_lt
  refine ⟨?entry, ?form, ?annot, h.structUse_withPage hent, h.structListed_withPage hent hs,
    ?keys, ?nonempty⟩
  case entry =>
    intro i hi
    simp only [withPage_pages, List.length_append, List.length_singleton] at hi
    rw [pageEntry?_withPage hent]
    split_ifs with h₁ h₂
    · exact h.entry i h₁
    · exact ⟨_, _, rfl, h₂.symm⟩
    · omega
  case form =>
    rw [withPage_formUse]
    exact h.form.register hf hlt (pageEntry?_withPage hent)
  case annot =>
    rw [withPage_annotationUse]
    exact h.annot.register ha hlt (pageEntry?_withPage hent)
  case keys =>
    simp only [withPage_pages, withPage_structureParentTreeItems, List.length_append,
      List.length_singleton, List.range_succ, List.filterMap_append]
    rw [List.filterMap_congr fun i hi => structKey?_withPage_of_lt hent (List.mem_range.mp hi),
      h.keys]
    cases hne : structs.isEmpty <;> simp [structKey?_withPage_self hent, hne, List.range_succ]
  case nonempty =>
    rw [withPage_structureParentTreeItems, List.mem_append, not_or]
    refine ⟨h.nonempty, ?_⟩
    split
    · simp
    · next hne =>
      rintro (⟨⟩ | ⟨_, ⟨⟩⟩)
      exact hne rfl

end WithPage

end PdfDocument

section AddPage

open PdfDocument

variable (env : Env) {d d' : PdfDocument} {rd ud cs : String} {fws annots structs : List Int}
  {tr : Option Transition} {subnav : List SubPageNavigation}

theorem Fails.addNavNodes (firstObj : Nat) (ocgs : List Nat) :
    ∀ i subnav, Fails Fault.Internal (addNavNodes env firstObj ocgs i subnav)
  | _, [] => .pure _
  | _, _ :: rest => .bind (.map _ (.modifyGet _)) fun _ => Fails.addNavNodes firstObj ocgs _ rest

theorem Fails.createSubnavigation (subnav : List SubPageNavigation) :
    Fails Fault.Internal (createSubnavigation env subnav) :=
  .bind (.assert _ trivial) fun _ => .bind .get fun _ =>
    .bind (.listMapM (fun _ => .bind .get fun _ => .at! _ _ trivial) _) fun _ =>
      .bind (.map _ (.modifyGet _)) fun _ => .bind .get fun _ =>
        .bind (.addNavNodes env _ _ _ _) fun _ => .bind (.map _ (.modifyGet _)) fun _ => .pure _

theorem addPage_run_ok {u : Unit}
    (h : (addPage env rd ud cs fws annots structs tr subnav).run d = .ok u d') :
    (∀ a ∈ fws, d.formUse.find? a = none) ∧ (∀ a ∈ annots, d.annotationUse.find? a = none) ∧
      (∀ s ∈ structs, d.structureUse.find? s = none) ∧
      ∃ s root, FrameKept d s ∧ d' = s.withPage fws annots structs tr root
        d.documentObjects.length (d.documentObjects.length + 1) := by
  simp only [PdfDocument.addPage, addObject_ite, run_get_bind] at h
  rw [run_reterrIf_bind] at h
  split at h
  · cases h
  rw [run_reterrIf_bind] at h
  split at h
  · cases h
  rw [run_reterrIf_bind] at h
  split at h
  · cases h
  rename_i hf ha hs
  simp only [addObject, run_modifyGet_bind] at h
  refine ⟨UMap.find?_eq_none_of_not_any hf, UMap.find?_eq_none_of_not_any ha,
    UMap.find?_eq_none_of_not_any hs, ?_⟩
  rw [run_bind] at h
  split at h
  · next root s₂ hsub =>
    have hk : FrameKept d s₂ := by
      obtain ⟨os, rfl⟩ := (subnavRoot_ok env hsub).1
      exact ⟨⟨by simp, rfl⟩, rfl⟩
    refine ⟨s₂, root, hk, ?_⟩
    simp only [run_bind, run_ite, run_pure, run_get, run_modify, run_modifyGet] at h
    cases hne : structs.isEmpty <;>
      simp only [hne, Bool.false_eq_true, if_true, if_false, EStateM.Result.ok.injEq] at h <;>
      obtain ⟨-, rfl⟩ := h <;> simp [withPage, newPage, hne, hk.pages.pages_eq]
  · cases h

theorem addPage_run_error {e : Fault}
    (h : (addPage env rd ud cs fws annots structs tr subnav).run d = .error e d') :
    FrameKept d d' ∧ (¬e.Internal → d' = d) := by
  simp only [PdfDocument.addPage, addObject_ite, run_get_bind] at h
  rw [run_reterrIf_bind] at h
  split at h
  · cases h; exact ⟨refl_of _ _, fun _ => rfl⟩
  rw [run_reterrIf_bind] at h
  split at h
  · cases h; exact ⟨refl_of _ _, fun _ => rfl⟩
  rw [run_reterrIf_bind] at h
  split at h
  · cases h; exact ⟨refl_of _ _, fun _ => rfl⟩
  simp only [addObject, run_modifyGet_bind] at h
  rw [run_bind] at h
  have hstep : Moves AppendsDicts (if subnav.isEmpty = true then Pure.pure none else
      some <$> PdfDocument.createSubnavigation env subnav) :=
    .ite _ (.pure _) (.map _ (.createSubnavigation env subnav))
  split at h
  · next root s₂ hsub =>
    simp only [run_bind, run_ite, run_pure, run_get, run_modify, run_modifyGet] at h
    cases hne : structs.isEmpty <;> simp only [hne, Bool.false_eq_true, if_true, if_false] at h <;>
      cases h
  · next e' s₂ hsub =>
    cases h
    refine ⟨trans_of FrameKept ?_ (hstep.of_run_error hsub).frameKept,
      fun hi => absurd ((Fails.ite _ (.pure _) (.map _ (.createSubnavigation env subnav))) _ _ _ hsub) hi⟩
    exact ⟨⟨by simp, rfl⟩, rfl⟩

theorem addPage_structureItems :
    ((addPage env rd ud cs fws annots structs tr subnav).run d).state.structureItems =
      d.structureItems := by
  cases hr : (addPage env rd ud cs fws annots structs tr subnav).run d with
  | ok u d' =>
    obtain ⟨-, -, -, s, root, hk, rfl⟩ := addPage_run_ok env hr
    exact (withPage_structureItems ..).trans hk.items
  | error e d' => exact (addPage_run_error env hr).1.items

theorem PdfDocument.PageUse.addPage (h : PageUse d) :
    PageUse ((PdfDocument.addPage env rd ud cs fws annots structs tr subnav).run d).state := by
  cases hr : (PdfDocument.addPage env rd ud cs fws annots structs tr subnav).run d with
  | ok u d' =>
    obtain ⟨hf, ha, hs, s, root, ⟨hk, -⟩, rfl⟩ := addPage_run_ok env hr
    exact (h.of_kept hk).withPage (hk.formUse_eq ▸ hf) (hk.annotationUse_eq ▸ ha)
      (hk.structureUse_eq ▸ hs)
  | error e d' => exact h.of_kept (addPage_run_error env hr).1.pages

end AddPage

end CapyPdf
