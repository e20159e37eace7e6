import CapyPdf.Document.Theorems.Registries

namespace CapyPdf

namespace PdfDocument

variable {contents : Bytes} {d d' s s' : PdfDocument} {i k : Nat} {l : List IccInfo}
  {r : Option Nat}

theorem findIccProfile_go_append (h : (findIccProfile.go contents d i l).run s = .ok r s')
    (hobj : d.documentObjects <+: d'.documentObjects) (l₂ : List IccInfo) (t : PdfDocument) :
    s' = s ∧ (findIccProfile.go contents d' i (l ++ l₂)).run t =
      r.elim ((findIccProfile.go contents d' (i + l.length) l₂).run t) fun k => .ok (some k) t := by
  induction l generalizing i with
  | nil =>
    simp only [findIccProfile.go, run_pure, EStateM.Result.ok.injEq] at h
    obtain ⟨rfl, rfl⟩ := h
    simp
  | cons info rest ih =>
    simp only [findIccProfile.go, List.cons_append, List.append_eq, run_at!_bind,
      Prog.getI?_natCast] at h ⊢
    cases ho : d.documentObjects[info.streamNum]? with
    | none => simp [ho] at h
    | some o =>
      rw [ho] at h
      rw [getElem?_of_isPrefix hobj ho]
      cases o
      case deflatePDFObject dict stream =>
        simp only at h ⊢
        split
        · next hs =>
          simp only [run_ite, if_pos hs, run_pure, EStateM.Result.ok.injEq] at h
          obtain ⟨rfl, rfl⟩ := h
          exact ⟨rfl, by simp [hs]⟩
        · next hs =>
          simp only [run_ite, if_neg hs] at h
          obtain ⟨hs', he⟩ := ih h
          refine ⟨hs', ?_⟩
          rw [he]
          cases r <;> simp [Nat.add_assoc, Nat.add_comm 1]
      all_goals simp [run_throw] at h

theorem findIccProfile_go_found (h : (findIccProfile.go contents d i l).run s = .ok (some k) s') :
    i ≤ k ∧ ∃ info dict, l[k - i]? = some info ∧
      d.documentObjects[info.streamNum]? = some (.deflatePDFObject dict contents) := by
  induction l generalizing i with
  | nil => simp [findIccProfile.go] at h
  | cons info rest ih =>
    simp only [findIccProfile.go, run_at!_bind, Prog.getI?_natCast] at h
    cases ho : d.documentObjects[info.streamNum]? with
    | none => simp [ho] at h
    | some o =>
      rw [ho] at h
      cases o
      case deflatePDFObject dict stream =>
        simp only at h
        split at h
        · next hs =>
          simp only [run_pure, EStateM.Result.ok.injEq, Option.some.injEq] at h
          obtain ⟨rfl, -⟩ := h
          exact ⟨le_rfl, info, dict, by simp, hs ▸ ho⟩
        · obtain ⟨hi, info', dict', hl, hobj⟩ := ih h
          refine ⟨by omega, info', dict', ?_, hobj⟩
          rwa [show k - i = k - (i + 1) + 1 by omega, List.getElem?_cons_succ]
      all_goals simp [run_throw] at h

theorem findIccProfile_go_single {info : IccInfo} {dict : String} (t : PdfDocument)
    (ho : d.documentObjects[info.streamNum]? = some (.deflatePDFObject dict contents)) :
    (findIccProfile.go contents d i [info]).run t = .ok (some i) t := by
  simp [findIccProfile.go, ho]

theorem findIccProfile_of_grows (h : (findIccProfile contents).run d = .ok (some k) s)
    (hg : Grows d d') : (findIccProfile contents).run d' = .ok (some k) d' := by
  simp only [PdfDocument.findIccProfile, run_get_bind] at h ⊢
  obtain ⟨t, ht⟩ := hg.iccProfiles
  rw [← ht]
  exact (findIccProfile_go_append h hg.objects t d').2

variable (env : Env) {fname : String} {id : Int} {d₁ : PdfDocument}

theorem loadIccFile_run_ok (h : (loadIccFile env fname).run d = .ok id d₁) (hid : 0 ≤ id) :
    ∃ contents, env.loadFile fname = .ok contents ∧
      (findIccProfile contents).run d₁ = .ok (some id.toNat) d₁ := by
  simp only [PdfDocument.loadIccFile, run_lift_bind] at h
  split at h
  · next contents hc =>
    refine ⟨contents, hc, ?_⟩
    rw [run_bind] at h
    cases hf : (findIccProfile contents).run d with
    | error e s => simp [hf] at h
    | ok r s =>
      have hs : s = d := by
        simp only [PdfDocument.findIccProfile, run_get_bind] at hf
        exact (findIccProfile_go_append hf (List.prefix_refl _) [] d).1
      subst hs
      rw [hf] at h
      cases r with
      | some k =>
        simp only [run_pure, EStateM.Result.ok.injEq] at h
        obtain ⟨rfl, rfl⟩ := h
        simpa using hf
      | none =>
        simp only [run_pure_bind, run_lift_bind] at h
        split at h
        · simp only [PdfDocument.storeIccProfile] at h
          rw [run_bind, hf] at h
          simp only [run_assert_bind, ↓reduceIte, run_ite] at h
          split at h
          · simp only [run_pure, EStateM.Result.ok.injEq] at h
            omega
          · simp only [addObject, run_pure_bind, run_modifyGet_bind, run_modify_bind, run_get_bind,
              run_pure, EStateM.Result.ok.injEq] at h
            obtain ⟨rfl, rfl⟩ := h
            simp only [PdfDocument.findIccProfile, run_get_bind] at hf ⊢
            simp only [pushIccProfile_iccProfiles, pushObject_iccProfiles]
            rw [(findIccProfile_go_append hf ((List.prefix_append _ _).trans (List.prefix_append _ _))
              _ _).2, Option.elim, findIccProfile_go_single _ (by
                rw [pushIccProfile_documentObjects, pushObject_documentObjects,
                  pushObject_documentObjects, List.getElem?_append_left (by simp),
                  List.getElem?_concat_length])]
            simp
        · cases h
  · cases h

end PdfDocument

end CapyPdf
