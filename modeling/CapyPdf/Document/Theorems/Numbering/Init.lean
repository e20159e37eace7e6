import CapyPdf.Document.Theorems.Continues

namespace CapyPdf

open PdfDocument

variable (env : Env)

-- Finding a stored profile only reads the document.
theorem Moves.findIccProfile {R : PdfDocument → PdfDocument → Prop} [IsPreorder PdfDocument R]
    (contents : Bytes) : Moves R (findIccProfile contents) := by
  refine .bind .get fun d => ?_
  suffices ∀ i l, Moves R (findIccProfile.go contents d i l) from this 0 _
  intro i l
  induction l generalizing i with
  | nil => exact .pure _
  | cons info rest ih =>
    refine .bind (.at! _ _) fun o => ?_
    split
    · exact .ite _ (.pure _) (ih _)
    · exact .throw _

theorem Moves.storeIccProfile (contents : Bytes) (numChannels : Nat) :
    Moves Continues (storeIccProfile contents numChannels) := by
  refine .bind (.findIccProfile _) fun existing d h => ?_
  simp only [addObject, run_assert_bind, run_ite, run_pure, run_modifyGet_bind, run_modify_bind,
    run_get_bind]
  repeat' split
  all_goals try simp only [EStateM.Result.state_error, EStateM.Result.state_ok]
  all_goals try with_reducible exact .refl h
  exact ⟨by simp, (h.pushObject (by simp) (by simp [ObjectType.links])).pushObject (by simp)
    (by simp [ObjectType.links]) |>.pushIccProfile
      ((designates_pushObject_of_lt (by simp)).mpr (designates_pushObject_length trivial))
      (designates_pushObject_length (Role.holds_head.mpr (Begins.append_left (by decide) _)))⟩

theorem Moves.createSeparation (name : String) (fallback : DeviceCMYKColor) :
    Moves Continues (createSeparation env name fallback) := by
  intro d h
  simp only [PdfDocument.createSeparation, addObject, run_modifyGet_bind, run_modify_bind,
    run_get_bind, run_pure, EStateM.Result.state_ok]
  exact ⟨by simp, (h.pushObject (by simp) (by simp [ObjectType.links])).pushObject (by simp)
    (by simp [ObjectType.links]) |>.pushSeparationObject
      (designates_pushObject_length (Role.holds_head.mpr (by (repeat' apply Begins.append); decide)))⟩

theorem Moves.createOutputIntent : Moves Continues (createOutputIntent env) := by
  intro d h
  simp only [PdfDocument.createOutputIntent, addObject, run_get_bind, run_assert_bind, run_at!_bind,
    run_modifyGet_bind, run_modify_bind, run_pure]
  repeat' split
  all_goals try simp only [EStateM.Result.state_error, EStateM.Result.state_ok]
  all_goals try with_reducible exact .refl h
  exact ⟨by simp, (h.pushObject (by simp) (by simp [ObjectType.links])).setOutputIntentObject
    (designates_pushObject_length (Role.holds_head.mpr (by (repeat' apply Begins.append); decide)))⟩

theorem Moves.initOutputProfile (cs : Colorspace) (cm : PdfColorConverter) :
    Moves Continues (initOutputProfile cs cm) := by
  have hstore (p : Bytes) (n : Nat) : Moves Continues (storeOutputProfile p n) :=
    (Moves.storeIccProfile p n).bind fun id => .modify fun _ h => ⟨List.prefix_refl _, h.setOutputProfile id⟩
  cases cs
  · exact .ite _ (.pure _) (hstore _ _)
  · exact .ite _ (.pure _) (hstore _ _)
  · exact (Moves.reterrIf _ _).seqRight (hstore _ _)

theorem Moves.initOutputIntent (opts : PdfGenerationData) :
    Moves Continues (initOutputIntent env opts) :=
  .ite _ (.pure _) <| .bind .get fun _ => (Moves.reterrIf _ _).bind fun _ =>
    (Moves.reterrIf _ _).bind fun _ => .createOutputIntent env

theorem Moves.initSeparation (cs : Colorspace) : Moves Continues (initSeparation env cs) :=
  .ite _ (.map _ (.createSeparation env _ _)) (.pure _)

theorem Numbered.new_pushObject_dummy (addr : Nat) (opts : PdfGenerationData)
    (cm : PdfColorConverter) : ((PdfDocument.new addr opts cm).pushObject .dummyIndexZero).Numbered where
  sentinel := rfl
  sentinel_unique n hn := by
    cases n
    · rfl
    · simp [PdfDocument.new] at hn
  records {p n r} hp := by
    cases p <;> simp only [Records, PdfDocument.new, pushObject, List.getElem?_nil, List.not_mem_nil,
      false_and, and_false, exists_false, UMap.find?_empty, reduceCtorEq, exists_const, false_or] at hp
    obtain ⟨m, o, hm, hl⟩ := hp
    rcases m with _ | m
    · cases hm
      simp [ObjectType.links] at hl
    · simp at hm

theorem Numbered.init {addr : Nat} {opts : PdfGenerationData} {cm : PdfColorConverter}
    {d : PdfDocument} (h : (init env).run (PdfDocument.new addr opts cm) = .ok () d) : d.Numbered := by
  unfold PdfDocument.init at h
  have h' := run_bind_ok _ rfl h
  refine ((?_ : Moves Continues _).of_run_ok h' (Numbered.new_pushObject_dummy addr opts cm)).numbered
  refine .bind (.bind .get fun _ => .continues (.map _ (.addObject_dict _ _))) fun _ => .bind .get
    fun d => .bind (.initSeparation env _) fun _ => .bind (.initOutputProfile _ _) fun _ => ?_
  intro d h
  simp only [createPageGroup, addObject, run_get_bind, run_modifyGet_bind, run_modify_bind]
  refine Extends.trans_continues ⟨by simp, ?_⟩ (Moves.initOutputIntent env _ _)
  exact ((h.pushObject (by simp) (by simp [ObjectType.links])).setPageGroupObject
    (designates_pushObject_length (Role.holds_head.mpr (by (repeat' apply Begins.append); decide)))).pushObject (by simp) (by simp [ObjectType.links]) |>.setPagesObject
    (designates_pushObject_length trivial)

end CapyPdf
