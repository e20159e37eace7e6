import CapyPdf.Document.Init

namespace CapyPdf

def PdfColorConverter.profileFor (cm : PdfColorConverter) : Colorspace → Bytes
  | .deviceRGB => cm.rgb
  | .deviceGray => cm.gray
  | .deviceCMYK => cm.cmyk

def PdfGenerationData.initError (opts : PdfGenerationData) (cm : PdfColorConverter) :
    Option ErrorCode :=
  if (cm.profileFor opts.outputColorspace).isEmpty ∧
      (opts.outputColorspace = .deviceCMYK ∨ opts.subtype.isSome) then
    some .outputProfileMissing
  else if opts.subtype.isSome ∧ opts.intentConditionIdentifier.isEmpty then
    some .missingIntentIdentifier
  else none

namespace PdfDocument

def ProfileStored (d : PdfDocument) (cm : PdfColorConverter) (cs : Colorspace) : Prop :=
  if (cm.profileFor cs).isEmpty then d.outputProfile = none
  else d.outputProfile = some 0 ∧ ∃ info buf, d.iccProfiles[0]? = some info ∧
    info.numChannels = numChannelsFor cs ∧
    d.documentObjects[info.streamNum]? = some (.deflatePDFObject buf (cm.profileFor cs))

structure OutputIntentStored (d : PdfDocument) : Prop where
  profile : d.ProfileStored d.cm d.opts.outputColorspace
  intent : d.outputIntentObject.isSome = d.opts.subtype.isSome
  dest : ∀ n, d.outputIntentObject = some n → ∃ info pre, d.iccProfiles[0]? = some info ∧
    d.documentObjects[n]? = some (.fullPDFObject
      (pre ++ "\n  /DestOutputProfile " ++ toString info.streamNum ++ " 0 R\n>>\n") [])

variable {d d' : PdfDocument} {cm : PdfColorConverter} {cs : Colorspace}

theorem ProfileStored.mono (h : d.ProfileStored cm cs) (ho : d.documentObjects <+: d'.documentObjects)
    (hi : d.iccProfiles <+: d'.iccProfiles) (hp : d'.outputProfile = d.outputProfile) :
    d'.ProfileStored cm cs := by
  unfold ProfileStored at h ⊢
  split at h
  · rwa [if_pos ‹_›, hp]
  · obtain ⟨h0, info, buf, hi0, hn, hs⟩ := h
    rw [if_neg ‹_›, hp]
    exact ⟨h0, info, buf, getElem?_of_isPrefix hi hi0, hn, getElem?_of_isPrefix ho hs⟩

theorem ProfileStored.outputProfile_cases (h : d.ProfileStored cm cs) :
    d.outputProfile = none ∨ d.outputProfile = some 0 ∧ d.iccProfiles ≠ [] := by
  unfold ProfileStored at h
  split at h
  · exact .inl h
  · obtain ⟨h0, info, -, hi0, -⟩ := h
    exact .inr ⟨h0, List.ne_nil_of_length_pos (List.getElem?_eq_some_iff.mp hi0).1⟩

theorem ProfileStored.isNone_outputProfile (h : d.ProfileStored cm cs) :
    d.outputProfile.isNone = (cm.profileFor cs).isEmpty := by
  unfold ProfileStored at h
  split at h
  · simp [h, *]
  · simp [h.1, *]

theorem OutputIntentStored.mono (h : d.OutputIntentStored)
    (ho : d.documentObjects <+: d'.documentObjects) (hi : d.iccProfiles <+: d'.iccProfiles)
    (hopts : d'.opts = d.opts) (hcm : d'.cm = d.cm) (hp : d'.outputProfile = d.outputProfile)
    (hoi : d'.outputIntentObject = d.outputIntentObject) : d'.OutputIntentStored where
  profile := by
    rw [hopts, hcm]
    exact h.profile.mono ho hi hp
  intent := by rw [hoi, hopts, h.intent]
  dest n hn := by
    obtain ⟨info, pre, hi0, hn⟩ := h.dest n (hoi ▸ hn)
    exact ⟨info, pre, getElem?_of_isPrefix hi hi0, getElem?_of_isPrefix ho hn⟩

variable (env : Env) {s s' : PdfDocument}

@[simp] theorem new_opts (addr : Nat) (opts : PdfGenerationData) (cm : PdfColorConverter) :
    (PdfDocument.new addr opts cm).opts = opts :=
  rfl

@[simp] theorem new_cm (addr : Nat) (opts : PdfGenerationData) (cm : PdfColorConverter) :
    (PdfDocument.new addr opts cm).cm = cm :=
  rfl

-- The stages of `init` that are not single object pushes, each with what the next stage reads.

theorem initSeparation_run {cs : Colorspace} {r : EStateM.Result Fault PdfDocument Unit}
    (h : (initSeparation env cs).run s = r) : ∃ s', r = .ok () s' ∧ s'.opts = s.opts ∧
      s'.cm = s.cm ∧ s'.iccProfiles = s.iccProfiles ∧ s'.outputProfile = s.outputProfile ∧
      s'.outputIntentObject = s.outputIntentObject := by
  subst h
  unfold initSeparation createSeparation
  split <;> simp [addObject]

theorem initOutputProfile_run_eq (cs : Colorspace) (cm : PdfColorConverter) :
    (initOutputProfile cs cm).run s =
      if cs = .deviceCMYK ∧ (cm.profileFor cs).isEmpty then .error (.error .outputProfileMissing) s
      else if (cm.profileFor cs).isEmpty then .ok () s
      else (storeOutputProfile (cm.profileFor cs) (numChannelsFor cs)).run s := by
  cases cs <;> [skip; skip; by_cases h : cm.cmyk.isEmpty] <;>
    simp [initOutputProfile, PdfColorConverter.profileFor, numChannelsFor, *]

theorem initOutputProfile_run (cs : Colorspace) (cm : PdfColorConverter) (hi : s.iccProfiles = [])
    (hp : s.outputProfile = none) : ∃ s',
    (initOutputProfile cs cm).run s = .error (.error .outputProfileMissing) s' ∧
      cs = .deviceCMYK ∧ (cm.profileFor cs).isEmpty ∨
    (initOutputProfile cs cm).run s = .ok () s' ∧ ¬(cs = .deviceCMYK ∧ (cm.profileFor cs).isEmpty) ∧
      s'.opts = s.opts ∧ s'.cm = s.cm ∧ s'.outputIntentObject = s.outputIntentObject ∧
      s'.ProfileStored cm cs := by
  rw [initOutputProfile_run_eq]
  split_ifs with hcmyk hempty
  · exact ⟨s, .inl ⟨rfl, hcmyk⟩⟩
  · exact ⟨s, .inr ⟨rfl, hcmyk, rfl, rfl, rfl, by simp [ProfileStored, hempty, hp]⟩⟩
  · simp [storeOutputProfile, storeIccProfile, findIccProfile, findIccProfile.go, addObject,
      ProfileStored, List.getElem_append_right, hi, hempty, hcmyk]

theorem initOutputIntent_run (opts : PdfGenerationData) (cm : PdfColorConverter) (cs : Colorspace)
    (hs : s.opts = opts) (hp : s.ProfileStored cm cs) :
    ((initOutputIntent env opts).run s).outcome =
      if opts.subtype.isSome ∧ s.outputProfile.isNone then .error (.error .outputProfileMissing)
      else if opts.subtype.isSome ∧ opts.intentConditionIdentifier.isEmpty then
        .error (.error .missingIntentIdentifier)
      else .ok () := by
  unfold initOutputIntent createOutputIntent
  rcases hp.outputProfile_cases with hp | ⟨hp, hi⟩
  · cases hsub : opts.subtype <;> simp [hp, hsub]
  · obtain ⟨p, ps, hl⟩ := List.exists_cons_of_ne_nil hi
    cases hsub : opts.subtype <;> by_cases hid : opts.intentConditionIdentifier.isEmpty <;>
      simp [hp, hsub, hid, hs, hl, Prog.getI?, addObject]

theorem initOutputIntent_stored (opts : PdfGenerationData) (cm : PdfColorConverter)
    (hs : s.opts = opts) (hc : s.cm = cm) (hp : s.ProfileStored cm opts.outputColorspace)
    (hi : s.outputIntentObject = none) (h : (initOutputIntent env opts).run s = .ok () s') :
    s'.OutputIntentStored := by
  unfold initOutputIntent createOutputIntent at h
  cases hsub : opts.subtype
  case none =>
    simp only [hsub, Option.isNone_none, if_true, run_pure, EStateM.Result.ok.injEq, true_and] at h
    subst h
    exact ⟨by rwa [hs, hc], by simp [hi, hs, hsub], by simp [hi]⟩
  case some st =>
    have hp' := hp
    unfold ProfileStored at hp'
    split at hp'
    · simp [hp', hsub] at h
    · obtain ⟨h0, info, buf, hi0, -⟩ := hp'
      by_cases hid : opts.intentConditionIdentifier.isEmpty
      · simp [h0, hsub, hid] at h
      simp [hsub, h0, hid, hs, hi0, addObject, Prog.getI?] at h
      subst h
      refine ⟨?_, by simp [hs, hsub], fun n hn => ?_⟩
      · simp only [setOutputIntentObject_cm, pushObject_cm, setOutputIntentObject_opts,
          pushObject_opts, hs, hc]
        exact hp.mono (List.prefix_append _ _) (List.prefix_refl _) rfl
      obtain rfl : s.documentObjects.length = n := Option.some.inj hn
      exact ⟨info, _, hi0, List.getElem?_concat_length _ _⟩

theorem init_run (addr : Nat) (opts : PdfGenerationData) (cm : PdfColorConverter) : ∃ s,
    (init env).run (PdfDocument.new addr opts cm) = .error (.error .outputProfileMissing) s ∧
      opts.outputColorspace = .deviceCMYK ∧ (cm.profileFor opts.outputColorspace).isEmpty ∨
    (init env).run (PdfDocument.new addr opts cm) = (initOutputIntent env opts).run s ∧
      ¬(opts.outputColorspace = .deviceCMYK ∧ (cm.profileFor opts.outputColorspace).isEmpty) ∧
      s.opts = opts ∧ s.cm = cm ∧ s.outputIntentObject = none ∧
      s.ProfileStored cm opts.outputColorspace := by
  simp only [PdfDocument.init, generateInfoObject, addObject, createPageGroup, run_bind, run_discard,
    run_modifyGet, run_get, run_modify, pushObject_opts, pushObject_cm, new_opts, new_cm]
  split
  next _ s₃ h₃ =>
    obtain ⟨_, ⟨⟩, ho, hc, hi, hp, hoi⟩ := initSeparation_run env h₃
    obtain ⟨s₄, ⟨h₄, hcs, hcmyk⟩ | ⟨h₄, hcmyk, ho₄, hc₄, hoi₄, hstored⟩⟩ :=
      initOutputProfile_run opts.outputColorspace cm (hi.trans rfl) (hp.trans rfl)
    · exact ⟨s₄, .inl ⟨by rw [h₄], hcs, hcmyk⟩⟩
    · refine ⟨_, .inr ⟨by rw [h₄], hcmyk, by simp [ho₄, ho], by simp [hc₄, hc],
        by simp [hoi₄, hoi]; rfl, ?_⟩⟩
      exact hstored.mono (List.prefix_append _ _ |>.trans (List.prefix_append _ _))
        (List.prefix_refl _) rfl
  next e _ h₃ => obtain ⟨_, ⟨⟩, -⟩ := initSeparation_run env h₃

theorem init_outcome (addr : Nat) (opts : PdfGenerationData) (cm : PdfColorConverter) :
    ((init env).run (PdfDocument.new addr opts cm)).outcome =
      match opts.initError cm with
      | none => .ok ()
      | some e => .error (.error e) := by
  obtain ⟨s, ⟨h, hcs, hcmyk⟩ | ⟨h, hcmyk, ho, -, -, hstored⟩⟩ := init_run env addr opts cm
  · rw [h, PdfGenerationData.initError, if_pos ⟨hcmyk, .inl hcs⟩]
    rfl
  · rw [h, initOutputIntent_run env opts cm _ ho hstored, hstored.isNone_outputProfile,
      PdfGenerationData.initError]
    split_ifs <;> simp_all

theorem construct_outcome (addr : Nat) (opts : PdfGenerationData) (cm : PdfColorConverter) :
    (construct env addr opts cm).map (fun _ => ()) =
      match opts.initError cm with
      | none => .ok ()
      | some e => .error (.error e) := by
  rw [← init_outcome env addr opts cm, construct]
  split <;> rename_i h <;> rw [h] <;> rfl

-- An RGB document needs no profile, unless it has an intent subtype.
example : PdfGenerationData.initError {} {} = none := by decide

example : PdfGenerationData.initError { subtype := some .pdfx } {} = some .outputProfileMissing := by
  decide

theorem OutputIntentStored.init {addr : Nat} {opts : PdfGenerationData} {cm : PdfColorConverter}
    (h : (init env).run (PdfDocument.new addr opts cm) = .ok () d) : d.OutputIntentStored := by
  obtain ⟨s, ⟨h', -⟩ | ⟨h', -, ho, hc, hoi, hstored⟩⟩ := init_run env addr opts cm
  · rw [h'] at h
    cases h
  · exact initOutputIntent_stored env opts cm ho hc hstored hoi (h' ▸ h)

end PdfDocument

end CapyPdf
