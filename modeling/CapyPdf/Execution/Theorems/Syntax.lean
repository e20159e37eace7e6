import CapyPdf.Execution.Op
import CapyPdf.Syntax.Object

namespace CapyPdf

open PdfDocument Syntax

@[simp] theorem noCloser_zeroPad (w n : Nat) : NoCloser (zeroPad w n) := by
  refine noCloser_append.mpr ⟨⟨?_, ?_⟩, noCloser_toString_nat n⟩ <;> simp [List.mem_replicate]

@[simp] theorem noCloser_refText (n : Int) : NoCloser (refText n) :=
  noCloser_append.mpr ⟨noCloser_toString_int n, by decide⟩

theorem noCloser_foldl_append : ∀ {l : List String} {acc : String}, NoCloser acc →
    (∀ s ∈ l, NoCloser s) → NoCloser (l.foldl (· ++ ·) acc)
  | [], _, hacc, _ => hacc
  | s :: l, acc, hacc, h =>
    @noCloser_foldl_append l (acc ++ s) (noCloser_append.mpr ⟨hacc, h s (.head _)⟩)
      fun s hs => h s (.tail _ hs)

theorem noCloser_join {l : List String} (h : ∀ s ∈ l, NoCloser s) : NoCloser (String.join l) :=
  noCloser_foldl_append (by decide) h

theorem count_eq_zero_of_noCloser {s : String} (h : NoCloser s) : s.data.count '>' = 0 :=
  List.count_eq_zero_of_not_mem h.1

theorem embedJpg_unparsable (d : PdfDocument) (jpg : JpgImage) {interp : ImageInterpolation}
    (h : interp ≠ .auto) :
    ∃ dict d', (embedJpg jpg interp).run d = .ok d.imageInfo.length d' ∧
      d'.documentObjects = d.documentObjects ++ [.fullPDFObject dict jpg.fileContents] ∧
      ¬ParsesAsOne dict := by
  simp only [embedJpg, addObject, run_modifyGet_bind, run_modify_bind, run_get_bind, run_pure,
    pushImageInfo_imageInfo, pushObject_imageInfo, List.length_append, List.length_singleton,
    Nat.add_sub_cancel]
  refine ⟨_, _, rfl, rfl, ?_⟩
  rw [show ("\n  /Filter /DCTDecode\n>>\n" : String) = "\n  /Filter /DCTDecode\n" ++ ">>\n" from rfl,
    ← String.append_assoc]
  refine not_parsesAsOne_of_trailing (by simp; decide) ?_ ?_ <;> cases interp <;>
    first | exact absurd rfl h | decide

theorem not_parsesAsOne_nested {body : String} (h : body.data.count '>' < 4) :
    ¬ParsesAsOne ("<<\n/EmbeddedFiles <<" ++ body) := by
  rintro ⟨n, rest, hp, -⟩
  have h₀ : skipWs ("<<\n/EmbeddedFiles <<" ++ body).data =
      '<' :: '<' :: (("\n/EmbeddedFiles <<" : String).data ++ body.data) := rfl
  have h₁ : skipWs (("\n/EmbeddedFiles <<" : String).data ++ body.data) =
      '/' :: (("EmbeddedFiles <<" : String).data ++ body.data) := rfl
  have h₂ : (("EmbeddedFiles <<" : String).data ++ body.data).dropWhile isRegular =
      (" <<" : String).data ++ body.data := rfl
  have h₃ : skipWs ((" <<" : String).data ++ body.data) = '<' :: '<' :: body.data := rfl
  rw [parseContainer_of_dict h₀] at hp
  obtain _ | n := n
  · cases hp
  rw [parse_dict_of_key h₁, h₂] at hp
  obtain ⟨r, hr, hrest⟩ := Option.bind_eq_some.mp hp
  obtain _ | n := n
  · cases hr
  rw [parse_obj_of_dict h₃] at hr
  obtain ⟨p₁, hp₁⟩ := parse_dict_close hr
  obtain ⟨p₂, rfl⟩ := parse_dict_close hrest
  have hcount := congrArg (List.count '>') hp₁
  simp only [List.count_append, List.count_cons_self] at hcount
  omega

theorem createNameDict_unparsable (d : PdfDocument) (h : d.embeddedFiles ≠ []) :
    ∃ dict, createNameDict.run d =
      .ok d.documentObjects.length (d.pushObject (.fullPDFObject dict [])) ∧ ¬ParsesAsOne dict := by
  have hb : d.embeddedFiles.isEmpty = false := by cases hf : d.embeddedFiles <;> simp_all
  simp only [createNameDict, addObject, run_get_bind, run_assert_bind, hb, if_true, run_modifyGet]
  refine ⟨_, rfl, ?_⟩
  rw [show ("<<\n/EmbeddedFiles <<\n  /Limits [ (embobj" : String) =
    "<<\n/EmbeddedFiles <<" ++ "\n  /Limits [ (embobj" from rfl]
  simp only [String.append_assoc]
  refine not_parsesAsOne_nested ?_
  simp only [String.data_append, List.count_append, count_eq_zero_of_noCloser (noCloser_zeroPad _ _)]
  rw [count_eq_zero_of_noCloser (noCloser_join ?_)]
  · decide
  · intro s hs
    obtain ⟨⟨i, f⟩, -, rfl⟩ := List.mem_map.mp hs
    simp only [noCloser_append, noCloser_zeroPad, noCloser_refText, and_true, true_and]
    decide

theorem stored_objects_unparsable :
    (∀ (d : PdfDocument) (jpg : JpgImage) (interp : ImageInterpolation), interp ≠ .auto →
      ∃ dict d', (embedJpg jpg interp).run d = .ok d.imageInfo.length d' ∧
        d'.documentObjects = d.documentObjects ++ [.fullPDFObject dict jpg.fileContents] ∧
        ¬ParsesAsOne dict) ∧
    ∀ d : PdfDocument, d.embeddedFiles ≠ [] →
      ∃ dict, createNameDict.run d =
        .ok d.documentObjects.length (d.pushObject (.fullPDFObject dict [])) ∧ ¬ParsesAsOne dict :=
  ⟨fun d jpg _ h => embedJpg_unparsable d jpg h, createNameDict_unparsable⟩

theorem stored_objects_unparsable_embedded :
    let d := ((Op.embedFile "x").exec Env.minimal |>.run
      ((init Env.minimal).run (PdfDocument.new 0 {} {})).state).state
    Reachable Env.minimal d ∧ d.embeddedFiles ≠ [] ∧
    (∃ dict d', (embedJpg ⟨1, 1, []⟩ .pixelated).run d = .ok d.imageInfo.length d' ∧
      d'.documentObjects = d.documentObjects ++ [.fullPDFObject dict []] ∧ ¬ParsesAsOne dict) ∧
    ∃ dict, createNameDict.run d =
      .ok d.documentObjects.length (d.pushObject (.fullPDFObject dict [])) ∧ ¬ParsesAsOne dict :=
  have hne : ((Op.embedFile "x").exec Env.minimal |>.run
      ((init Env.minimal).run (PdfDocument.new 0 {} {})).state).state.embeddedFiles ≠ [] :=
    List.ne_nil_of_length_pos (by decide)
  ⟨.step (.embedFile "x") (@Reachable.init Env.minimal 0 {} {} _ rfl), hne,
    stored_objects_unparsable.1 _ _ .pixelated (by decide), stored_objects_unparsable.2 _ hne⟩

end CapyPdf
