import CapyPdf.Execution.Op

namespace CapyPdf

namespace PdfDocument

def nameKey (i : Nat) : String :=
  "embobj" ++ zeroPad 6 i

-- The spec's leaf of a name tree: /Limits, the least and the greatest key, then /Names.
def nameTreeLeaf (lo hi : String) (names : List (String × Nat)) : String :=
  "<<\n  /Limits [ (" ++ lo ++ ") (" ++ hi ++ ") ]\n  /Names [\n" ++
    String.join (names.map fun (k, o) => "    (" ++ k ++ ") " ++ (toString o ++ " 0 R") ++ "\n") ++
    "  ]\n>>\n"

def bytesLt : List Char → List Char → Bool
  | [], [] => false
  | [], _ :: _ => true
  | _ :: _, [] => false
  | c :: cs, e :: es => decide (c.toNat < e.toNat) || (c.toNat == e.toNat && bytesLt cs es)

theorem append_ne_of_ne {a b x y : String} (hl : a.length = b.length) (h : a ≠ b) :
    a ++ x ≠ b ++ y := by
  intro hab
  have := congrArg (fun s : String => s.data.take a.length) hab
  simp only [String.data_append, String.length, List.take_left'] at this hl
  rw [hl, List.take_left' rfl] at this
  exact h (String.ext this)

theorem createNameDict_run (d : PdfDocument) (h : d.embeddedFiles ≠ []) :
    createNameDict.run d = .ok d.documentObjects.length (d.pushObject (.fullPDFObject
      ("<<\n/EmbeddedFiles " ++ nameTreeLeaf ("embobj" ++ zeroPad 5 0)
        ("embojb" ++ zeroPad 5 (d.embeddedFiles.length - 1))
        (d.embeddedFiles.enum.map fun (i, f) => (nameKey i, f.filespecObj))) [])) := by
  have hb : d.embeddedFiles.isEmpty = false := by cases hf : d.embeddedFiles <;> simp_all
  simp only [createNameDict, addObject, run_get_bind, run_assert_bind, hb, if_true, run_modifyGet,
    nameTreeLeaf, List.map_map]
  rfl

theorem nameKeys_not_sorted {n : Nat} (h : 1000000 < n) :
    ¬((List.range n).map nameKey).Pairwise (fun a b => bytesLt a.data b.data) := by
  intro hs
  rw [List.pairwise_map, List.pairwise_iff_getElem] at hs
  have := hs 999999 1000000 (by simp; omega) (by simp; omega) (by decide)
  simp only [List.getElem_range] at this
  exact absurd this (by decide)

theorem createNameDict_limits (d : PdfDocument) (h : d.embeddedFiles ≠ []) :
    let names := d.embeddedFiles.enum.map fun (i, f) => (nameKey i, f.filespecObj)
    ∃ lo hi, createNameDict.run d = .ok d.documentObjects.length
        (d.pushObject (.fullPDFObject ("<<\n/EmbeddedFiles " ++ nameTreeLeaf lo hi names) [])) ∧
      lo ≠ nameKey 0 ∧ hi ∉ names.map Prod.fst ∧
      (1000000 < d.embeddedFiles.length →
        ¬(names.map Prod.fst).Pairwise (fun a b => bytesLt a.data b.data)) := by
  intro names
  have hkeys : names.map Prod.fst = (List.range d.embeddedFiles.length).map nameKey := by
    simp only [names, List.map_map]
    rw [← List.enum_map_fst, List.map_map]
    rfl
  refine ⟨_, _, createNameDict_run d h, by decide, ?_, fun hn => hkeys ▸ nameKeys_not_sorted hn⟩
  rw [hkeys, List.mem_map]
  rintro ⟨i, -, hi⟩
  exact append_ne_of_ne (a := "embobj") (b := "embojb") rfl (by decide) hi

theorem createNameDict_limits_embedded :
    let d := ((Op.embedFile "x").exec Env.minimal |>.run
      ((init Env.minimal).run (PdfDocument.new 0 {} {})).state).state
    Reachable Env.minimal d ∧ d.embeddedFiles ≠ [] ∧
      let names := d.embeddedFiles.enum.map fun (i, f) => (nameKey i, f.filespecObj)
      ∃ lo hi, createNameDict.run d = .ok d.documentObjects.length
          (d.pushObject (.fullPDFObject ("<<\n/EmbeddedFiles " ++ nameTreeLeaf lo hi names) [])) ∧
        lo ≠ nameKey 0 ∧ hi ∉ names.map Prod.fst ∧
        (1000000 < d.embeddedFiles.length →
          ¬(names.map Prod.fst).Pairwise (fun a b => bytesLt a.data b.data)) :=
  have hne : ((Op.embedFile "x").exec Env.minimal |>.run
      ((init Env.minimal).run (PdfDocument.new 0 {} {})).state).state.embeddedFiles ≠ [] :=
    List.ne_nil_of_length_pos (by decide)
  ⟨.step (.embedFile "x") (@Reachable.init Env.minimal 0 {} {} _ rfl), hne,
    createNameDict_limits _ hne⟩

end PdfDocument

end CapyPdf
