import CapyPdf.Document.Theorems.Continues
import CapyPdf.Document.Catalog
import CapyPdf.Document.Resources

namespace CapyPdf

def Outlines.add (o : Outlines) (item : Outline) : Outlines :=
  let parId := item.parent.getD (-1)
  { parent := o.parent.insert o.items.length parId
    children := o.children.insert parId (((o.children.find? parId).getD []) ++ [(o.items.length : Int)])
    items := o.items ++ [item] }

def buildOutlines (items : List Outline) : Outlines :=
  items.foldl Outlines.add ⟨[], .empty, .empty⟩

def Outline.parentKey (o : Outline) : Int :=
  o.parent.getD (-1)

def childrenOf (items : List Outline) (p : Int) : List Nat :=
  (List.range items.length).filter fun i => items[i]?.map Outline.parentKey = some p

namespace PdfDocument

theorem addOutline_run (d : PdfDocument) (title : String) (dest : Int) (parent : Option Int) :
    (addOutline title dest parent).run d =
      .ok d.outlines.items.length (d.setOutlines (d.outlines.add ⟨title, dest, parent⟩)) :=
  rfl

end PdfDocument

theorem buildOutlines_append (items : List Outline) (o : Outline) :
    buildOutlines (items ++ [o]) = (buildOutlines items).add o := by
  simp [buildOutlines, List.foldl_append]

@[simp] theorem items_buildOutlines (items : List Outline) : (buildOutlines items).items = items := by
  induction items using List.reverseRecOn with
  | nil => rfl
  | append_singleton items o ih => rw [buildOutlines_append, Outlines.add, ih]

theorem childrenOf_append (items : List Outline) (o : Outline) (p : Int) :
    childrenOf (items ++ [o]) p = childrenOf items p ++ if o.parentKey = p then [items.length] else [] := by
  have hlt : ∀ i ∈ List.range items.length, (items ++ [o])[i]? = items[i]? := fun i hi =>
    List.getElem?_append_left (List.mem_range.mp hi)
  rw [childrenOf, List.length_append, List.length_singleton, List.range_succ, List.filter_append,
    List.filter_congr fun i hi => by rw [hlt i hi], childrenOf]
  by_cases h : o.parentKey = p <;> simp [h, List.getElem?_concat_length]

theorem find?_parent_buildOutlines (items : List Outline) (k : Int) :
    (buildOutlines items).parent.find? k = (Prog.getI? items k).map Outline.parentKey := by
  induction items using List.reverseRecOn with
  | nil => simp [buildOutlines, Prog.getI?]
  | append_singleton items o ih =>
    rw [buildOutlines_append, Outlines.add, UMap.find?_insert, ih, items_buildOutlines]
    by_cases hk : (items.length : Int) = k
    · subst hk
      simp [Outline.parentKey]
    · rw [if_neg hk]
      unfold Prog.getI?
      split
      · rename_i h0
        have : k.toNat ≠ items.length := fun he => hk (by omega)
        rw [List.getElem?_append]
        split
        · rfl
        · rw [List.getElem?_eq_none (by omega), List.getElem?_eq_none (by simp; omega)]
      · rfl

theorem find?_children_buildOutlines (items : List Outline) (p : Int) :
    (buildOutlines items).children.find? p =
      if childrenOf items p = [] then none else some ((childrenOf items p).map (↑)) := by
  induction items using List.reverseRecOn generalizing p with
  | nil => simp [buildOutlines, childrenOf]
  | append_singleton items o ih =>
    rw [buildOutlines_append, Outlines.add, UMap.find?_insert, childrenOf_append, items_buildOutlines]
    by_cases hp : o.parentKey = p
    · have hp' : o.parent.getD (-1) = p := hp
      rw [if_pos hp', if_pos hp, ih, hp']
      by_cases h : childrenOf items p = [] <;> simp [h]
    · have hp' : ¬o.parent.getD (-1) = p := hp
      rw [if_neg hp', if_neg hp, List.append_nil, ih]

def siblingsBefore (items : List Outline) (i : Nat) : List Nat :=
  (List.range i).filter fun j => items[j]?.map Outline.parentKey = items[i]?.map Outline.parentKey

def siblingsAfter (items : List Outline) (i : Nat) : List Nat :=
  (List.range' (i + 1) (items.length - (i + 1))).filter fun j =>
    items[j]?.map Outline.parentKey = items[i]?.map Outline.parentKey

theorem range_split {i n : Nat} (h : i < n) :
    List.range n = List.range i ++ i :: List.range' (i + 1) (n - (i + 1)) := by
  obtain ⟨k, rfl⟩ : ∃ k, n = i + (k + 1) := ⟨n - (i + 1), by omega⟩
  rw [show i + (k + 1) - (i + 1) = k by omega, Nat.add_comm i (k + 1), List.range_eq_range',
    List.range_eq_range', ← List.range'_append_1 0 i (k + 1), List.range'_succ, Nat.zero_add]

theorem childrenOf_split {items : List Outline} {i : Nat} {o : Outline} (hi : items[i]? = some o) :
    childrenOf items o.parentKey = siblingsBefore items i ++ i :: siblingsAfter items i := by
  have hlt : i < items.length := (List.getElem?_eq_some_iff.mp hi).1
  rw [childrenOf, range_split hlt, List.filter_append, List.filter_cons, hi]
  simp [siblingsBefore, siblingsAfter, hi]

theorem not_mem_siblingsBefore (items : List Outline) (i : Nat) : i ∉ siblingsBefore items i := by
  simp [siblingsBefore]

theorem indexOf_split {B A : List Nat} {i : Nat} (hB : i ∉ B) :
    ((B ++ i :: A).map (Nat.cast : Nat → Int)).indexOf (i : Int) = B.length := by
  have hB' : (i : Int) ∉ B.map Nat.cast := fun h => by
    obtain ⟨j, hj, he⟩ := List.mem_map.mp h
    exact hB (Int.ofNat_inj.mp he ▸ hj)
  rw [List.map_append, List.indexOf_append_of_not_mem hB', List.map_cons, List.indexOf_cons_self,
    List.length_map, Nat.add_zero]

theorem neighbours_run {σ : Type} (F : Nat) {B A : List Nat} {i : Nat} (hB : i ∉ B) (s : σ) :
    (if ((B ++ i :: A).map (Nat.cast : Nat → Int)).length > 1 then do
        Prog.assert (((B ++ i :: A).map (Nat.cast : Nat → Int)).indexOf (i : Int) <
          ((B ++ i :: A).map (Nat.cast : Nat → Int)).length)
        pure ((if ((B ++ i :: A).map (Nat.cast : Nat → Int)).indexOf (i : Int) = 0 then "" else
            "  /Prev " ++ refText (F + ((B ++ i :: A).map (Nat.cast : Nat → Int)).getD
              (((B ++ i :: A).map (Nat.cast : Nat → Int)).indexOf (i : Int) - 1) 0) ++ "\n") ++
          (if ((B ++ i :: A).map (Nat.cast : Nat → Int)).indexOf (i : Int) + 1 <
              ((B ++ i :: A).map (Nat.cast : Nat → Int)).length then
            "  /Next " ++ refText (F + ((B ++ i :: A).map (Nat.cast : Nat → Int)).getD
              (((B ++ i :: A).map (Nat.cast : Nat → Int)).indexOf (i : Int) + 1) 0) ++ "\n"
           else ""))
      else pure "" : Prog σ String).run s =
      .ok ((B.getLast?.elim "" fun j => "  /Prev " ++ (toString (F + j) ++ " 0 R") ++ "\n") ++
        (A.head?.elim "" fun j => "  /Next " ++ (toString (F + j) ++ " 0 R") ++ "\n")) s := by
  rw [indexOf_split hB]
  split
  · rw [run_assert_bind, if_pos (by simp), run_pure]
    congr 2
    · rcases List.eq_nil_or_concat B with rfl | ⟨B, b, rfl⟩
      · rfl
      · simp [List.getD_eq_getElem?_getD, List.getElem_append_right, refText_natCast_add]
    · cases A with
      | nil => simp
      | cons a A => simp [List.getD_eq_getElem?_getD, List.getElem_append_right, refText_natCast_add]
  · rename_i h
    obtain ⟨rfl, rfl⟩ : B = [] ∧ A = [] := by
      simp only [List.map_append, List.map_cons, List.length_append, List.length_cons, List.length_map] at h
      exact ⟨List.length_eq_zero.mp (by omega), List.length_eq_zero.mp (by omega)⟩
    rfl

theorem getLast?_map_cast_getD (c : Nat) (cs : List Nat) :
    ((c : Int) :: cs.map (Nat.cast : Nat → Int)).getLast?.getD 0 =
      ((c :: cs).getLast (List.cons_ne_nil c cs) : Int) := by
  rw [← List.map_cons, List.getLast?_map, List.getLast?_eq_getLast _ (List.cons_ne_nil c cs)]
  rfl

-- The spec's outline item i of the forest items written from object F on, the Outlines dictionary
-- right after the items.
def outlineText (env : Env) (pages : List PageOffsets) (items : List Outline) (F i : Nat)
    (o : Outline) : String :=
  "<<\n  /Title " ++ env.utf8ToPdfmetastr o.title ++ "\n  /Dest [ " ++
    (toString (((Prog.getI? pages o.dest).map (·.pageObjNum)).getD 0) ++ " 0 R") ++
    " /XYZ null null null]\n" ++
    (((siblingsBefore items i).getLast?.elim "" fun j => "  /Prev " ++ (toString (F + j) ++ " 0 R") ++ "\n") ++
      ((siblingsAfter items i).head?.elim "" fun j => "  /Next " ++ (toString (F + j) ++ " 0 R") ++ "\n")) ++
    (match childrenOf items i with
      | [] => ""
      | c :: cs => "  /First " ++ (toString (F + c) ++ " 0 R") ++ "\n" ++
        "  /Last " ++ (toString (F + (c :: cs).getLast (List.cons_ne_nil c cs)) ++ " 0 R") ++ "\n" ++
        "  /Count " ++ toString (-((c :: cs).length : Int)) ++ "\n") ++
    "  /Parent " ++ (toString (match o.parent with
      | some p => F + p.toNat
      | none => F + items.length) ++ " 0 R") ++ "\n>>"

-- The spec's Outlines dictionary of the forest items written from object F on.
def outlinesDictText (items : List Outline) (F : Nat) : String :=
  match childrenOf items (-1) with
  | [] => ""
  | c :: cs => "<<\n  /Type /Outlines\n  /First " ++ (toString (F + c) ++ " 0 R") ++ "\n  /Last " ++
    (toString (F + (c :: cs).getLast (List.cons_ne_nil c cs)) ++ " 0 R") ++ "\n  /Count " ++
    toString (c :: cs).length ++ "\n>>\n"

namespace PdfDocument

variable (env : Env)

theorem outlineItem_run {d : PdfDocument} {items : List Outline} (hout : d.outlines = buildOutlines items)
    {i : Nat} {o : Outline} (hi : items[i]? = some o) {page : PageOffsets}
    (hpage : Prog.getI? d.pages o.dest = some page) (hpar : ∀ p, o.parent = some p → 0 ≤ p)
    (F : Nat) (s : PdfDocument) :
    (outlineItem env d F (F + items.length) i o).run s = .ok (outlineText env d.pages items F i o) s := by
  have hpk : (buildOutlines items).parent.find? (i : Int) = some o.parentKey := by
    simp [find?_parent_buildOutlines, hi]
  have hsib : (buildOutlines items).children.find? o.parentKey =
      some ((siblingsBefore items i ++ i :: siblingsAfter items i).map (↑)) := by
    rw [find?_children_buildOutlines, childrenOf_split hi, if_neg (by simp)]
  simp only [outlineItem, hout, hpk, hsib, run_someOrThrow_bind, run_at!_bind, hpage]
  have hB := not_mem_siblingsBefore items i
  simp only [outlineText, hpage]
  generalize siblingsBefore items i = B at hB ⊢
  generalize siblingsAfter items i = A
  rw [run_bind, neighbours_run F hB]
  rw [find?_children_buildOutlines]
  rcases hc : childrenOf items (i : Int) with _ | ⟨c, cs⟩ <;> cases hp : o.parent <;>
    simp [hp, Outline.parentKey, hpar, getLast?_map_cast_getD, refText_natCast, refText_natCast_add,
      refText_natCast_add_of_nonneg]

section Items

variable {d : PdfDocument} {items : List Outline} (hout : d.outlines = buildOutlines items)
  (hdest : ∀ o ∈ items, ∃ page, Prog.getI? d.pages o.dest = some page)
  (hpar : ∀ o ∈ items, ∀ p, o.parent = some p → 0 ≤ p)

include hout hdest hpar in
theorem addOutlineItems_run (F : Nat) :
    ∀ (rest : List Outline) (k : Nat) (s : PdfDocument), items.drop k = rest →
      (addOutlineItems env d F (F + items.length) k rest).run s =
        .ok () (s.pushDicts ((rest.enumFrom k).map fun io => (outlineText env d.pages items F io.1 io.2, [])))
  | [], _, s, _ => by simp [addOutlineItems]
  | o :: rest, k, s, hdrop => by
    have hk : items[k]? = some o := by rw [← Nat.add_zero k, ← List.getElem?_drop, hdrop]; simp
    have ho : o ∈ items := List.mem_iff_getElem?.mpr ⟨k, hk⟩
    obtain ⟨page, hpage⟩ := hdest o ho
    have hrest : items.drop (k + 1) = rest := by rw [← List.drop_drop, hdrop]; rfl
    rw [addOutlineItems, run_bind, outlineItem_run env hout hk hpage (hpar o ho) F s]
    simp only [run_bind, run_discard, addObject, run_modifyGet]
    rw [addOutlineItems_run F rest (k + 1) _ hrest, List.enumFrom_cons, List.map_cons, pushDicts_cons]

end Items

end PdfDocument

end CapyPdf
