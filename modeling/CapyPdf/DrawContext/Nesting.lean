import CapyPdf.DrawContext.Basic
import Mathlib.Data.List.Basic

namespace CapyPdf

namespace DrawContext

inductive Nest where
  | push (k : DrawStateType)
  | pop (k : DrawStateType)
  deriving DecidableEq, Repr

def Nest.run : Nest → Prog DrawContext Unit
  | .push k => indent k
  | .pop k => dedent k

def reduce : List Nest → List DrawStateType → Option (List DrawStateType)
  | [], st => some st
  | .push k :: w, st => reduce w (st ++ [k])
  | .pop k :: w, st => if st.getLast? = some k then reduce w st.dropLast else none

structure IndentInv (ctx : DrawContext) : Prop where
  ind_eq : ctx.ind.data = List.replicate (2 * ctx.dstateStack.length) ' '
  marked_le : ctx.dstateStack.count .markedContent ≤ 1

inductive Reaches : DrawContext → List Nest → Prop
  | new (doc : Nat) (dtype : DrawContextType) (bbox : PdfRectangle) :
      Reaches (DrawContext.new doc dtype bbox) []
  | ok {ctx ctx' : DrawContext} {w : List Nest} {s : Nest} :
      Reaches ctx w → s.run.run ctx = .ok () ctx' → Reaches ctx' (w ++ [s])
  | error {ctx ctx' : DrawContext} {w : List Nest} {s : Nest} {e : Fault} :
      Reaches ctx w → s.run.run ctx = .error e ctx' → Reaches ctx' w

variable {ctx ctx' : DrawContext} {k : DrawStateType} {e : Fault}

theorem indent_run (ctx : DrawContext) (k : DrawStateType) :
    (indent k).run ctx = if k = .markedContent ∧ k ∈ ctx.dstateStack then
      .error (.error .nestedBMC) ctx
    else .ok () { ctx with dstateStack := ctx.dstateStack ++ [k], ind := ctx.ind ++ "  " } := by
  simp only [indent, run_get_bind, run_reterrIf_bind, run_set]

theorem dedent_run (ctx : DrawContext) (k : DrawStateType) :
    (dedent k).run ctx = if ctx.dstateStack.isEmpty then .error (.error .drawStateEndMismatch) ctx
    else if ctx.dstateStack.getLast? ≠ some k then .error (.error .drawStateEndMismatch) ctx
    else if ctx.ind.length < 2 then .error .abort ctx
    else .ok ()
      { ctx with dstateStack := ctx.dstateStack.dropLast, ind := popBack (popBack ctx.ind) } := by
  simp only [dedent, run_get_bind, run_reterrIf_bind, run_abortIf_bind, run_set]

theorem Nest.run_error {s : Nest} (h : s.run.run ctx = .error e ctx') : ctx' = ctx := by
  cases s <;> simp only [Nest.run, indent_run, dedent_run] at h <;> split_ifs at h <;> cases h <;>
    rfl

theorem IndentInv.dedent_ne_abort (h : IndentInv ctx) : (dedent k).run ctx ≠ .error .abort ctx' := by
  have hlen : ctx.ind.length = 2 * ctx.dstateStack.length := by
    rw [String.length, h.ind_eq, List.length_replicate]
  rw [dedent_run]
  split_ifs with h₁ h₂ h₃ <;> try simp
  have : ctx.dstateStack ≠ [] := by simpa using h₁
  have : 0 < ctx.dstateStack.length := List.length_pos.mpr this
  omega

theorem IndentInv.push (h : IndentInv ctx) (hr : (indent k).run ctx = .ok () ctx') :
    IndentInv ctx' := by
  rw [indent_run] at hr
  split_ifs at hr with hk
  cases hr
  refine ⟨?_, ?_⟩
  · simp [h.ind_eq, List.replicate_add, Nat.mul_add]
  · have := h.marked_le
    by_cases hm : k = .markedContent
    · subst hm
      have : DrawStateType.markedContent ∉ ctx.dstateStack := fun hm => hk ⟨rfl, hm⟩
      simp [List.count_eq_zero_of_not_mem this]
    · simp [List.count_append, List.count_singleton, hm, this]

theorem IndentInv.pop (h : IndentInv ctx) (hr : (dedent k).run ctx = .ok () ctx') :
    IndentInv ctx' := by
  rw [dedent_run] at hr
  split_ifs at hr
  cases hr
  refine ⟨?_, ?_⟩
  · simp only [popBack_data, List.length_dropLast, h.ind_eq, List.dropLast_replicate]
    congr 1
    omega
  · exact (List.Sublist.count_le (List.dropLast_sublist _) _).trans h.marked_le

theorem IndentInv.run (h : IndentInv ctx) {s : Nest} (hr : s.run.run ctx = .ok () ctx') :
    IndentInv ctx' := by
  cases s
  exacts [h.push hr, h.pop hr]

theorem reduce_append (w : List Nest) (s : Nest) (st : List DrawStateType) :
    reduce (w ++ [s]) st = (reduce w st).bind (reduce [s]) := by
  induction w generalizing st with
  | nil => rfl
  | cons s' w ih =>
    cases s' with
    | push k => exact ih _
    | pop k =>
      simp only [List.cons_append, reduce]
      split_ifs
      exacts [ih _, rfl]

theorem Nest.reduce_run {s : Nest} (hr : s.run.run ctx = .ok () ctx') :
    reduce [s] ctx.dstateStack = some ctx'.dstateStack := by
  cases s with
  | push k =>
    simp only [Nest.run, indent_run] at hr
    split_ifs at hr
    cases hr
    rfl
  | pop k =>
    simp only [Nest.run, dedent_run] at hr
    split_ifs at hr with h₁ h₂
    cases hr
    simp only [ne_eq, not_not] at h₂
    simp [reduce, h₂]

theorem Reaches.inv {w : List Nest} (h : Reaches ctx w) :
    IndentInv ctx ∧ reduce w [] = some ctx.dstateStack := by
  induction h with
  | new => exact ⟨⟨rfl, by simp [DrawContext.new]⟩, rfl⟩
  | ok _ hr ih => exact ⟨ih.1.run hr, by rw [reduce_append, ih.2, Option.some_bind, Nest.reduce_run hr]⟩
  | error _ hr ih => exact (Nest.run_error hr).symm ▸ ih

def countPush (k : DrawStateType) (w : List Nest) : Nat :=
  w.count (.push k)

def countPop (k : DrawStateType) (w : List Nest) : Nat :=
  w.count (.pop k)

theorem reduce_count {w : List Nest} {st st' : List DrawStateType} (h : reduce w st = some st')
    (k : DrawStateType) : countPush k w + st.count k = countPop k w + st'.count k := by
  induction w generalizing st with
  | nil => cases h; simp [countPush, countPop]
  | cons s w ih =>
    cases s with
    | push k' =>
      have := ih h
      simp only [countPush, countPop, List.count_cons, List.count_append, List.count_nil,
        beq_iff_eq, Nest.push.injEq, reduceCtorEq, if_false] at this ⊢
      split_ifs at this ⊢ <;> omega
    | pop k' =>
      simp only [reduce] at h
      split_ifs at h with hl
      have := ih h
      rw [← List.dropLast_append_getLast? _ hl]
      simp only [countPush, countPop, List.count_cons, List.count_append, List.count_nil,
        beq_iff_eq, Nest.pop.injEq, reduceCtorEq, if_false] at this ⊢
      split_ifs <;> omega

theorem nesting_discipline {ctx : DrawContext} {w : List Nest} (h : Reaches ctx w) :
    (∀ (s : Nest) ctx' e, s.run.run ctx = .error e ctx' → ctx' = ctx) ∧
    ctx.ind.data = List.replicate (2 * ctx.dstateStack.length) ' ' ∧
    (∀ k ctx', (dedent k).run ctx ≠ .error .abort ctx') ∧
    ctx.dstateStack.count .markedContent ≤ 1 ∧
    reduce w [] = some ctx.dstateStack ∧
    (ctx.hasUnclosedState = false → reduce w [] = some [] ∧ ∀ k, countPush k w = countPop k w) := by
  obtain ⟨hinv, hred⟩ := h.inv
  refine ⟨fun _ _ _ => Nest.run_error, hinv.ind_eq, fun _ _ => hinv.dedent_ne_abort,
    hinv.marked_le, hred, fun hc => ?_⟩
  have hnil : ctx.dstateStack = [] := by simpa [hasUnclosedState] using hc
  rw [hnil] at hred
  exact ⟨hred, fun k => by simpa using reduce_count hred k⟩

theorem nesting_discipline_saveMarked :
    let ctx₀ := DrawContext.new 0 .page ⟨0, 0, 0, 0⟩
    let ctx₁ := (indent .saveState).run ctx₀ |>.state
    let ctx₂ := (indent .markedContent).run ctx₁ |>.state
    let ctx₃ := (dedent .markedContent).run ctx₂ |>.state
    let ctx₄ := (dedent .saveState).run ctx₃ |>.state
    let w := [.push .saveState, .push .markedContent, .pop .markedContent, .pop .saveState]
    Reaches ctx₄ w ∧ ctx₄.hasUnclosedState = false ∧
      (reduce w [] = some [] ∧ ∀ k, countPush k w = countPop k w) := by
  intro ctx₀ _ _ _ ctx₄ w
  have h := Reaches.new 0 .page ⟨0, 0, 0, 0⟩ |>.ok (s := .push .saveState) rfl
    |>.ok (s := .push .markedContent) rfl |>.error (s := .push .markedContent) rfl
    |>.ok (s := .pop .markedContent) rfl |>.error (s := .pop .text) rfl
    |>.ok (s := .pop .saveState) rfl
  exact ⟨h, rfl, (nesting_discipline h).2.2.2.2.2 rfl⟩

theorem indent_run_of_ne_marked (ctx : DrawContext) (hk : k ≠ .markedContent) :
    (indent k).run ctx =
      .ok () { ctx with dstateStack := ctx.dstateStack ++ [k], ind := ctx.ind ++ "  " } := by
  rw [indent_run, if_neg fun h => hk h.1]

theorem indent_over_text {w : List Nest} (h : Reaches ctx w) (htext : .text ∈ ctx.dstateStack) :
    (∀ k, k ≠ .markedContent → ∃ ctx', (indent k).run ctx = .ok () ctx' ∧
      Reaches ctx' (w ++ [.push k]) ∧ ctx'.dstateStack.getLast? = some k ∧
      ∃ i < ctx'.dstateStack.length - 1, ctx'.dstateStack[i]? = some .text) ∧
    ∀ ctx' e, (indent .markedContent).run ctx = .error e ctx' → e = .error .nestedBMC ∧ ctx' = ctx := by
  refine ⟨fun k hk => ?_, fun ctx' e he => ?_⟩
  · have hr := indent_run_of_ne_marked ctx hk
    refine ⟨_, hr, h.ok (s := .push k) hr, List.getLast?_concat _, ?_⟩
    obtain ⟨i, hi, hget⟩ := List.getElem_of_mem htext
    exact ⟨i, by simpa using hi, by rw [List.getElem?_append_left hi, List.getElem?_eq_getElem hi, hget]⟩
  · rw [indent_run] at he
    split_ifs at he
    cases he
    exact ⟨rfl, rfl⟩

theorem indent_over_text_nested :
    let ctx₁ := (indent .text).run (DrawContext.new 0 .page ⟨0, 0, 0, 0⟩) |>.state
    Reaches ctx₁ [.push .text] ∧ DrawStateType.text ∈ ctx₁.dstateStack ∧
      (∀ k, k ≠ .markedContent → ∃ ctx', (indent k).run ctx₁ = .ok () ctx' ∧
        Reaches ctx' ([.push .text] ++ [.push k]) ∧ ctx'.dstateStack.getLast? = some k ∧
        ∃ i < ctx'.dstateStack.length - 1, ctx'.dstateStack[i]? = some .text) ∧
      ∀ ctx' e, (indent .markedContent).run ctx₁ = .error e ctx' → e = .error .nestedBMC ∧ ctx' = ctx₁ :=
  have h : Reaches ((indent .text).run (DrawContext.new 0 .page ⟨0, 0, 0, 0⟩) |>.state) [.push .text] :=
    Reaches.new 0 .page ⟨0, 0, 0, 0⟩ |>.ok (s := .push .text) rfl
  ⟨h, by decide, indent_over_text h (by decide)⟩

theorem text_inside_text_reached :
    ¬∀ ctx w, Reaches ctx w → ∀ i j : Nat, i < j → ctx.dstateStack[i]? = some DrawStateType.text →
      ctx.dstateStack[j]? ≠ some DrawStateType.text ∧ ctx.dstateStack[j]? ≠ some .saveState := fun H =>
  have h := Reaches.new 0 .page ⟨0, 0, 0, 0⟩ |>.ok (s := .push .text) rfl |>.ok (s := .push .text) rfl
  (H _ _ h 0 1 (by decide) rfl).1 rfl

end DrawContext

end CapyPdf
