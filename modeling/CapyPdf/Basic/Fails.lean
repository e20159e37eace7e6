import CapyPdf.Basic.Result

namespace CapyPdf

def Fails (P : Fault → Prop) (x : Prog σ α) : Prop :=
  ∀ s e s', x.run s = .error e s' → P e

def Fault.Internal : Fault → Prop
  | .error _ => False
  | _ => True

namespace Fails

variable {σ α β : Type} {P : Fault → Prop} {x y : Prog σ α}

theorem of_run (h : ∀ s, ∃ a s', x.run s = .ok a s') : Fails P x := by
  intro s e s' hr
  obtain ⟨a, s'', h'⟩ := h s
  rw [hr] at h'
  cases h'

theorem pure (a : α) : Fails P (pure a : Prog σ α) :=
  of_run fun s => ⟨a, s, rfl⟩

theorem get : Fails P (get : Prog σ σ) :=
  of_run fun s => ⟨s, s, rfl⟩

theorem modify (f : σ → σ) : Fails P (modify f : Prog σ PUnit) :=
  of_run fun s => ⟨⟨⟩, f s, rfl⟩

theorem modifyGet (f : σ → α × σ) : Fails P (modifyGet f : Prog σ α) :=
  of_run fun s => ⟨(f s).1, (f s).2, rfl⟩

theorem throw {e : Fault} (h : P e) : Fails P (throw e : Prog σ α) := by
  intro s e' s' hr
  cases hr
  exact h

theorem ite (c : Prop) [Decidable c] (hx : Fails P x) (hy : Fails P y) :
    Fails P (if c then x else y) := by
  split <;> assumption

theorem bind {f : α → Prog σ β} (hx : Fails P x) (hf : ∀ a, Fails P (f a)) : Fails P (x >>= f) := by
  intro s e s' hr
  rw [run_bind] at hr
  split at hr
  · exact hf _ _ _ _ hr
  · cases hr
    exact hx _ _ _ (by assumption)

theorem seqRight {y : Prog σ β} (hx : Fails P x) (hy : Fails P y) : Fails P (x *> y) :=
  (show x *> y = x >>= fun _ => y from rfl) ▸ hx.bind fun _ => hy

theorem map (f : α → β) (hx : Fails P x) : Fails P (f <$> x) := by
  have : f <$> x = x >>= fun a => Pure.pure (f a) := rfl
  exact this ▸ hx.bind fun _ => pure _

theorem abortIf (c : Prop) [Decidable c] (h : P .abort) : Fails P (Prog.abortIf c : Prog σ Unit) :=
  ite c (throw h) (pure ())

theorem assert (c : Prop) [Decidable c] (h : P .abort) : Fails P (Prog.assert c : Prog σ Unit) :=
  abortIf _ h

theorem at! (xs : List α) (i : Int) (h : P .outOfRange) : Fails P (Prog.at! xs i : Prog σ α) := by
  unfold Prog.at!
  split
  exacts [pure _, throw h]

theorem someOrThrow (o : Option α) {e : Fault} (h : P e) :
    Fails P (Prog.someOrThrow o e : Prog σ α) := by
  cases o
  exacts [throw h, pure _]

theorem listMapM {f : α → Prog σ β} (hf : ∀ a, Fails P (f a)) :
    ∀ l : List α, Fails P (l.mapM f)
  | [] => pure _
  | a :: l => by
    rw [List.mapM_cons]
    exact (hf a).bind fun _ => (listMapM hf l).bind fun _ => pure _

end Fails

end CapyPdf
