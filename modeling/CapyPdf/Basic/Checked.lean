import CapyPdf.Basic.Moves
import CapyPdf.Basic.Fails

namespace CapyPdf

def Unchanged {σ : Type} (s s' : σ) : Prop :=
  s' = s

instance {σ : Type} : IsPreorder σ Unchanged where
  refl _ := rfl
  trans _ _ _ h₁ h₂ := h₂.trans h₁

def Checked {σ α : Type} (x : Prog σ α) : Prop :=
  ∀ s c s', x.run s = .error (.error c) s' → s' = s

namespace Checked

variable {σ α β : Type} {x : Prog σ α} {f : α → Prog σ β}

theorem of_fails (h : Fails Fault.Internal x) : Checked x :=
  fun _ _ _ hr => (h _ _ _ hr).elim

theorem bind_unchanged (hx : Moves Unchanged x) (hf : ∀ a, Checked (f a)) : Checked (x >>= f) := by
  intro s c s' hr
  rw [run_bind] at hr
  split at hr
  · next a s₁ h₁ => exact (hf a _ _ _ hr).trans (hx.of_run_ok h₁)
  · next e s₁ h₁ =>
    cases hr
    exact hx.of_run_error h₁

theorem bind_fails (hx : Checked x) (hf : ∀ a, Fails Fault.Internal (f a)) :
    Checked (x >>= f) := by
  intro s c s' hr
  rw [run_bind] at hr
  split at hr
  · exact (hf _ _ _ _ hr).elim
  · next e s₁ h₁ =>
    cases hr
    exact hx _ _ _ h₁

theorem seqRight_pure (hx : Checked x) (b : β) : Checked (x *> pure b : Prog σ β) :=
  (show x *> pure b = x >>= fun _ => pure b from rfl) ▸ hx.bind_fails fun _ => .pure _

theorem map (g : α → β) (hx : Checked x) : Checked (g <$> x) :=
  (show g <$> x = x >>= fun a => pure (g a) from rfl) ▸ hx.bind_fails fun _ => .pure _

end Checked

end CapyPdf
