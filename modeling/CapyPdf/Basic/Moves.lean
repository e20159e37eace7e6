import CapyPdf.Basic.Result
import Mathlib.Order.Defs.Unbundled

namespace CapyPdf

def Moves (R : σ → σ → Prop) (x : Prog σ α) : Prop :=
  ∀ s, R s (x.run s).state

namespace Moves

variable {σ α β : Type} {R : σ → σ → Prop} {x y : Prog σ α}

theorem modify {f : σ → σ} (h : ∀ s, R s (f s)) : Moves R (modify f : Prog σ PUnit) :=
  h

theorem modifyGet {f : σ → α × σ} (h : ∀ s, R s (f s).2) : Moves R (modifyGet f : Prog σ α) :=
  h

theorem ite (c : Prop) [Decidable c] (hx : Moves R x) (hy : Moves R y) :
    Moves R (if c then x else y) := by
  split <;> assumption

theorem of_run_ok (h : Moves R x) {s s' : σ} {a : α} (hr : x.run s = .ok a s') : R s s' := by
  simpa [hr] using h s

theorem of_run_error (h : Moves R x) {s s' : σ} {e : Fault} (hr : x.run s = .error e s') :
    R s s' := by
  simpa [hr] using h s

variable [IsPreorder σ R]

theorem of_state_eq (h : ∀ s, (x.run s).state = s) : Moves R x :=
  fun s => (h s).symm ▸ refl_of R s

theorem pure (a : α) : Moves R (pure a : Prog σ α) :=
  of_state_eq fun _ => rfl

theorem get : Moves R (get : Prog σ σ) :=
  of_state_eq fun _ => rfl

theorem throw (e : Fault) : Moves R (throw e : Prog σ α) :=
  of_state_eq fun _ => rfl

theorem bind {f : α → Prog σ β} (hx : Moves R x) (hf : ∀ a, Moves R (f a)) : Moves R (x >>= f) :=
  fun s => by
    have hs := hx s
    rw [run_bind]
    cases h : x.run s with
    | ok a s' =>
      rw [h] at hs
      exact trans_of R hs (hf a s')
    | error e s' =>
      rw [h] at hs
      exact hs

theorem seqRight {y : Prog σ β} (hx : Moves R x) (hy : Moves R y) : Moves R (x *> y) := by
  have : x *> y = x >>= fun _ => y := rfl
  exact this ▸ hx.bind fun _ => hy

theorem map (f : α → β) (hx : Moves R x) : Moves R (f <$> x) := by
  have : f <$> x = x >>= fun a => Pure.pure (f a) := rfl
  exact this ▸ hx.bind fun _ => pure _

theorem reterr (e : ErrorCode) : Moves R (Prog.reterr e : Prog σ α) :=
  throw _

theorem reterrIf (c : Prop) [Decidable c] (e : ErrorCode) : Moves R (Prog.reterrIf c e : Prog σ Unit) :=
  ite c (reterr e) (pure ())

theorem abortIf (c : Prop) [Decidable c] : Moves R (Prog.abortIf c : Prog σ Unit) :=
  ite c (throw _) (pure ())

theorem assert (c : Prop) [Decidable c] : Moves R (Prog.assert c : Prog σ Unit) :=
  abortIf _

theorem checkIndexness (id : Int) (size : Nat) : Moves R (Prog.checkIndexness id size : Prog σ Unit) :=
  reterrIf _ _

theorem lift (e : Except ErrorCode α) : Moves R (Prog.lift e : Prog σ α) := by
  cases e
  exacts [throw _, pure _]

theorem ofExcept (e : Except Fault α) : Moves R (Prog.ofExcept e : Prog σ α) := by
  cases e
  exacts [throw _, pure _]

theorem someOrThrow (o : Option α) (f : Fault) : Moves R (Prog.someOrThrow o f : Prog σ α) := by
  cases o
  exacts [throw _, pure _]

theorem someOr (o : Option α) (e : ErrorCode) : Moves R (Prog.someOr o e : Prog σ α) :=
  someOrThrow _ _

theorem at! (xs : List α) (i : Int) : Moves R (Prog.at! xs i : Prog σ α) := by
  unfold Prog.at!
  split
  exacts [pure _, throw _]

theorem listMapM {f : α → Prog σ β} (hf : ∀ a, Moves R (f a)) :
    ∀ l : List α, Moves R (l.mapM f)
  | [] => pure _
  | a :: l => by
    rw [List.mapM_cons]
    exact (hf a).bind fun _ => (listMapM hf l).bind fun _ => pure _

theorem optionForM {f : α → Prog σ PUnit} (hf : ∀ a, Moves R (f a)) :
    ∀ o : Option α, Moves R (o.forM f)
  | none => pure _
  | some a => hf a

end Moves

end CapyPdf
