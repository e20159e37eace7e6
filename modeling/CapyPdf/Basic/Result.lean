import Mathlib.Data.List.Basic

namespace EStateM.Result

variable {ε σ α : Type}

def state : EStateM.Result ε σ α → σ
  | .ok _ s => s
  | .error _ s => s

@[simp] theorem state_ok (a : α) (s : σ) : (EStateM.Result.ok a s : EStateM.Result ε σ α).state = s :=
  rfl

@[simp] theorem state_error (e : ε) (s : σ) :
    (EStateM.Result.error e s : EStateM.Result ε σ α).state = s :=
  rfl

def outcome : EStateM.Result ε σ α → Except ε α
  | .ok a _ => .ok a
  | .error e _ => .error e

@[simp] theorem outcome_ok (a : α) (s : σ) :
    (EStateM.Result.ok a s : EStateM.Result ε σ α).outcome = .ok a :=
  rfl

@[simp] theorem outcome_error (e : ε) (s : σ) :
    (EStateM.Result.error e s : EStateM.Result ε σ α).outcome = .error e :=
  rfl

end EStateM.Result

namespace CapyPdf

inductive ErrorCode where
  | colorOutOfRange
  | colorspaceMismatch
  | outputProfileMissing
  | missingIntentIdentifier
  | annotationReuse
  | structureReuse
  | roleAlreadyDefined
  | slashStart
  | nestedBMC
  | drawStateEndMismatch
  | unclosedMarkedContent
  | invalidDrawContextType
  | incorrectDocumentForObject
  | missingGlyph
  | unsupportedFormat
  | freeTypeError
  | invalidImageSize
  | missingPixels
  | maskAndAlpha
  | noCmykProfile
  | annotationMissingRect
  | indexOutOfBounds
  | unreachable
  deriving DecidableEq, Repr

-- How a call of the library can end other than by returning a value: an `rvoe` error handed
-- back to the caller (`RETERR`, `ERC`), the `std::out_of_range` that a bounds-checked `.at()`
-- throws, the `std::bad_variant_access` of a `std::get` on the wrong alternative, or the end of
-- the process by `std::abort` or a failed `assert`.
inductive Fault where
  | error (e : ErrorCode)
  | outOfRange
  | badVariantAccess
  | abort
  deriving DecidableEq, Repr

-- As in C++, a failure keeps every mutation made before it.
abbrev Prog (σ : Type) := EStateM Fault σ

namespace Prog

variable {σ α β : Type}

def reterr (e : ErrorCode) : Prog σ α := throw (.error e)

def reterrIf (c : Prop) [Decidable c] (e : ErrorCode) : Prog σ Unit :=
  if c then reterr e else pure ()

def abortIf (c : Prop) [Decidable c] : Prog σ Unit :=
  if c then throw .abort else pure ()

-- An assert, in a build that checks them.
def assert (c : Prop) [Decidable c] : Prog σ Unit :=
  abortIf ¬c

def lift : Except ErrorCode α → Prog σ α
  | .ok a => pure a
  | .error e => throw (.error e)

/-- Modelled from the spec: `CHECK_INDEXNESS_V(id, v)`, a macro not under `src/`, fails with
`IndexOutOfBounds` when `id` is not an index of `v`. -/
def checkIndexness (id : Int) (size : Nat) : Prog σ Unit :=
  reterrIf (id < 0 ∨ size ≤ id) .indexOutOfBounds

def someOrThrow (x : Option α) (f : Fault) : Prog σ α :=
  match x with
  | some a => pure a
  | none => throw f

def someOr (x : Option α) (e : ErrorCode) : Prog σ α :=
  someOrThrow x (.error e)

def ofExcept : Except Fault α → Prog σ α
  | .ok a => pure a
  | .error f => throw f

def getI? (xs : List α) (i : Int) : Option α :=
  if 0 ≤ i then xs[i.toNat]? else none

@[simp]
theorem getI?_natCast (xs : List α) (i : Nat) : getI? xs i = xs[i]? := by
  rw [getI?, if_pos (Int.ofNat_nonneg i), Int.toNat_ofNat]

def at! (xs : List α) (i : Int) : Prog σ α :=
  match getI? xs i with
  | some a => pure a
  | none => throw .outOfRange

end Prog

section Run

variable {σ α β : Type} (s : σ)

@[simp] theorem run_pure (a : α) : (pure a : Prog σ α).run s = .ok a s := rfl

@[simp] theorem run_bind (x : Prog σ α) (f : α → Prog σ β) :
    (x >>= f).run s = match x.run s with
      | .ok a s' => (f a).run s'
      | .error e s' => .error e s' := by
  show EStateM.bind x f s = _
  unfold EStateM.bind EStateM.run
  split <;> simp_all

@[simp] theorem run_seqRight (x : Prog σ α) (y : Prog σ β) :
    (x *> y).run s = match x.run s with
      | .ok _ s' => y.run s'
      | .error e s' => .error e s' := by
  show EStateM.seqRight x (fun _ => y) s = _
  unfold EStateM.seqRight EStateM.run
  split <;> simp_all

@[simp] theorem run_map (f : α → β) (x : Prog σ α) :
    (f <$> x).run s = match x.run s with
      | .ok a s' => .ok (f a) s'
      | .error e s' => .error e s' := by
  show EStateM.map f x s = _
  unfold EStateM.map EStateM.run
  split <;> simp_all

@[simp] theorem run_discard (x : Prog σ α) :
    (discard x).run s = match x.run s with
      | .ok _ s' => .ok ⟨⟩ s'
      | .error e s' => .error e s' :=
  run_map s _ x

@[simp] theorem run_ite (c : Prop) [Decidable c] (x y : Prog σ α) :
    (if c then x else y).run s = if c then x.run s else y.run s := by
  split <;> rfl

@[simp] theorem run_get : (get : Prog σ σ).run s = .ok s s := rfl

@[simp] theorem run_set (s' : σ) : (set s' : Prog σ PUnit).run s = .ok ⟨⟩ s' := rfl

@[simp] theorem run_modify (f : σ → σ) : (modify f : Prog σ PUnit).run s = .ok ⟨⟩ (f s) := rfl

@[simp] theorem run_modifyGet (f : σ → α × σ) :
    (modifyGet f : Prog σ α).run s = .ok (f s).1 (f s).2 := rfl

@[simp] theorem run_throw (e : Fault) : (throw e : Prog σ α).run s = .error e s := rfl

@[simp] theorem run_reterr (e : ErrorCode) : (Prog.reterr e : Prog σ α).run s = .error (.error e) s :=
  rfl

@[simp] theorem run_reterrIf (c : Prop) [Decidable c] (e : ErrorCode) :
    (Prog.reterrIf c e : Prog σ Unit).run s = if c then .error (.error e) s else .ok () s := by
  unfold Prog.reterrIf
  split <;> rfl

@[simp] theorem run_abortIf (c : Prop) [Decidable c] :
    (Prog.abortIf c : Prog σ Unit).run s = if c then .error .abort s else .ok () s := by
  unfold Prog.abortIf
  split <;> rfl

@[simp] theorem run_assert (c : Prop) [Decidable c] :
    (Prog.assert c : Prog σ Unit).run s = if c then .ok () s else .error .abort s := by
  by_cases h : c <;> simp [Prog.assert, h]

@[simp] theorem run_lift (x : Except ErrorCode α) :
    (Prog.lift x : Prog σ α).run s = match x with
      | .ok a => .ok a s
      | .error e => .error (.error e) s := by
  cases x <;> rfl

@[simp] theorem run_ofExcept (x : Except Fault α) :
    (Prog.ofExcept x : Prog σ α).run s = match x with
      | .ok a => .ok a s
      | .error f => .error f s := by
  cases x <;> rfl

@[simp] theorem run_at! (xs : List α) (i : Int) :
    (Prog.at! xs i : Prog σ α).run s = match Prog.getI? xs i with
      | some a => .ok a s
      | none => .error .outOfRange s := by
  unfold Prog.at!
  split <;> rename_i h <;> simp [h]

@[simp] theorem run_checkIndexness (id : Int) (size : Nat) :
    (Prog.checkIndexness id size : Prog σ Unit).run s =
      if id < 0 ∨ size ≤ id then .error (.error .indexOutOfBounds) s else .ok () s :=
  run_reterrIf ..

theorem run_bind_ok {x : Prog σ α} {f : α → Prog σ β} {a : α} {s' : σ} {r : EStateM.Result Fault σ β}
    (hx : x.run s = .ok a s') (h : (x >>= f).run s = r) : (f a).run s' = r := by
  rwa [run_bind, hx] at h

theorem run_bind_eq_ok {x : Prog σ α} {f : α → Prog σ β} {b : β} {s' : σ}
    (h : (x >>= f).run s = .ok b s') : ∃ a s₁, x.run s = .ok a s₁ ∧ (f a).run s₁ = .ok b s' := by
  rw [run_bind] at h
  split at h
  · exact ⟨_, _, ‹_›, h⟩
  · cases h

-- Running a sequence: the forms `simp` meets when it executes a `do` block step by step. They are
-- proved through `run_bind` rather than by `rfl`, so that `simp` rewrites with them instead of
-- leaving the kernel to unfold whole `do` blocks.

variable (f : α → Prog σ β)

@[simp] theorem run_pure_bind (a : α) : (pure a >>= f).run s = (f a).run s := by
  rw [run_bind]
  rfl

@[simp] theorem run_get_bind (f : σ → Prog σ β) : (get >>= f).run s = (f s).run s := by
  rw [run_bind]
  rfl

@[simp] theorem run_modify_bind (g : σ → σ) (f : PUnit → Prog σ β) :
    (modify g >>= f).run s = (f ⟨⟩).run (g s) := by
  rw [run_bind]
  rfl

@[simp] theorem run_modifyGet_bind (g : σ → α × σ) :
    (modifyGet g >>= f).run s = (f (g s).1).run (g s).2 := by
  rw [run_bind]
  rfl

@[simp] theorem run_reterrIf_bind (c : Prop) [Decidable c] (e : ErrorCode) (f : Unit → Prog σ β) :
    (Prog.reterrIf c e >>= f).run s = if c then .error (.error e) s else (f ()).run s := by
  unfold Prog.reterrIf
  split <;> rfl

@[simp] theorem run_abortIf_bind (c : Prop) [Decidable c] (f : Unit → Prog σ β) :
    (Prog.abortIf c >>= f).run s = if c then .error .abort s else (f ()).run s := by
  unfold Prog.abortIf
  split <;> rfl

@[simp] theorem run_assert_bind (c : Prop) [Decidable c] (f : Unit → Prog σ β) :
    (Prog.assert c >>= f).run s = if c then (f ()).run s else .error .abort s := by
  unfold Prog.assert Prog.abortIf
  by_cases h : c <;> simp [h]

@[simp] theorem run_checkIndexness_bind (id : Int) (size : Nat) (f : Unit → Prog σ β) :
    (Prog.checkIndexness id size >>= f).run s =
      if id < 0 ∨ size ≤ id then .error (.error .indexOutOfBounds) s else (f ()).run s :=
  run_reterrIf_bind ..

@[simp] theorem run_lift_bind (x : Except ErrorCode α) :
    (Prog.lift x >>= f).run s = match x with
      | .ok a => (f a).run s
      | .error e => .error (.error e) s := by
  cases x <;> rfl

@[simp] theorem run_ofExcept_bind (x : Except Fault α) :
    (Prog.ofExcept x >>= f).run s = match x with
      | .ok a => (f a).run s
      | .error e => .error e s := by
  cases x <;> rfl

@[simp] theorem run_at!_bind (xs : List α) (i : Int) :
    (Prog.at! xs i >>= f).run s = match Prog.getI? xs i with
      | some a => (f a).run s
      | none => .error .outOfRange s := by
  unfold Prog.at!
  split <;> rename_i h <;> simp [h]

@[simp] theorem run_someOrThrow_bind (x : Option α) (e : Fault) :
    (Prog.someOrThrow x e >>= f).run s = match x with
      | some a => (f a).run s
      | none => .error e s := by
  cases x <;> rw [run_bind] <;> rfl

@[simp] theorem run_someOr_bind (x : Option α) (e : ErrorCode) :
    (Prog.someOr x e >>= f).run s = match x with
      | some a => (f a).run s
      | none => .error (.error e) s :=
  run_someOrThrow_bind ..

@[simp] theorem run_throw_bind (e : Fault) : (throw e >>= f).run s = .error e s := by
  rw [run_bind]
  rfl

theorem run_listMapM_ok {f : α → Prog σ β} {g : α → β} :
    ∀ {l : List α}, (∀ a ∈ l, (f a).run s = .ok (g a) s) → (l.mapM f).run s = .ok (l.map g) s
  | [], _ => rfl
  | a :: l, h => by
    rw [List.mapM_cons, run_bind, h a (.head _)]
    simp only [run_bind, run_listMapM_ok fun b hb => h b (.tail _ hb), run_pure, List.map_cons]

@[simp] theorem state_run_seqRight_pure (x : Prog σ α) (b : β) :
    ((x *> Pure.pure b).run s).state = (x.run s).state := by
  rw [run_seqRight]
  cases x.run s <;> rfl

@[simp] theorem state_run_map (f : α → β) (x : Prog σ α) :
    ((f <$> x).run s).state = (x.run s).state := by
  rw [run_map]
  cases x.run s <;> rfl

end Run

theorem getElem?_of_isPrefix {α : Type} {l l' : List α} {i : Nat} {a : α} (h : l <+: l')
    (hi : l[i]? = some a) : l'[i]? = some a := by
  obtain ⟨t, rfl⟩ := h
  rw [List.getElem?_append_left (List.getElem?_eq_some_iff.mp hi).1, hi]

end CapyPdf
