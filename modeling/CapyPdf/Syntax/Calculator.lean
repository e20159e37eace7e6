import CapyPdf.Syntax.Object

namespace CapyPdf

namespace Syntax

namespace Calculator

def words : List Char → List Char → List String
  | [], w => flush w []
  | c :: cs, w =>
    if isWhite c then flush w (words cs [])
    else if c = '\x7b' ∨ c = '\x7d' then flush w (String.mk [c] :: words cs [])
    else words cs (c :: w)
where
  flush (w : List Char) (rest : List String) : List String :=
    if w.isEmpty then rest else String.mk w.reverse :: rest

def tokenize (cs : List Char) : List String :=
  words cs []

inductive Operator where
  | add | sub | mul | neg | dup | exch | pop | other
  deriving DecidableEq, Repr

def operatorNames : List (String × Operator) :=
  [("add", .add), ("sub", .sub), ("mul", .mul), ("neg", .neg), ("dup", .dup), ("exch", .exch),
    ("pop", .pop)] ++
  (["abs", "atan", "ceiling", "cos", "cvi", "cvr", "div", "exp", "floor", "idiv", "ln", "log", "mod",
    "round", "sin", "sqrt", "truncate", "and", "bitshift", "eq", "false", "ge", "gt", "le", "lt", "ne",
    "not", "or", "true", "xor", "if", "ifelse", "copy", "index", "roll"].map (·, .other))

inductive Token where
  | op (o : Operator)
  | num (text : String)
  | bad
  deriving DecidableEq, Repr

def classify (tok : String) : Token :=
  match operatorNames.lookup tok with
  | some o => .op o
  | none => if isNumber tok.data then .num tok else .bad

variable {α : Type} [Add α] [Sub α] [Mul α] [Neg α]

def Operator.run : Operator → List α → Option (List α)
  | .add, b :: a :: s => some ((a + b) :: s)
  | .sub, b :: a :: s => some ((a - b) :: s)
  | .mul, b :: a :: s => some ((a * b) :: s)
  | .neg, a :: s => some (-a :: s)
  | .dup, a :: s => some (a :: a :: s)
  | .exch, b :: a :: s => some (a :: b :: s)
  | .pop, _ :: s => some s
  | _, _ => none

def step (val : String → α) (stack : List α) (tok : String) : Option (List α) :=
  match classify tok with
  | .op o => o.run stack
  | .num text => some (val text :: stack)
  | .bad => none

def eval (val : String → α) (prog : String) (stack : List α) : Option (List α) :=
  match tokenize prog.data with
  | "\x7b" :: body => if body.getLast? = some "\x7d" then body.dropLast.foldlM (step val) stack else none
  | _ => none

def IsWord (s : String) : Prop :=
  s.data ≠ [] ∧ ∀ c ∈ s.data, isWhite c = false ∧ c ≠ '\x7b' ∧ c ≠ '\x7d'

def IsNumberToken (s : String) : Prop :=
  IsWord s ∧ classify s = .num s

instance (s : String) : Decidable (IsWord s) :=
  inferInstanceAs (Decidable (_ ∧ _))

instance (s : String) : Decidable (IsNumberToken s) :=
  inferInstanceAs (Decidable (_ ∧ _))

theorem words_append (l rest w : List Char)
    (hl : ∀ c ∈ l, isWhite c = false ∧ c ≠ '\x7b' ∧ c ≠ '\x7d') :
    words (l ++ rest) w = words rest (l.reverse ++ w) := by
  induction l generalizing w with
  | nil => rfl
  | cons c l ih =>
    obtain ⟨hw, hl₁, hl₂⟩ := hl c (.head _)
    rw [List.cons_append, words, if_neg (by simp [hw]), if_neg (by simp [hl₁, hl₂]),
      ih _ fun c hc => hl c (.tail _ hc)]
    simp

theorem words_word {s : String} (hs : IsWord s) {c : Char} (hc : isWhite c = true)
    (rest : List Char) : words (s.data ++ c :: rest) [] = s :: words rest [] := by
  rw [words_append _ _ _ hs.2, words, if_pos hc, List.append_nil, words.flush,
    if_neg (by simpa using hs.1), List.reverse_reverse]

theorem step_number {s : String} (hs : IsNumberToken s) (val : String → α) (stack : List α) :
    step val stack s = some (val s :: stack) := by
  rw [step, hs.2]

@[simp] theorem step_dup (val : String → α) (a : α) (s : List α) :
    step val (a :: s) "dup" = some (a :: a :: s) :=
  rfl

@[simp] theorem step_exch (val : String → α) (a b : α) (s : List α) :
    step val (b :: a :: s) "exch" = some (a :: b :: s) :=
  rfl

@[simp] theorem step_mul (val : String → α) (a b : α) (s : List α) :
    step val (b :: a :: s) "mul" = some (a * b :: s) :=
  rfl

end Calculator

end Syntax

end CapyPdf
