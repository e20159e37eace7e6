import CapyPdf.Objects.Types

namespace CapyPdf

inductive DrawStateType where
  | markedContent
  | saveState
  | text
  deriving DecidableEq, Repr

-- The part of a `PdfDrawContext` that the modelled code reads. The resource sets are read only
-- by `build_resource_dict` and `serialize`, whose bodies are not under `src/`.
structure DrawContext where
  doc : Nat
  contextType : DrawContextType
  commands : String
  dstateStack : List DrawStateType
  ind : String
  markedDepth : Int
  bbox : PdfRectangle

def popBack (s : String) : String :=
  ⟨s.data.dropLast⟩

@[simp]
theorem popBack_data (s : String) : (popBack s).data = s.data.dropLast :=
  rfl

namespace DrawContext

/-- Modelled from the spec: the constructor (in drawcontext.cpp, not under `src/`) starts with
no commands, an empty nesting stack and no indentation. -/
def new (doc : Nat) (dtype : DrawContextType) (bbox : PdfRectangle) : DrawContext :=
  ⟨doc, dtype, "", [], "", 0, bbox⟩

def hasUnclosedState (ctx : DrawContext) : Bool :=
  !ctx.dstateStack.isEmpty

def getW (ctx : DrawContext) : Float :=
  ctx.bbox.x2 - ctx.bbox.x1

def getH (ctx : DrawContext) : Float :=
  ctx.bbox.y2 - ctx.bbox.y1

-- `ind.size()` counts bytes; `ind` only ever holds spaces, so it is the number of characters.
def indent (dtype : DrawStateType) : Prog DrawContext Unit := do
  let ctx ← get
  Prog.reterrIf (dtype = .markedContent ∧ dtype ∈ ctx.dstateStack) .nestedBMC
  set { ctx with dstateStack := ctx.dstateStack ++ [dtype], ind := ctx.ind ++ "  " }

def dedent (dtype : DrawStateType) : Prog DrawContext Unit := do
  let ctx ← get
  Prog.reterrIf ctx.dstateStack.isEmpty .drawStateEndMismatch
  Prog.reterrIf (ctx.dstateStack.getLast? ≠ some dtype) .drawStateEndMismatch
  Prog.abortIf (ctx.ind.length < 2)
  set { ctx with dstateStack := ctx.dstateStack.dropLast, ind := popBack (popBack ctx.ind) }

end DrawContext

end CapyPdf
