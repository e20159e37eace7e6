import CapyPdf.Basic.Result

namespace CapyPdf

/-- Modelled from the spec: `FontSubsetter`, whose source (fontsubsetter.cpp) is not under `src/`.
Each subset lists the codepoints of its glyphs in local-id order; the code keeps a reverse map
from codepoint to local id beside it, which `findGlyph` recomputes. There is always a last
subset, which is the one that grows; the ones before it are `full`. -/
structure FontSubsetter where
  full : List (List Nat)
  last : List Nat
  deriving DecidableEq, Repr

/-- Modelled from the spec: a glyph record of a subset, `TTGlyphs`, declared in a header that is
not under `src/`. A `RegularGlyph` carries the codepoint it was requested for; the code under
`src/` tells the other alternatives only apart from it, so they are one constructor here. -/
inductive TTGlyphs where
  | regularGlyph (unicodeCodepoint : Nat)
  | other (glyph : Nat)
  deriving DecidableEq, Repr

structure FontSubsetInfo where
  subset : Nat
  offset : Nat
  deriving DecidableEq, Repr

namespace FontSubsetter

def maxGlyphs : Nat := 256

def init : FontSubsetter := ⟨[], []⟩

def subsets (ss : FontSubsetter) : List (List Nat) :=
  ss.full ++ [ss.last]

def numSubsets (ss : FontSubsetter) : Nat :=
  ss.full.length + 1

def getSubset (ss : FontSubsetter) (i : Nat) : List Nat :=
  ss.subsets.getD i []

def findGlyph (ss : FontSubsetter) (cp : Nat) : Option FontSubsetInfo :=
  go 0 ss.subsets
where
  go (i : Nat) : List (List Nat) → Option FontSubsetInfo
    | [] => none
    | s :: rest => match s.indexOf? cp with
      | some j => some ⟨i, j⟩
      | none => go (i + 1) rest

/-- Modelled from the spec: `get_glyph_subset`. An existing slot of `cp` in any subset is
returned; otherwise `cp` is appended to the last subset while it has room, and else to a new
subset. -/
def getGlyphSubset (ss : FontSubsetter) (cp : Nat) : FontSubsetInfo × FontSubsetter :=
  match ss.findGlyph cp with
  | some info => (info, ss)
  | none =>
    if ss.last.length < maxGlyphs then
      (⟨ss.full.length, ss.last.length⟩, { ss with last := ss.last ++ [cp] })
    else
      (⟨ss.full.length + 1, 0⟩, ⟨ss.full ++ [ss.last], [cp]⟩)

/-- Modelled from the spec: `unchecked_insert_glyph_to_last_subset`, which skips the lookup. -/
def uncheckedInsertGlyphToLastSubset (ss : FontSubsetter) (cp : Nat) : FontSubsetter :=
  { ss with last := ss.last ++ [cp] }

def Holds (ss : FontSubsetter) (cp : Nat) : Prop :=
  ∃ s ∈ ss.subsets, cp ∈ s

instance (ss : FontSubsetter) (cp : Nat) : Decidable (ss.Holds cp) :=
  inferInstanceAs (Decidable (∃ s ∈ ss.subsets, cp ∈ s))

end FontSubsetter

end CapyPdf
