import CapyPdf.Document.Init

namespace CapyPdf

namespace FontSubsetter

def requestAll (cps : List Nat) : FontSubsetter :=
  cps.foldl (fun ss cp => (ss.getGlyphSubset cp).2) init

end FontSubsetter

namespace PdfDocument

-- none when the indices run out before the subset is full, which leaves padding_succeeded false.
def padLoop (subsetId : Nat) (ss : FontSubsetter) : List Nat → Option FontSubsetter
  | [] => none
  | i :: is =>
    if (ss.getSubset subsetId).length = 32 then some ss
    else padLoop subsetId (ss.getGlyphSubset (33 + i)).2 is

-- none stands for the std::abort and the failed asserts of pad_subset_fonts; its
-- assert(num_subsets() > 0) holds of every subsetter and is left out.
def padSubset (ss : FontSubsetter) : Option FontSubsetter := do
  let subsetId := ss.numSubsets - 1
  if (ss.getSubset subsetId).length > 32 then return ss
  let ss ← padLoop subsetId ss (List.range 100)
  let ss := ss.uncheckedInsertGlyphToLastSubset 32
  if (ss.getSubset subsetId).length = 33 then some ss else none

def padSubsetFonts : DocM Unit := do
  let fonts ← (← get).fonts.mapM fun sf =>
    Prog.someOrThrow ((padSubset sf.subsets).map fun ss => { sf with subsets := ss }) .abort
  modify (·.setFonts fonts)

def glfind (cp : Nat) : TTGlyphs → Bool
  | .regularGlyph u => u = cp
  | .other _ => false

-- none when the indices run out before there are 32 glyphs.
def padUntilSpaceLoop (subsetGlyphs : List TTGlyphs) : List Nat → Option (List TTGlyphs)
  | [] => none
  | i :: is =>
    if subsetGlyphs.length = 32 then some subsetGlyphs
    else if subsetGlyphs.any (glfind (33 + i)) then padUntilSpaceLoop subsetGlyphs is
    else padUntilSpaceLoop (subsetGlyphs ++ [.regularGlyph (33 + i)]) is

-- none stands for the std::abort and the failed assert of pad_subset_until_space.
def padSubsetUntilSpace (subsetGlyphs : List TTGlyphs) : Option (List TTGlyphs) := do
  if subsetGlyphs.length > 32 then return subsetGlyphs
  let subsetGlyphs ← padUntilSpaceLoop subsetGlyphs (List.range 100)
  let subsetGlyphs := subsetGlyphs ++ [.regularGlyph 32]
  if subsetGlyphs.length = 33 then some subsetGlyphs else none

end PdfDocument

end CapyPdf
