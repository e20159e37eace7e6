import CapyPdf.Document.Init

namespace CapyPdf

namespace PdfDocument

variable (env : Env)

/-- Modelled from the spec: `ocg_object_number` is declared outside `src/`; it gives the object
of an optional content group, read here from `ocg_items` with a bounds-checked lookup. -/
def ocgObjectNumber (id : Int) : DocM Nat := do
  Prog.at! (← get).ocgItems id

def ocgRefLines (ocgs : List Nat) : String :=
  String.join (ocgs.map fun o => "      " ++ toString o ++ " 0 R\n")

def navRootText (ocgs : List Nat) (rootObj n : Nat) : String :=
  "<<\n  /Type /NavNode\n  /NA <<\n    /S /SetOCGState\n    /State [ /OFF\n" ++ ocgRefLines ocgs ++
    "    ]\n  >>\n" ++ "  /Next " ++ toString (rootObj + 1) ++ " 0 R\n" ++
    "  /PA <<\n    /S /SetOCGState\n    /State [ /ON\n" ++ ocgRefLines ocgs ++ "    ]\n  >>\n" ++
    "  /Prev " ++ toString (rootObj + 1 + n) ++ " 0 R\n>>\n"

def navNodeText (firstObj : Nat) (ocgs : List Nat) (i : Nat) (tr : Option Transition) : String :=
  "<<\n  /Type /NavNode\n" ++ "  /NA  <<\n" ++
    "    /S /SetOCGState\n    /State [ /ON " ++ toString (ocgs.getD i 0) ++ " 0 R ]\n" ++
    (match tr with
      | some tr => "    /Next <<\n      /S /Trans\n" ++ env.serializeTrans tr "      " ++ "    >>\n"
      | none => "") ++
    "  >>\n" ++ "  /Next " ++ toString (firstObj + i + 1) ++ " 0 R\n" ++
    (if i > 0 then
      "  /PA <<\n    /S /SetOCGState\n    /State [ /OFF " ++ toString (ocgs.getD (i - 1) 0) ++
        " 0 R ]\n  >>\n" ++ "  /Prev " ++ toString (firstObj + i - 1) ++ " 0 R\n"
    else "") ++
    ">>\n"

def navLastText (lastOcg firstObj n : Nat) : String :=
  "<<\n  /Type /NavNode\n  /PA <<\n    /S /SetOCGState\n    /State [ /OFF " ++ toString lastOcg ++
    " 0 R ]\n  >>\n  /Prev " ++ toString (firstObj + n - 1) ++ " 0 R\n>>\n"

def addNavNodes (firstObj : Nat) (ocgs : List Nat) : Nat → List SubPageNavigation → DocM Unit
  | _, [] => pure ()
  | i, sn :: rest => do
    discard <| addObject (.fullPDFObject (navNodeText env firstObj ocgs i sn.tr) [])
    addNavNodes firstObj ocgs (i + 1) rest

-- Every loop of the source looks up the same OCG objects, and the lookups only read the
-- document, so they are made once, where the first loop makes them.
def createSubnavigation (subnav : List SubPageNavigation) : DocM Nat := do
  Prog.assert (subnav.isEmpty = false)
  let rootObj := (← get).documentObjects.length
  let ocgs ← subnav.mapM fun sn => ocgObjectNumber sn.id
  discard <| addObject (.fullPDFObject (navRootText ocgs rootObj subnav.length) [])
  let firstObj := (← get).documentObjects.length
  addNavNodes env firstObj ocgs 0 subnav
  discard <| addObject (.fullPDFObject (navLastText (ocgs.getLastD 0) firstObj subnav.length) [])
  return rootObj

-- `fws` and `annots` are `std::unordered_set`s, in the order they are iterated in. The
-- conditional steps are parenthesised so that each is one step of the sequence, as in the source.
def addPage (resourceDict unclosedObjectDict commandStream : String) (fws annots structs : List Int)
    (transition : Option Transition) (subnav : List SubPageNavigation) : DocM Unit := do
  let d ← get
  Prog.reterrIf (fws.any d.formUse.contains) .annotationReuse
  Prog.reterrIf (annots.any d.annotationUse.contains) .annotationReuse
  Prog.reterrIf (structs.any d.structureUse.contains) .structureReuse
  let resourceNum ← addObject (.fullPDFObject resourceDict [])
  let commandsNum ← (
    if d.opts.compressStreams then
      addObject (.deflatePDFObject unclosedObjectDict (textBytes commandStream))
    else
      addObject (.fullPDFObject (unclosedObjectDict ++ "  /Length " ++
        toString (textBytes commandStream).length ++ "\n>>\n") (textBytes commandStream)))
  let subnavRoot ← (if subnav.isEmpty then pure none else some <$> createSubnavigation env subnav)
  let structparents ← (
    if structs.isEmpty then
      pure none
    else do
      let k := (← get).structureParentTreeItems.length
      modify (·.pushStructureParentTreeItems structs)
      pure (some k))
  let p : DelayedPage := ⟨d.pages.length, fws, annots, transition, subnavRoot, structparents⟩
  let pageObjectNum ← addObject (.delayedPage p)
  modify (·.registerPage fws annots structs ⟨resourceNum, commandsNum, pageObjectNum⟩)

end PdfDocument

end CapyPdf
