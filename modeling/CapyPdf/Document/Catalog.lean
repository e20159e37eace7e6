import CapyPdf.Document.Init

namespace CapyPdf

def zeroPad (w n : Nat) : String :=
  let s := toString n
  String.mk (List.replicate (w - s.length) '0') ++ s

def refText (n : Int) : String :=
  toString n ++ " 0 R"

theorem refText_natCast (n : Nat) : refText n = toString n ++ " 0 R" :=
  rfl

theorem refText_natCast_add (a b : Nat) : refText (a + b : Int) = toString (a + b) ++ " 0 R" := by
  rw [← Int.natCast_add]
  rfl

theorem refText_natCast_add_of_nonneg (a : Nat) {p : Int} (hp : 0 ≤ p) :
    refText (a + p) = toString (a + p.toNat) ++ " 0 R" := by
  rw [← refText_natCast_add, Int.toNat_of_nonneg hp]

namespace PdfDocument

variable (env : Env)

def createNameDict : DocM Nat := do
  let files := (← get).embeddedFiles
  Prog.assert (files.isEmpty = false)
  let buf := "<<\n/EmbeddedFiles <<\n  /Limits [ (embobj" ++ zeroPad 5 0 ++ ") (embojb" ++
    zeroPad 5 (files.length - 1) ++ ") ]\n  /Names [\n" ++
    String.join (files.enum.map fun (i, f) =>
      "    (embobj" ++ zeroPad 6 i ++ ") " ++ refText f.filespecObj ++ "\n") ++
    "  ]\n>>\n"
  addObject (.fullPDFObject buf [])

def parentTreeEntry (items : List StructItem) (i : Nat) (entry : List Int) : DocM String := do
  let refs ← entry.mapM fun sitem => do
    let item ← Prog.at! items sitem
    pure ("    " ++ refText item.objId ++ "\n")
  pure ("  " ++ toString i ++ " [\n" ++ String.join refs ++ "  ]\n")

def createStructureParentTree : DocM Nat := do
  let d ← get
  let entries ← d.structureParentTreeItems.enum.mapM fun (i, entry) =>
    parentTreeEntry d.structureItems i entry
  addObject (.fullPDFObject ("<< /Nums [\n" ++ String.join entries ++ "] >>\n") [])

def createStructureRootDict : DocM Unit := do
  let d ← get
  let parentTree ← Prog.someOrThrow d.structureParentTreeObject .abort
  let rootobj := d.structureItems.findIdx? (·.parent.isNone)
  Prog.assert rootobj.isSome
  let root := (d.structureItems.getD (rootobj.getD 0) ⟨0, .builtin 0, none⟩).objId
  let buf := "<<\n  /Type /StructTreeRoot\n  /K [ " ++ refText root ++ " ]\n  /ParentTree " ++
    refText parentTree ++ "\n  /ParentTreeNextKey " ++ toString d.structureParentTreeItems.length ++
    "\n" ++
    (if d.rolemap.isEmpty then "" else
      "  /RoleMap <<\n" ++
        String.join (d.rolemap.map fun i =>
          "    " ++ env.bytes2pdfstringliteral i.name ++ " /" ++ env.structureTypeNames i.builtin ++
            "\n") ++
        "  >>\n") ++
    ">>\n"
  let n ← addObject (.fullPDFObject buf [])
  modify (·.setStructureRootObject n)

def outlineItem (d : PdfDocument) (firstObjNum catalogObjNum : Nat) (curId : Nat) (cur : Outline) :
    DocM String := do
  let titlestr := env.utf8ToPdfmetastr cur.title
  let parentId ← Prog.someOrThrow (d.outlines.parent.find? curId) .outOfRange
  let siblings ← Prog.someOrThrow (d.outlines.children.find? parentId) .outOfRange
  let page ← Prog.at! d.pages cur.dest
  let neighbours ← (
    if siblings.length > 1 then do
      let loc := siblings.indexOf (curId : Int)
      Prog.assert (loc < siblings.length)
      pure ((if loc = 0 then "" else
          "  /Prev " ++ refText (firstObjNum + siblings.getD (loc - 1) 0) ++ "\n") ++
        (if loc + 1 < siblings.length then
          "  /Next " ++ refText (firstObjNum + siblings.getD (loc + 1) 0) ++ "\n" else ""))
    else
      pure "")
  let childLinks := match d.outlines.children.find? curId with
    | some children =>
      "  /First " ++ refText (firstObjNum + children.headD 0) ++ "\n" ++
        "  /Last " ++ refText (firstObjNum + children.getLastD 0) ++ "\n" ++
        "  /Count " ++ toString (-(children.length : Int)) ++ "\n"
    | none => ""
  pure ("<<\n  /Title " ++ titlestr ++ "\n  /Dest [ " ++ refText page.pageObjNum ++
    " /XYZ null null null]\n" ++ neighbours ++ childLinks ++ "  /Parent " ++
    refText (if parentId ≥ 0 then firstObjNum + parentId else catalogObjNum) ++ "\n>>")

def addOutlineItems (d : PdfDocument) (firstObjNum catalogObjNum : Nat) :
    Nat → List Outline → DocM Unit
  | _, [] => pure ()
  | curId, cur :: rest => do
    let oitem ← outlineItem env d firstObjNum catalogObjNum curId cur
    discard <| addObject (.fullPDFObject oitem [])
    addOutlineItems d firstObjNum catalogObjNum (curId + 1) rest

def createOutlines : DocM Nat := do
  let d ← get
  let firstObjNum := d.documentObjects.length
  let catalogObjNum := firstObjNum + d.outlines.items.length
  addOutlineItems env d firstObjNum catalogObjNum 0 d.outlines.items
  let topLevel ← Prog.someOrThrow (d.outlines.children.find? (-1)) .outOfRange
  let buf := "<<\n  /Type /Outlines\n  /First " ++ refText (firstObjNum + topLevel.headD 0) ++
    "\n  /Last " ++ refText (firstObjNum + topLevel.getLastD 0) ++ "\n  /Count " ++
    toString topLevel.length ++ "\n>>\n"
  Prog.assert (catalogObjNum = (← get).documentObjects.length)
  addObject (.fullPDFObject buf [])

def createCatalog : DocM Unit := do
  let d ← get
  let name ← (if d.embeddedFiles.isEmpty then pure "" else do
    let names ← createNameDict
    pure ("  /Names " ++ refText names ++ "\n"))
  let outline ← (if d.outlines.items.isEmpty then pure "" else do
    let outlines ← createOutlines env
    pure ("  /Outlines " ++ refText outlines ++ "\n"))
  let structureEntry ← (if d.structureItems.isEmpty then pure "" else do
    let treeid ← createStructureParentTree
    modify (·.setStructureParentTreeObject treeid)
    createStructureRootDict env
    pure ("  /StructTreeRoot " ++ refText ((← get).structureRootObject.getD 0) ++ "\n"))
  let d ← get
  let buf := "<<\n  /Type /Catalog\n  /Pages " ++ refText (d.pagesObject.getD 0) ++ "\n" ++ outline ++ name ++
    structureEntry ++
    (if d.opts.lang.isEmpty then "" else "  /Lang (" ++ d.opts.lang ++ ")\n") ++
    (if d.opts.isTagged then "  /MarkInfo << /Marked true >>\n" else "") ++
    (match d.outputIntentObject with
      | some oi => "  /OutputIntents [ " ++ refText oi ++ " ]\n"
      | none => "") ++
    (if d.formUse.isEmpty then "" else
      "  /AcroForm <<\n    /Fields [\n" ++
        String.join (d.formWidgets.map fun i => "      " ++ refText i ++ "\n") ++
        "      ]\n  >>\n" ++ "  /NeedAppearances true\n") ++
    (if d.ocgItems.isEmpty then "" else
      "  /OCProperties <<\n    /OCGs [\n" ++
        String.join (d.ocgItems.map fun o => "      " ++ refText o ++ "\n") ++
        "    ]\n" ++ "    /D << /BaseState /ON >>\n" ++ "  >>\n") ++
    ">>\n"
  discard <| addObject (.fullPDFObject buf [])

end PdfDocument

end CapyPdf
