import CapyPdf.Document.Init

namespace CapyPdf

namespace PdfDocument

variable (env : Env)

def addPattern (ctx : DrawContext) : DocM Nat := do
  Prog.reterrIf (ctx.doc ≠ (← get).addr) .incorrectDocumentForObject
  Prog.reterrIf (ctx.contextType ≠ .colorTiling) .invalidDrawContextType
  Prog.reterrIf (ctx.markedDepth ≠ 0) .unclosedMarkedContent
  let resources := env.buildResourceDict ctx
  let commands := ctx.commands
  let patternDict := "<<\n  /Type /Pattern\n  /PatternType 1\n  /PaintType 1\n  /TilingType 1\n" ++
    "  /BBox [ " ++ (0.0 : Float).toString ++ " " ++ (0.0 : Float).toString ++ " " ++
    ctx.getW.toString ++ " " ++ ctx.getH.toString ++ " ]\n  /XStep " ++ ctx.getW.toString ++
    "\n  /YStep " ++ ctx.getH.toString ++ "\n  /Resources " ++ resources ++ "\n  /Length " ++
    toString (textBytes commands).length ++ "\n>>\n"
  addObject (.fullPDFObject patternDict (textBytes commands))

def addTransparencyGroup (ctx : DrawContext) (ex : Option TransparencyGroupExtra) : DocM Nat := do
  Prog.reterrIf (ctx.contextType ≠ .transparencyGroup) .invalidDrawContextType
  Prog.reterrIf (ctx.markedDepth ≠ 0) .unclosedMarkedContent
  match env.serialize ctx ex with
  | .xobject dict commandStream =>
    let objid ← addObject (.fullPDFObject dict (textBytes commandStream))
    modify (·.pushTransparencyGroup objid)
    return (← get).transparencyGroups.length - 1
  | .basic .. => throw .badVariantAccess

end PdfDocument

end CapyPdf
