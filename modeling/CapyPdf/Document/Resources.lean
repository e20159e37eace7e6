import CapyPdf.Document.Init

namespace CapyPdf

inductive ColorspaceType where
  | device (cs : Colorspace)
  | icc (id : Int)

def filename (fname : String) : String :=
  (fname.splitOn "/").getLastD ""

def interpolateEntry : ImageInterpolation → String
  | .pixelated => "  /Interpolate false\n"
  | .smooth => "  /Interpolate true\n"
  | .auto => ""

namespace PdfDocument

variable (env : Env)

def addFormXobject (xobjDict xobjStream : String) : DocM Unit := do
  let xobjNum ← addObject (.fullPDFObject xobjDict (textBytes xobjStream))
  modify (·.pushFormXobject xobjNum)

def addLabColorspace (lab : LabColorSpace) : DocM Nat := do
  let buf := "[ /Lab\n  <<\n    /WhitePoint [ " ++ lab.xw.toString ++ " " ++ lab.yw.toString ++ " " ++
    lab.zw.toString ++ " ]\n    /Range [ " ++ lab.amin.toString ++ " " ++ lab.amax.toString ++ " " ++
    lab.bmin.toString ++ " " ++ lab.bmax.toString ++ " ]\n  >>\n]\n"
  discard <| addObject (.fullPDFObject buf [])
  return (← get).documentObjects.length - 1

def loadIccFile (fname : String) : DocM Int := do
  let contents ← Prog.lift (env.loadFile fname)
  if let some iccid := ← findIccProfile contents then
    return iccid
  let numChannels ← Prog.lift (env.getNumChannels contents)
  storeIccProfile contents numChannels

def getBuiltinFontId (font : BuiltinFont) : DocM Nat := do
  if let some fid := (← get).builtinFonts.find? font then
    return fid
  let fontDict := "<<\n  /Type /Font\n  /Subtype /Type1\n  /BaseFont /" ++ fontNames font ++ "\n>>\n"
  let fontObj ← addObject (.fullPDFObject fontDict [])
  modify (·.pushFontObject ⟨-1, -1, fontObj, -1⟩)
  let fontid := (← get).fontObjects.length - 1
  modify (·.insertBuiltinFont font fontid)
  return fontid

def getSubsetGlyph (fid : Int) (glyph : Nat) : DocM FontSubsetInfo := do
  let font ← Prog.at! (← get).fonts fid
  Prog.reterrIf (env.ftGetCharIndex font.ttf glyph = 0) .missingGlyph
  let (info, subsets) := font.subsets.getGlyphSubset glyph
  modify fun d => d.setFonts (d.fonts.set fid.toNat { font with subsets := subsets })
  return info

def addImageObject (w h bitsPerComponent : Int) (interpolate : ImageInterpolation)
    (colorspace : ColorspaceType) (smaskId : Option Nat) (isMask : Bool) (uncompressedBytes : Bytes) :
    DocM Nat := do
  let compressed ← Prog.lift (env.flateCompress uncompressedBytes)
  let colorEntry ← (
    if isMask then
      pure "  /ImageMask true\n"
    else
      match colorspace with
      | .device cs => pure ("  /ColorSpace " ++ colorspaceNames cs ++ "\n")
      | .icc id => do
        let icc ← Prog.at! (← get).iccProfiles id
        pure ("  /ColorSpace " ++ toString icc.objectNum ++ " 0 R\n"))
  let buf := "<<\n  /Type /XObject\n  /Subtype /Image\n  /Width " ++ toString w ++ "\n  /Height " ++
    toString h ++ "\n  /BitsPerComponent " ++ toString bitsPerComponent ++ "\n  /Length " ++
    toString compressed.length ++ "\n  /Filter /FlateDecode\n" ++ interpolateEntry interpolate ++
    colorEntry ++
    (match smaskId with
      | some smask => "  /SMask " ++ toString smask ++ " 0 R\n"
      | none => "") ++
    ">>\n"
  let imId ← addObject (.fullPDFObject buf compressed)
  modify (·.pushImageInfo ⟨w, h, imId⟩)
  return (← get).imageInfo.length - 1

def addMaskImage (image : RasterImage) : DocM Nat := do
  Prog.reterrIf (image.md.cs ≠ .deviceGray ∨ image.md.pixelDepth ≠ 1) .unsupportedFormat
  addImageObject env image.md.w image.md.h image.md.pixelDepth image.md.interp (.device image.md.cs)
    none true image.pixels

-- The `assert(image.md.cs != CAPY_CS_DEVICE_GRAY)` of the last three branches cannot fail: gray
-- images have returned before them.
def addImage (image : RasterImage) (isMask : Bool) : DocM Nat := do
  Prog.reterrIf (image.md.w ≤ 0 ∨ image.md.h ≤ 0) .invalidImageSize
  Prog.reterrIf image.pixels.isEmpty .missingPixels
  Prog.reterrIf (isMask ∧ !image.alpha.isEmpty) .maskAndAlpha
  let smaskId ← (
    if !image.alpha.isEmpty then do
      let imobj ← addImageObject env image.md.w image.md.h image.md.alphaDepth image.md.interp
        (.device .deviceGray) none false image.alpha
      let info ← Prog.at! (← get).imageInfo imobj
      pure (some info.obj)
    else
      pure none)
  let addImage' (cs : ColorspaceType) :=
    addImageObject env image.md.w image.md.h image.md.pixelDepth image.md.interp cs smaskId isMask
      image.pixels
  if !image.iccProfile.isEmpty then
    let iccId ← storeIccProfile image.iccProfile (numChannelsFor image.md.cs)
    return ← addImage' (.icc iccId)
  if image.md.cs = .deviceGray then
    return ← addImage' (.device image.md.cs)
  match (← get).opts.outputColorspace with
  | .deviceRGB => addImage' (.device image.md.cs)
  | .deviceGray => addImage' (.device image.md.cs)
  | .deviceCMYK =>
    Prog.reterrIf (← get).cm.cmyk.isEmpty .noCmykProfile
    Prog.reterrIf (image.md.cs ≠ .deviceCMYK) .unsupportedFormat
    addImage' (.device image.md.cs)

def embedJpg (jpg : JpgImage) (interpolate : ImageInterpolation) : DocM Nat := do
  let buf := "<<\n  /Type /XObject\n  /Subtype /Image\n  /ColorSpace /DeviceRGB\n  /Width " ++
    toString jpg.w ++ "\n  /Height " ++ toString jpg.h ++ "\n  /BitsPerComponent 8\n  /Length " ++
    toString jpg.fileContents.length ++ "\n  /Filter /DCTDecode\n>>\n" ++ interpolateEntry interpolate
  let imId ← addObject (.fullPDFObject buf jpg.fileContents)
  modify (·.pushImageInfo ⟨jpg.w, jpg.h, imId⟩)
  return (← get).imageInfo.length - 1

def gsEntry {α : Type} (key : String) (v : Option α) (fmt : α → String) : String :=
  match v with
  | some a => "  /" ++ key ++ " " ++ fmt a ++ "\n"
  | none => ""

def graphicsStateDict (state : GraphicsState) : String :=
  "<<\n  /Type /ExtGState\n" ++ gsEntry "LW" state.LW Float.toString ++
    gsEntry "LC" state.LC (toString ·.toInt) ++ gsEntry "LJ" state.LJ (toString ·.toInt) ++
    gsEntry "ML" state.ML Float.toString ++
    gsEntry "RenderingIntent" state.RI (("/" ++ renderingIntentNames ·)) ++
    gsEntry "OP" state.OP boolName ++ gsEntry "op" state.op boolName ++
    gsEntry "OPM" state.OPM toString ++ gsEntry "FL" state.FL Float.toString ++
    gsEntry "SM" state.SM Float.toString ++ gsEntry "BM" state.BM (("/" ++ blendModeNames ·)) ++
    gsEntry "CA" state.CA Float.toString ++ gsEntry "ca" state.ca Float.toString ++
    gsEntry "AIS" state.AIS boolName ++ gsEntry "TK" state.TK boolName ++ ">>\n"

def addGraphicsState (state : GraphicsState) : DocM Nat := do
  let id := (← get).documentObjects.length
  discard <| addObject (.fullPDFObject (graphicsStateDict state) [])
  return id

def addOutline (titleUtf8 : String) (dest : Int) (parent : Option Int) : DocM Nat := do
  let curId := (← get).outlines.items.length
  let parId := parent.getD (-1)
  modify fun d => d.setOutlines
    { parent := d.outlines.parent.insert curId parId
      children := d.outlines.children.insert parId
        (((d.outlines.children.find? parId).getD []) ++ [(curId : Int)])
      items := d.outlines.items ++ [⟨titleUtf8, dest, parent⟩] }
  return curId

def createFormCheckbox (onstate offstate : Int) (partialName : String) : DocM Nat := do
  Prog.checkIndexness onstate (← get).formXobjects.length
  Prog.checkIndexness offstate (← get).formXobjects.length
  let formobj : DelayedCheckboxWidgetAnnotation :=
    ⟨(← get).formWidgets.length, onstate, offstate, partialName⟩
  let objId ← addObject <| ObjectType.delayedCheckboxWidgetAnnotation formobj
  modify (·.pushFormWidget objId)
  return (← get).formWidgets.length - 1

def embedFile (fname : String) : DocM Nat := do
  let contents ← Prog.lift (env.loadFile fname)
  let dict := "<<\n  /Type /EmbeddedFile\n  /Length " ++ toString contents.length ++ "\n>>"
  let fileobjId ← addObject (.fullPDFObject dict contents)
  let dict := "<<\n  /Type /Filespec\n  /F " ++ env.pdfstringQuote (filename fname) ++ "\n  /EF << /F " ++
    toString fileobjId ++ " 0 R >>\n>>\n"
  let filespecId ← addObject (.fullPDFObject dict [])
  modify (·.pushEmbeddedFile ⟨filespecId, fileobjId⟩)
  return (← get).embeddedFiles.length - 1

def createAnnotation (a : Annotation) : DocM Nat := do
  Prog.reterrIf a.rect.isNone .annotationMissingRect
  let annotId := (← get).annotations.length
  let objId ← addObject <| ObjectType.delayedAnnotation annotId a
  modify (·.pushAnnot objId)
  return annotId

def addStructureItem (stype : StructureItemType) (parent : Option Int) : DocM Nat := do
  let size := (← get).structureItems.length
  parent.forM (Prog.checkIndexness · size)
  let stritemId := (← get).structureItems.length
  let objId ← addObject (.delayedStructItem stritemId)
  modify (·.pushStructureItem ⟨objId, stype, parent⟩)
  return (← get).structureItems.length - 1

def addOptionalContentGroup (g : OptionalContentGroup) : DocM Nat := do
  let id ← addObject (.fullPDFObject ("<<\n  /Type /OCG\n  /Name " ++ env.pdfstringQuote g.name ++
    "\n>>\n") [])
  modify (·.pushOcgItem id)
  return (← get).ocgItems.length - 1

def addRolemapEntry (name : String) (builtinType : Nat) : DocM Nat := do
  Prog.reterrIf (name.isEmpty ∨ name.front = '/') .slashStart
  Prog.reterrIf ((← get).rolemap.any (·.name = name)) .roleAlreadyDefined
  modify (·.pushRolemapEntry ⟨name, builtinType⟩)
  return (← get).rolemap.length - 1

def loadFont (fname : String) : DocM Nat := do
  Prog.lift (env.loadAndParseTruetypeFont fname)
  Prog.reterrIf (env.ftNewFaceFails fname) .freeTypeError
  let fontFormat ← Prog.someOr (env.ftGetFontFormat fname) .unsupportedFormat
  Prog.reterrIf (fontFormat ≠ "TrueType") .unsupportedFormat
  Prog.reterrIf (env.ftOpenTypeValidates fname) .unsupportedFormat
  let fontSourceId := (← get).fonts.length
  Prog.lift (env.fontSubsetterConstruct fname)
  modify fun d => d.setFonts (d.fonts ++ [⟨fname, .init⟩])
  let subfontDataObj ← addObject (.delayedSubsetFontData fontSourceId 0)
  let subfontDescriptorObj ← addObject (.delayedSubsetFontDescriptor fontSourceId subfontDataObj 0)
  let subfontCmapObj ← addObject (.delayedSubsetCMap fontSourceId 0)
  let subfontObj ← addObject (.delayedSubsetFont fontSourceId subfontDescriptorObj subfontCmapObj)
  let fid := (← get).fonts.length - 1
  modify fun d =>
    d.pushFontObject ⟨subfontDataObj, subfontDescriptorObj, subfontObj, (d.fonts.length - 1 : Nat)⟩
  return fid

end PdfDocument

end CapyPdf
