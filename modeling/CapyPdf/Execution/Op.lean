import CapyPdf.Document.Page
import CapyPdf.Document.Shading
import CapyPdf.Document.Resources
import CapyPdf.Document.Pattern
import CapyPdf.Document.Catalog

namespace CapyPdf

-- The public operations of a document, with their arguments.
inductive Op where
  | addPage (resourceDict unclosedObjectDict commandStream : String) (fws annots structs : List Int)
      (transition : Option Transition) (subnav : List SubPageNavigation)
  | addFormXobject (xobjDict xobjStream : String)
  | createSeparation (name : String) (fallback : DeviceCMYKColor)
  | addLabColorspace (lab : LabColorSpace)
  | loadIccFile (fname : String)
  | addImage (image : RasterImage) (isMask : Bool)
  | addMaskImage (image : RasterImage)
  | embedJpg (jpg : JpgImage) (interpolate : ImageInterpolation)
  | addGraphicsState (state : GraphicsState)
  | addFunction (func : FunctionType2)
  | addShading2 (shade : ShadingType2)
  | addShading3 (shade : ShadingType3)
  | addShading4 (shade : ShadingType4)
  | addShading6 (shade : ShadingType6)
  | addPattern (ctx : DrawContext)
  | addOutline (title : String) (dest : Int) (parent : Option Int)
  | createFormCheckbox (onstate offstate : Int) (partialName : String)
  | embedFile (fname : String)
  | createAnnotation (a : Annotation)
  | addStructureItem (stype : StructureItemType) (parent : Option Int)
  | addOptionalContentGroup (g : OptionalContentGroup)
  | addTransparencyGroup (ctx : DrawContext) (ex : Option TransparencyGroupExtra)
  | getBuiltinFontId (font : BuiltinFont)
  | loadFont (fname : String)
  | createCatalog
  | getSubsetGlyph (fid : Int) (glyph : Nat)
  | addRolemapEntry (name : String) (builtinType : Nat)

namespace Op

variable (env : Env)

-- The value is the object number the operation hands out, for the operations whose id is one.
def exec : Op → DocM (Option Nat)
  | .addPage rd ud cs fws annots structs tr subnav =>
    PdfDocument.addPage env rd ud cs fws annots structs tr subnav *> pure none
  | .addFormXobject dict stream => PdfDocument.addFormXobject dict stream *> pure none
  | .createSeparation name fallback => PdfDocument.createSeparation env name fallback *> pure none
  | .addLabColorspace lab => some <$> PdfDocument.addLabColorspace lab
  | .loadIccFile fname => PdfDocument.loadIccFile env fname *> pure none
  | .addImage image isMask => PdfDocument.addImage env image isMask *> pure none
  | .addMaskImage image => PdfDocument.addMaskImage env image *> pure none
  | .embedJpg jpg interpolate => PdfDocument.embedJpg jpg interpolate *> pure none
  | .addGraphicsState state => some <$> PdfDocument.addGraphicsState state
  | .addFunction func => some <$> PdfDocument.addFunction env func
  | .addShading2 shade => some <$> PdfDocument.addShading2 shade
  | .addShading3 shade => some <$> PdfDocument.addShading3 shade
  | .addShading4 shade => some <$> PdfDocument.addShading4 shade
  | .addShading6 shade => some <$> PdfDocument.addShading6 shade
  | .addPattern ctx => some <$> PdfDocument.addPattern env ctx
  | .addOutline title dest parent => PdfDocument.addOutline title dest parent *> pure none
  | .createFormCheckbox onstate offstate name =>
    PdfDocument.createFormCheckbox onstate offstate name *> pure none
  | .embedFile fname => PdfDocument.embedFile env fname *> pure none
  | createAnnotation a => PdfDocument.createAnnotation a *> pure none
  | .addStructureItem stype parent => PdfDocument.addStructureItem stype parent *> pure none
  | .addOptionalContentGroup g => PdfDocument.addOptionalContentGroup env g *> pure none
  | .addTransparencyGroup ctx ex => PdfDocument.addTransparencyGroup env ctx ex *> pure none
  | .getBuiltinFontId font => PdfDocument.getBuiltinFontId font *> pure none
  | .loadFont fname => PdfDocument.loadFont env fname *> pure none
  | .createCatalog => PdfDocument.createCatalog env *> pure none
  | .getSubsetGlyph fid glyph => PdfDocument.getSubsetGlyph env fid glyph *> pure none
  | .addRolemapEntry name builtinType => PdfDocument.addRolemapEntry name builtinType *> pure none

end Op

-- Collaborators that succeed and write the least text, to run the model on concrete documents.
def Env.minimal : Env where
  loadFile _ := .ok []
  getNumChannels _ := .ok 3
  flateCompress b := .ok b
  fmtDouble _ := "0"
  utf8ToPdfmetastr _ := "()"
  pdfstringQuote _ := "()"
  bytes2pdfstringliteral _ := "()"
  currentDateString := "(D:20000101000000Z)"
  versionStr := "0"
  serializeTrans _ _ := ""
  structureTypeNames _ := "P"
  buildResourceDict _ := "<< >>"
  serialize _ _ := .xobject "<< >>\n" ""
  loadAndParseTruetypeFont _ := .ok ()
  ftNewFaceFails _ := false
  ftGetFontFormat _ := some "TrueType"
  ftOpenTypeValidates _ := false
  fontSubsetterConstruct _ := .ok ()
  ftGetCharIndex _ _ := 1

inductive Reachable (env : Env) : PdfDocument → Prop
  | init {addr opts cm d} :
      (PdfDocument.init env).run (PdfDocument.new addr opts cm) = .ok () d → Reachable env d
  | step {d} (op : Op) : Reachable env d → Reachable env ((op.exec env).run d).state

end CapyPdf
