import CapyPdf.Basic.UMap
import CapyPdf.Objects.Subsetter
import CapyPdf.DrawContext.Basic
import Mathlib.Tactic.Simps.Basic

namespace CapyPdf

-- The custom page properties and the checkbox's location are only copied into the delayed
-- objects and read when the file is written, which is not under `src/`; they are left out.
structure DelayedPage where
  pageNum : Nat
  usedFormWidgets : List Int
  usedAnnotations : List Int
  transition : Option Transition
  subnavRoot : Option Nat
  structparents : Option Nat

structure DelayedCheckboxWidgetAnnotation where
  widget : Nat
  onstate : Int
  offstate : Int
  partialName : String

inductive ObjectType where
  | dummyIndexZero
  | fullPDFObject (dictionary : String) (stream : Bytes)
  | deflatePDFObject (unclosedDictionary : String) (stream : Bytes)
  | delayedPages
  | delayedPage (p : DelayedPage)
  | delayedSubsetFontData (fid : Nat) (subsetId : Nat)
  | delayedSubsetFontDescriptor (fid : Nat) (subfontDataObj : Nat) (subsetNum : Nat)
  | delayedSubsetCMap (fid : Nat) (subsetId : Nat)
  | delayedSubsetFont (fid : Nat) (subfontDescriptorObj : Nat) (subfontCmapObj : Nat)
  | delayedAnnotation (id : Nat) (a : Annotation)
  | delayedCheckboxWidgetAnnotation (w : DelayedCheckboxWidgetAnnotation)
  | delayedStructItem (sid : Nat)

structure PageOffsets where
  resourceObjNum : Nat
  commandObjNum : Nat
  pageObjNum : Nat

structure StructureUsage where
  pageNum : Nat
  mcidNum : Nat

structure StructItem where
  objId : Nat
  stype : StructureItemType
  parent : Option Int

structure IccInfo where
  streamNum : Nat
  objectNum : Nat
  numChannels : Nat

structure ImageInfo where
  w : Int
  h : Int
  obj : Nat

-- font_file_obj, font_descriptor_obj and font_index_tmp are -1 for builtin fonts.
structure FontInfo where
  fontFileObj : Int
  fontDescriptorObj : Int
  fontObj : Nat
  fontIndexTmp : Int

structure FontThingy where
  ttf : String
  subsets : FontSubsetter

structure EmbeddedFileObject where
  filespecObj : Nat
  contentsObj : Nat

structure RolemapEntry where
  name : String
  builtin : Nat

structure Outlines where
  items : List Outline
  parent : UMap Int Int
  children : UMap Int (List Int)

inductive BuiltinFont where
  | timesRoman | helvetica | courier | symbol | timesRomanBold | helveticaBold | courierBold
  | zapfDingbats | timesItalic | helveticaOblique | courierOblique | timesBoldItalic
  | helveticaBoldOblique | courierBoldOblique
  deriving DecidableEq, Repr

def fontNames : BuiltinFont → String
  | .timesRoman => "Times-Roman"
  | .helvetica => "Helvetica"
  | .courier => "Courier"
  | .symbol => "Symbol"
  | .timesRomanBold => "Times-Roman-Bold"
  | .helveticaBold => "Helvetica-Bold"
  | .courierBold => "Courier-Bold"
  | .zapfDingbats => "ZapfDingbats"
  | .timesItalic => "Times-Italic"
  | .helveticaOblique => "Helvetica-Oblique"
  | .courierOblique => "Courier-Oblique"
  | .timesBoldItalic => "Times-BoldItalic"
  | .helveticaBoldOblique => "Helvetica-BoldOblique"
  | .courierBoldOblique => "Courier-BoldOblique"

-- Object numbers are `int32_t` casts of `document_objects.size()`; they are `Nat`s here, since
-- wrapping would take more than 2^31 objects in memory. Ids that callers pass in are `Int`s.
structure PdfDocument where
  addr : Nat
  opts : PdfGenerationData
  cm : PdfColorConverter
  documentObjects : List ObjectType
  pages : List PageOffsets
  formUse : UMap Int Nat
  annotationUse : UMap Int Nat
  structureUse : UMap Int StructureUsage
  structureParentTreeItems : List (List Int)
  structureItems : List StructItem
  separationObjects : List Nat
  iccProfiles : List IccInfo
  imageInfo : List ImageInfo
  formXobjects : List Nat
  fonts : List FontThingy
  fontObjects : List FontInfo
  builtinFonts : UMap BuiltinFont Nat
  outlines : Outlines
  formWidgets : List Nat
  annotations : List Nat
  embeddedFiles : List EmbeddedFileObject
  ocgItems : List Nat
  transparencyGroups : List Nat
  rolemap : List RolemapEntry
  -- Set by `init`; `none` stands for the member before `init` assigns it.
  pagesObject : Option Nat
  pageGroupObject : Option Nat
  outputProfile : Option Int
  outputIntentObject : Option Nat
  structureParentTreeObject : Option Nat
  structureRootObject : Option Nat

def PdfDocument.new (addr : Nat) (opts : PdfGenerationData) (cm : PdfColorConverter) :
    PdfDocument where
  addr := addr
  opts := opts
  cm := cm
  documentObjects := []
  pages := []
  formUse := .empty
  annotationUse := .empty
  structureUse := .empty
  structureParentTreeItems := []
  structureItems := []
  separationObjects := []
  iccProfiles := []
  imageInfo := []
  formXobjects := []
  fonts := []
  fontObjects := []
  builtinFonts := .empty
  outlines := ⟨[], .empty, .empty⟩
  formWidgets := []
  annotations := []
  embeddedFiles := []
  ocgItems := []
  transparencyGroups := []
  rolemap := []
  pagesObject := none
  pageGroupObject := none
  outputProfile := none
  outputIntentObject := none
  structureParentTreeObject := none
  structureRootObject := none

namespace PdfDocument

-- The updates the operations make to a document, one per member they change.

@[simps] def pushObject (d : PdfDocument) (o : ObjectType) : PdfDocument :=
  { d with documentObjects := d.documentObjects ++ [o] }

@[simps] def registerPage (d : PdfDocument) (fws annots structs : List Int) (po : PageOffsets) :
    PdfDocument :=
  { d with
    formUse := d.formUse.insertAll (fws.map fun fw => (fw, po.pageObjNum))
    annotationUse := d.annotationUse.insertAll (annots.map fun a => (a, po.pageObjNum))
    structureUse := d.structureUse.insertAll (structs.enum.map fun (m, s) => (s, ⟨d.pages.length, m⟩))
    pages := d.pages ++ [po] }

@[simps] def pushStructureParentTreeItems (d : PdfDocument) (structs : List Int) : PdfDocument :=
  { d with structureParentTreeItems := d.structureParentTreeItems ++ [structs] }

@[simps] def pushStructureItem (d : PdfDocument) (s : StructItem) : PdfDocument :=
  { d with structureItems := d.structureItems ++ [s] }

@[simps] def pushSeparationObject (d : PdfDocument) (n : Nat) : PdfDocument :=
  { d with separationObjects := d.separationObjects ++ [n] }

@[simps] def pushIccProfile (d : PdfDocument) (info : IccInfo) : PdfDocument :=
  { d with iccProfiles := d.iccProfiles ++ [info] }

@[simps] def pushImageInfo (d : PdfDocument) (info : ImageInfo) : PdfDocument :=
  { d with imageInfo := d.imageInfo ++ [info] }

@[simps] def pushFormXobject (d : PdfDocument) (n : Nat) : PdfDocument :=
  { d with formXobjects := d.formXobjects ++ [n] }

@[simps] def setFonts (d : PdfDocument) (fonts : List FontThingy) : PdfDocument :=
  { d with fonts := fonts }

@[simps] def pushFontObject (d : PdfDocument) (info : FontInfo) : PdfDocument :=
  { d with fontObjects := d.fontObjects ++ [info] }

@[simps] def insertBuiltinFont (d : PdfDocument) (font : BuiltinFont) (fid : Nat) : PdfDocument :=
  { d with builtinFonts := d.builtinFonts.insert font fid }

@[simps] def setOutlines (d : PdfDocument) (outlines : Outlines) : PdfDocument :=
  { d with outlines := outlines }

@[simps] def pushFormWidget (d : PdfDocument) (n : Nat) : PdfDocument :=
  { d with formWidgets := d.formWidgets ++ [n] }

@[simps] def pushAnnot (d : PdfDocument) (n : Nat) : PdfDocument :=
  { d with annotations := d.annotations ++ [n] }

@[simps] def pushEmbeddedFile (d : PdfDocument) (f : EmbeddedFileObject) : PdfDocument :=
  { d with embeddedFiles := d.embeddedFiles ++ [f] }

@[simps] def pushOcgItem (d : PdfDocument) (n : Nat) : PdfDocument :=
  { d with ocgItems := d.ocgItems ++ [n] }

@[simps] def pushTransparencyGroup (d : PdfDocument) (n : Nat) : PdfDocument :=
  { d with transparencyGroups := d.transparencyGroups ++ [n] }

@[simps] def pushRolemapEntry (d : PdfDocument) (e : RolemapEntry) : PdfDocument :=
  { d with rolemap := d.rolemap ++ [e] }

@[simps] def setPagesObject (d : PdfDocument) (n : Nat) : PdfDocument :=
  { d with pagesObject := some n }

@[simps] def setPageGroupObject (d : PdfDocument) (n : Nat) : PdfDocument :=
  { d with pageGroupObject := some n }

@[simps] def setOutputProfile (d : PdfDocument) (id : Int) : PdfDocument :=
  { d with outputProfile := some id }

@[simps] def setOutputIntentObject (d : PdfDocument) (n : Nat) : PdfDocument :=
  { d with outputIntentObject := some n }

@[simps] def setStructureParentTreeObject (d : PdfDocument) (n : Nat) : PdfDocument :=
  { d with structureParentTreeObject := some n }

@[simps] def setStructureRootObject (d : PdfDocument) (n : Nat) : PdfDocument :=
  { d with structureRootObject := some n }

end PdfDocument

inductive DCSerialization where
  | basic (resourceDict unclosedObjectDict commandStream : String)
  | xobject (dict commandStream : String)

-- The collaborators the spec places outside the core (file I/O, deflate, the ICC module,
-- FreeType and the TrueType parser, the clock, fmt's shortest rendering of a `double`) and the
-- helpers of this repository whose bodies are not under `src/`. Every result about the
-- document holds for all of them.
structure Env where
  loadFile : String → Except ErrorCode Bytes
  getNumChannels : Bytes → Except ErrorCode Nat
  flateCompress : Bytes → Except ErrorCode Bytes
  fmtDouble : Float → String
  utf8ToPdfmetastr : String → String
  pdfstringQuote : String → String
  bytes2pdfstringliteral : String → String
  currentDateString : String
  versionStr : String
  serializeTrans : Transition → String → String
  structureTypeNames : Nat → String
  buildResourceDict : DrawContext → String
  serialize : DrawContext → Option TransparencyGroupExtra → DCSerialization
  loadAndParseTruetypeFont : String → Except ErrorCode Unit
  ftNewFaceFails : String → Bool
  ftGetFontFormat : String → Option String
  ftOpenTypeValidates : String → Bool
  fontSubsetterConstruct : String → Except ErrorCode Unit
  ftGetCharIndex : String → Nat → Nat

abbrev DocM := Prog PdfDocument

end CapyPdf
