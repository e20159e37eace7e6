import CapyPdf.Objects.Document

namespace CapyPdf

def textBytes (s : String) : Bytes :=
  s.toUTF8.toList

def boolName (b : Bool) : String :=
  if b then "true" else "false"

namespace PdfDocument

variable (env : Env)

def addObject (object : ObjectType) : DocM Nat :=
  modifyGet fun d => (d.documentObjects.length, d.pushObject object)

def findIccProfile (contents : Bytes) : DocM (Option Nat) := do
  let d ← get
  go d 0 d.iccProfiles
where
  go (d : PdfDocument) (i : Nat) : List IccInfo → DocM (Option Nat)
    | [] => pure none
    | info :: rest => do
      let streamObj ← Prog.at! d.documentObjects info.streamNum
      match streamObj with
      | .deflatePDFObject _ stream => if stream = contents then pure (some i) else go d (i + 1) rest
      | _ => throw .abort

def storeIccProfile (contents : Bytes) (numChannels : Nat) : DocM Int := do
  let existing ← findIccProfile contents
  Prog.assert (existing = none)
  if contents.isEmpty then
    return -1
  let buf := "<<\n  /N " ++ toString numChannels ++ "\n"
  let streamObjId ← addObject (.deflatePDFObject buf contents)
  let objId ← addObject (.fullPDFObject ("[ /ICCBased " ++ toString streamObjId ++ " 0 R ]\n") [])
  modify (·.pushIccProfile ⟨streamObjId, objId, numChannels⟩)
  return (← get).iccProfiles.length - 1

def createSeparation (name : String) (fallback : DeviceCMYKColor) : DocM Int := do
  let stream := "\x7b dup " ++ env.fmtDouble fallback.c ++ " mul\nexch " ++ env.fmtDouble fallback.m ++
    " exch dup " ++ env.fmtDouble fallback.y ++ " mul\nexch " ++ env.fmtDouble fallback.k ++
    " mul\n\x7d\n"
  let buf := "<<\n  /FunctionType 4\n  /Domain [ 0.0 1.0 ]\n" ++
    "  /Range [ 0.0 1.0 0.0 1.0 0.0 1.0 0.0 1.0 ]\n  /Length " ++
    toString (textBytes stream).length ++ "\n>>\n"
  let fnNum ← addObject (.fullPDFObject buf (textBytes stream))
  let buf := "[\n  /Separation\n    /" ++ name ++ "\n    /DeviceCMYK\n    " ++ toString fnNum ++
    " 0 R\n]\n"
  let sepNum ← addObject (.fullPDFObject buf [])
  modify (·.pushSeparationObject sepNum)
  return (← get).separationObjects.length - 1

def infoEntry (key value : String) : String :=
  if value.isEmpty then "" else "  /" ++ key ++ " " ++ env.utf8ToPdfmetastr value ++ "\n"

def infoDictionary (opts : PdfGenerationData) : String :=
  "<<\n" ++ infoEntry env "Title" opts.title ++ infoEntry env "Author" opts.author ++
    infoEntry env "Creator" opts.creator ++ "  /Producer (CapyPDF " ++ env.versionStr ++ ")\n" ++
    "  /CreationDate " ++ env.currentDateString ++ "\n" ++
    "  /ModDate " ++ env.currentDateString ++ "\n" ++ "  /Trapped /False\n" ++
    (if opts.subtype.getD .pdfa = .pdfx then "  /GTS_PDFXVersion (PDF/X-3:2003)\n" else "") ++
    ">>\n"

def generateInfoObject : DocM Unit := do
  discard <| addObject (.fullPDFObject (infoDictionary env (← get).opts) [])

def createPageGroup : DocM Nat := do
  let buf := "<<\n  /S /Transparency\n  /CS " ++ colorspaceNames (← get).opts.outputColorspace ++
    "\n>>\n"
  addObject (.fullPDFObject buf [])

def createOutputIntent : DocM Unit := do
  let d ← get
  Prog.assert (d.outputProfile.isSome)
  Prog.assert (d.opts.subtype.isSome)
  let profile ← Prog.at! d.iccProfiles (d.outputProfile.getD 0)
  let buf := "<<\n  /Type /OutputIntent\n  /S " ++ intentnames (d.opts.subtype.getD .pdfx) ++
    "\n  /OutputConditionIdentifier " ++ env.pdfstringQuote d.opts.intentConditionIdentifier ++
    "\n  /DestOutputProfile " ++ toString profile.streamNum ++ " 0 R\n>>\n"
  let n ← addObject (.fullPDFObject buf [])
  modify (·.setOutputIntentObject n)

def storeOutputProfile (profile : Bytes) (numChannels : Nat) : DocM Unit := do
  let id ← storeIccProfile profile numChannels
  modify (·.setOutputProfile id)

def initOutputProfile (cs : Colorspace) (cm : PdfColorConverter) : DocM Unit :=
  match cs with
  | .deviceRGB => if cm.rgb.isEmpty then pure () else storeOutputProfile cm.rgb 3
  | .deviceGray => if cm.gray.isEmpty then pure () else storeOutputProfile cm.gray 1
  | .deviceCMYK => Prog.reterrIf cm.cmyk.isEmpty .outputProfileMissing *> storeOutputProfile cm.cmyk 4

def initOutputIntent (opts : PdfGenerationData) : DocM Unit :=
  if opts.subtype.isNone then pure () else do
    Prog.reterrIf (← get).outputProfile.isNone .outputProfileMissing
    Prog.reterrIf opts.intentConditionIdentifier.isEmpty .missingIntentIdentifier
    createOutputIntent env

def initSeparation (cs : Colorspace) : DocM Unit :=
  if cs = .deviceCMYK then discard <| createSeparation env "All" ⟨1.0, 1.0, 1.0, 1.0⟩ else pure ()

def init : DocM Unit := do
  -- PDF uses 1-based indexing, so a dummy object makes PDF and list indices the same.
  discard <| addObject .dummyIndexZero
  generateInfoObject env
  let d ← get
  initSeparation env d.opts.outputColorspace
  initOutputProfile d.opts.outputColorspace d.cm
  let pageGroup ← createPageGroup
  modify (·.setPageGroupObject pageGroup)
  let pagesObject ← addObject .delayedPages
  modify (·.setPagesObject pagesObject)
  initOutputIntent env d.opts

def construct (addr : Nat) (opts : PdfGenerationData) (cm : PdfColorConverter) :
    Except Fault PdfDocument :=
  match (init env).run (PdfDocument.new addr opts cm) with
  | .ok () d => .ok d
  | .error e _ => .error e

end PdfDocument

end CapyPdf
