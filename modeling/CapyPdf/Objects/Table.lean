import CapyPdf.Objects.Document

namespace CapyPdf

def Begins (s p : String) : Prop :=
  p.data <+: s.data

instance (s p : String) : Decidable (Begins s p) :=
  inferInstanceAs (Decidable (p.data <+: s.data))

-- What the object that a recorded object number names must be.
inductive Role where
  -- A dictionary the caller or a collaborator wrote: a form XObject, a transparency group.
  | dict
  | bare
  -- A dictionary that begins with `p`, which names the kind of object it is.
  | head (p : String)
  -- A content stream: deflated, or with a `/Length` that is the length of its stream.
  | stream
  | deflate
  | pages
  | page (i : Nat)
  | anyPage
  | annot (i : Nat)
  | widget (i : Nat)
  | structItem (i : Nat)
  | fontData (fid : Nat)
  | fontDescriptor (fid : Nat)
  | cmap (fid : Nat)
  -- The font object of `font_objects` entry with `font_index_tmp = fid`: a builtin font's
  -- dictionary when `fid = -1`, else the delayed subset font of font `fid`.
  | fontOf (fid : Int)
  deriving DecidableEq, Repr

def Role.Holds : Role → ObjectType → Prop
  | .dict, .fullPDFObject .. => True
  | .bare, .fullPDFObject _ b => b = []
  | .head p, .fullPDFObject s _ => Begins s p
  | .stream, .fullPDFObject s b => ∃ pre, s = pre ++ "  /Length " ++ toString b.length ++ "\n>>\n"
  | .stream, .deflatePDFObject .. => True
  | .deflate, .deflatePDFObject .. => True
  | .pages, .delayedPages => True
  | .page i, .delayedPage p => p.pageNum = i
  | .anyPage, .delayedPage _ => True
  | .annot i, ObjectType.delayedAnnotation j _ => j = i
  | .widget i, ObjectType.delayedCheckboxWidgetAnnotation w => w.widget = i
  | .structItem i, .delayedStructItem j => j = i
  | .fontData fid, .delayedSubsetFontData j s => j = fid ∧ s = 0
  | .fontDescriptor fid, .delayedSubsetFontDescriptor j _ s => j = fid ∧ s = 0
  | .cmap fid, .delayedSubsetCMap j s => j = fid ∧ s = 0
  | .fontOf fid, .fullPDFObject s _ => fid = -1 ∧ Begins s "<<\n  /Type /Font\n"
  | .fontOf fid, .delayedSubsetFont j _ _ => fid = j
  | _, _ => False

theorem Role.not_holds_dummy (r : Role) : ¬r.Holds .dummyIndexZero := by
  cases r <;> exact id

def ObjectType.links : ObjectType → List (Nat × Role)
  | .delayedPage p => p.subnavRoot.toList.map (·, .head "<<\n  /Type /NavNode\n")
  | .delayedSubsetFontDescriptor fid data _ => [(data, .fontData fid)]
  | .delayedSubsetFont fid desc cmap => [(desc, .fontDescriptor fid), (cmap, .cmap fid)]
  | _ => []

namespace PdfDocument

def Designates (d : PdfDocument) (n : Nat) (r : Role) : Prop :=
  ∃ o, d.documentObjects[n]? = some o ∧ r.Holds o

-- The places where the document records object numbers.
inductive Place where
  | page | pageResources | pageCommands | formUse | annotationUse | annot | formWidget
  | structItem | image | iccStream | iccObject | separation | formXobject | ocg | transparencyGroup
  | embeddedFilespec | embeddedContents | fontFile | fontDescriptor | fontObj | pagesObject
  | pageGroupObject | outputIntent | structureParentTree | structureRoot | link
  deriving DecidableEq, Repr

def Records (d : PdfDocument) : Place → Nat → Role → Prop
  | .page, n, r => ∃ i po, d.pages[i]? = some po ∧ po.pageObjNum = n ∧ r = .page i
  | .pageResources, n, r => ∃ po ∈ d.pages, po.resourceObjNum = n ∧ r = .bare
  | .pageCommands, n, r => ∃ po ∈ d.pages, po.commandObjNum = n ∧ r = .stream
  | .formUse, n, r => (∃ k, d.formUse.find? k = some n) ∧ r = .anyPage
  | .annotationUse, n, r => (∃ k, d.annotationUse.find? k = some n) ∧ r = .anyPage
  | .annot, n, r => ∃ i, d.annotations[i]? = some n ∧ r = .annot i
  | .formWidget, n, r => ∃ i, d.formWidgets[i]? = some n ∧ r = .widget i
  | .structItem, n, r => ∃ i s, d.structureItems[i]? = some s ∧ s.objId = n ∧ r = .structItem i
  | .image, n, r => (∃ im ∈ d.imageInfo, im.obj = n) ∧ r = .head "<<\n  /Type /XObject\n  /Subtype /Image\n"
  | .iccStream, n, r => (∃ icc ∈ d.iccProfiles, icc.streamNum = n) ∧ r = .deflate
  | .iccObject, n, r => ∃ icc ∈ d.iccProfiles, icc.objectNum = n ∧
      r = .head ("[ /ICCBased " ++ toString icc.streamNum ++ " 0 R ]")
  | .separation, n, r => n ∈ d.separationObjects ∧ r = .head "[\n  /Separation\n"
  | .formXobject, n, r => n ∈ d.formXobjects ∧ r = .dict
  | .ocg, n, r => n ∈ d.ocgItems ∧ r = .head "<<\n  /Type /OCG\n"
  | .transparencyGroup, n, r => n ∈ d.transparencyGroups ∧ r = .dict
  | .embeddedFilespec, n, r => (∃ f ∈ d.embeddedFiles, f.filespecObj = n) ∧
      r = .head "<<\n  /Type /Filespec\n"
  | .embeddedContents, n, r => (∃ f ∈ d.embeddedFiles, f.contentsObj = n) ∧
      r = .head "<<\n  /Type /EmbeddedFile\n"
  | .fontFile, n, r => ∃ fi ∈ d.fontObjects, ∃ fid : Nat,
      fi.fontIndexTmp = fid ∧ fi.fontFileObj = n ∧ r = .fontData fid
  | .fontDescriptor, n, r => ∃ fi ∈ d.fontObjects, ∃ fid : Nat,
      fi.fontIndexTmp = fid ∧ fi.fontDescriptorObj = n ∧ r = .fontDescriptor fid
  | .fontObj, n, r => ∃ fi ∈ d.fontObjects, fi.fontObj = n ∧ r = .fontOf fi.fontIndexTmp
  | .pagesObject, n, r => d.pagesObject = some n ∧ r = .pages
  | .pageGroupObject, n, r => d.pageGroupObject = some n ∧ r = .head "<<\n  /S /Transparency\n"
  | .outputIntent, n, r => d.outputIntentObject = some n ∧ r = .head "<<\n  /Type /OutputIntent\n"
  | .structureParentTree, n, r => d.structureParentTreeObject = some n ∧ r = .head "<< /Nums [\n"
  | .structureRoot, n, r => d.structureRootObject = some n ∧
      r = .head "<<\n  /Type /StructTreeRoot\n"
  | .link, n, r => ∃ (m : Nat) (o : ObjectType), d.documentObjects[m]? = some o ∧ (n, r) ∈ o.links

structure Numbered (d : PdfDocument) : Prop where
  sentinel : d.documentObjects[0]? = some .dummyIndexZero
  sentinel_unique : ∀ n, d.documentObjects[n]? = some .dummyIndexZero → n = 0
  records : ∀ {p n r}, d.Records p n r → d.Designates n r

end PdfDocument

end CapyPdf
