import CapyPdf.Document.Init

namespace CapyPdf

def beBytes : Nat → Nat → Bytes
  | 0, _ => []
  | size + 1, n => beBytes size (n / 256) ++ [(n % 256).toUInt8]

-- append_floatvalue<T> for the unsigned T of size bytes: the scaled value, byte-swapped and
-- appended in memory order, most significant byte first on the little-endian targets the code is
-- built for.
def appendFloatvalue (size : Nat) (buf : Bytes) (v : Float) : Except Fault Bytes :=
  if v < 0 || v > 1.0 then
    .error (.error .colorOutOfRange)
  else
    let cval := (Float.ofNat (Nat.pow 2 (8 * size) - 1) * v).toUInt64.toNat
    .ok (buf ++ beBytes size cval)

-- The byte of (char)flag; assert(flag >= 0 && flag < 3) holds exactly when it is below 3.
def flagByte (flag : Int) : UInt8 :=
  (flag % 256).toNat.toUInt8

def appendShade4Element (shade : ShadingType4) (s : Bytes) (e : ShadingElement) :
    Except Fault Bytes := do
  let xratio := (e.sp.p.x - shade.minx) / (shade.maxx - shade.minx)
  let yratio := (e.sp.p.y - shade.miny) / (shade.maxy - shade.miny)
  let flag := flagByte e.flag
  if flag ≥ 3 then
    throw .abort
  let s ← appendFloatvalue 4 (s ++ [flag]) xratio
  let s ← appendFloatvalue 4 s yratio
  match e.sp.c with
  | .deviceRGB c =>
    if shade.colorspace ≠ .deviceRGB then
      throw (.error .colorspaceMismatch)
    let s ← appendFloatvalue 2 s c.r
    let s ← appendFloatvalue 2 s c.g
    appendFloatvalue 2 s c.b
  | .deviceGray c =>
    if shade.colorspace ≠ .deviceGray then
      throw (.error .colorspaceMismatch)
    appendFloatvalue 2 s c.v
  | .deviceCMYK c =>
    if shade.colorspace ≠ .deviceCMYK then
      throw (.error .colorspaceMismatch)
    let s ← appendFloatvalue 2 s c.c
    let s ← appendFloatvalue 2 s c.m
    let s ← appendFloatvalue 2 s c.y
    appendFloatvalue 2 s c.k
  | _ => throw .abort

def serializeShade4 (shade : ShadingType4) : Except Fault Bytes :=
  shade.elements.foldlM (appendShade4Element shade) []

def appendShade6Point (shade : ShadingType6) (s : Bytes) (p : Point) : Except Fault Bytes := do
  let xratio := (p.x - shade.minx) / (shade.maxx - shade.minx)
  let yratio := (p.y - shade.miny) / (shade.maxy - shade.miny)
  let s ← appendFloatvalue 4 s xratio
  appendFloatvalue 4 s yratio

def appendShade6Color (shade : ShadingType6) (s : Bytes) (colorobj : Color) : Except Fault Bytes :=
  match shade.colorspace, colorobj with
  | .deviceRGB, .deviceRGB c => do
    let s ← appendFloatvalue 2 s c.r
    let s ← appendFloatvalue 2 s c.g
    appendFloatvalue 2 s c.b
  | .deviceGray, .deviceGray c => appendFloatvalue 2 s c.v
  | .deviceCMYK, .deviceCMYK c => do
    let s ← appendFloatvalue 2 s c.c
    let s ← appendFloatvalue 2 s c.m
    let s ← appendFloatvalue 2 s c.y
    appendFloatvalue 2 s c.k
  | _, _ => .error (.error .colorspaceMismatch)

def appendShade6Element (shade : ShadingType6) (s : Bytes) : CoonsPatch → Except Fault Bytes
  | .continuation _ => throw .abort
  | .full e => do
    let s ← e.p.foldlM (appendShade6Point shade) (s ++ [0])
    e.c.foldlM (appendShade6Color shade) s

def serializeShade6 (shade : ShadingType6) : Except Fault Bytes :=
  shade.elements.foldlM (appendShade6Element shade) []

variable (env : Env)

def color2numbers : Color → Except Fault String
  | .deviceRGB c => .ok (env.fmtDouble c.r ++ " " ++ env.fmtDouble c.g ++ " " ++ env.fmtDouble c.b)
  | .deviceGray c => .ok (env.fmtDouble c.v)
  | .deviceCMYK c => .ok (env.fmtDouble c.c ++ " " ++ env.fmtDouble c.m ++ " " ++
      env.fmtDouble c.y ++ " " ++ env.fmtDouble c.k)
  | _ => .error .abort

def decodeRanges : Colorspace → String
  | .deviceRGB => "    0 1\n    0 1\n    0 1\n"
  | .deviceGray => "  0 1\n"
  | .deviceCMYK => "    0 1\n    0 1\n    0 1\n    0 1\n"

def meshShadingDict (shadingtype : Nat) (colorspace : Colorspace) (length : Nat)
    (minx maxx miny maxy : Float) : String :=
  "<<\n  /ShadingType " ++ toString shadingtype ++ "\n  /ColorSpace " ++ colorspaceNames colorspace ++
    "\n  /BitsPerCoordinate 32\n  /BitsPerComponent 16\n  /BitsPerFlag 8\n  /Length " ++
    toString length ++ "\n  /Decode [\n    " ++ minx.toString ++ " " ++ maxx.toString ++ "\n    " ++
    miny.toString ++ " " ++ maxy.toString ++ "\n" ++ decodeRanges colorspace ++ "  ]\n>>\n"

namespace PdfDocument

def addFunction (func : FunctionType2) : DocM Nat := do
  Prog.reterrIf (func.C0.index ≠ func.C1.index) .colorspaceMismatch
  let c0 ← Prog.ofExcept (color2numbers env func.C0)
  let c1 ← Prog.ofExcept (color2numbers env func.C1)
  let buf := "<<\n  /FunctionType 2\n  /N " ++ env.fmtDouble func.n ++ "\n" ++ "  /Domain [ " ++
    String.join (func.domain.map fun d => env.fmtDouble d ++ " ") ++ "]\n" ++
    "  /C0 [ " ++ c0 ++ "]\n" ++ "  /C1 [ " ++ c1 ++ "]\n" ++ ">>\n"
  addObject (.fullPDFObject buf [])

def addShading2 (shade : ShadingType2) : DocM Nat :=
  addObject (.fullPDFObject ("<<\n  /ShadingType 2\n  /ColorSpace " ++ colorspaceNames shade.colorspace ++
    "\n  /Coords [ " ++ shade.x0.toString ++ " " ++ shade.y0.toString ++ " " ++ shade.x1.toString ++
    " " ++ shade.y1.toString ++ " ]\n  /Function " ++ toString shade.function ++ " 0 R\n  /Extend [ " ++
    boolName shade.extend0 ++ " " ++ boolName shade.extend1 ++ " ]\n>>\n") [])

def addShading3 (shade : ShadingType3) : DocM Nat :=
  addObject (.fullPDFObject ("<<\n  /ShadingType 3\n  /ColorSpace " ++ colorspaceNames shade.colorspace ++
    "\n  /Coords [ " ++ shade.x0.toString ++ " " ++ shade.y0.toString ++ " " ++ shade.r0.toString ++
    " " ++ shade.x1.toString ++ " " ++ shade.y1.toString ++ " " ++ shade.r1.toString ++
    "]\n  /Function " ++ toString shade.function ++ " 0 R\n  /Extend [ " ++
    boolName shade.extend0 ++ " " ++ boolName shade.extend1 ++ " ]\n>>\n") [])

def addShading4 (shade : ShadingType4) : DocM Nat := do
  let serialized ← Prog.ofExcept (serializeShade4 shade)
  addObject (.fullPDFObject (meshShadingDict 4 shade.colorspace serialized.length shade.minx shade.maxx
    shade.miny shade.maxy) serialized)

def addShading6 (shade : ShadingType6) : DocM Nat := do
  let serialized ← Prog.ofExcept (serializeShade6 shade)
  addObject (.fullPDFObject (meshShadingDict 6 shade.colorspace serialized.length shade.minx shade.maxx
    shade.miny shade.maxy) serialized)

end PdfDocument

end CapyPdf
