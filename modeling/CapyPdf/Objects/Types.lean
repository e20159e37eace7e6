import CapyPdf.Basic.Result

namespace CapyPdf

-- The contents of a `std::string` that holds binary data (streams, file contents, profiles).
-- Strings that hold PDF text (dictionaries, command streams) are `String`s; a C++ `double` is a
-- `Float`, and `fmt::format("{:f}", x)` is `Float.toString`, which prints as `%f` does.
abbrev Bytes := List UInt8

inductive Colorspace where
  | deviceRGB
  | deviceGray
  | deviceCMYK
  deriving DecidableEq, Repr

def colorspaceNames : Colorspace → String
  | .deviceRGB => "/DeviceRGB"
  | .deviceGray => "/DeviceGray"
  | .deviceCMYK => "/DeviceCMYK"

def numChannelsFor : Colorspace → Nat
  | .deviceRGB => 3
  | .deviceGray => 1
  | .deviceCMYK => 4

inductive IntentSubtype where
  | pdfx
  | pdfa
  | pdfe
  deriving DecidableEq, Repr

def intentnames : IntentSubtype → String
  | .pdfx => "/GTS_PDFX"
  | .pdfa => "/GTS_PDFA"
  | .pdfe => "/ISO_PDFE"

inductive ImageInterpolation where
  | auto
  | pixelated
  | smooth
  deriving DecidableEq, Repr

inductive DrawContextType where
  | page
  | colorTiling
  | formXObject
  | transparencyGroup
  deriving DecidableEq, Repr

structure PdfRectangle where
  x1 : Float
  y1 : Float
  x2 : Float
  y2 : Float

structure Point where
  x : Float
  y : Float

structure DeviceRGBColor where
  r : Float
  g : Float
  b : Float

structure DeviceGrayColor where
  v : Float

structure DeviceCMYKColor where
  c : Float
  m : Float
  y : Float
  k : Float

structure ICCColor where
  id : Int
  values : List Float

structure LabColor where
  id : Int
  l : Float
  a : Float
  b : Float

structure SeparationColor where
  id : Int
  v : Float

inductive Color where
  | deviceRGB (c : DeviceRGBColor)
  | deviceGray (c : DeviceGrayColor)
  | deviceCMYK (c : DeviceCMYKColor)
  | icc (c : ICCColor)
  | lab (c : LabColor)
  | separation (c : SeparationColor)
  | pattern (id : Int)

def Color.index : Color → Nat
  | .deviceRGB _ => 0
  | .deviceGray _ => 1
  | .deviceCMYK _ => 2
  | .icc _ => 3
  | .lab _ => 4
  | .separation _ => 5
  | .pattern _ => 6

structure LabColorSpace where
  xw : Float
  yw : Float
  zw : Float
  amin : Float
  amax : Float
  bmin : Float
  bmax : Float

structure FunctionType2 where
  domain : List Float
  C0 : Color
  C1 : Color
  n : Float

structure ShadingType2 where
  colorspace : Colorspace
  x0 : Float
  y0 : Float
  x1 : Float
  y1 : Float
  function : Int
  extend0 : Bool
  extend1 : Bool

structure ShadingType3 where
  colorspace : Colorspace
  x0 : Float
  y0 : Float
  r0 : Float
  x1 : Float
  y1 : Float
  r1 : Float
  function : Int
  extend0 : Bool
  extend1 : Bool

structure ShadingPoint where
  p : Point
  c : Color

structure ShadingElement where
  sp : ShadingPoint
  flag : Int

structure ShadingType4 where
  elements : List ShadingElement
  minx : Float
  miny : Float
  maxx : Float
  maxy : Float
  colorspace : Colorspace

structure FullCoonsPatch where
  p : List Point
  c : List Color
  p_length : p.length = 12
  c_length : c.length = 4

structure ContinuationCoonsPatch where
  flag : Int
  p : List Point
  c : List Color
  p_length : p.length = 8
  c_length : c.length = 2

inductive CoonsPatch where
  | full (e : FullCoonsPatch)
  | continuation (e : ContinuationCoonsPatch)

structure ShadingType6 where
  elements : List CoonsPatch
  minx : Float
  miny : Float
  maxx : Float
  maxy : Float
  colorspace : Colorspace

inductive LineCap where
  | butt
  | round
  | projectionSquare

def LineCap.toInt : LineCap → Int
  | .butt => 0
  | .round => 1
  | .projectionSquare => 2

inductive LineJoin where
  | miter
  | round
  | bevel

def LineJoin.toInt : LineJoin → Int
  | .miter => 0
  | .round => 1
  | .bevel => 2

inductive RenderingIntent where
  | relativeColorimetric
  | absoluteColorimetric
  | saturation
  | perceptual

def renderingIntentNames : RenderingIntent → String
  | .relativeColorimetric => "RelativeColorimetric"
  | .absoluteColorimetric => "AbsoluteColorimetric"
  | .saturation => "Saturation"
  | .perceptual => "Perceptual"

inductive BlendMode where
  | normal | multiply | screen | overlay | darken | lighten | colorDodge | colorBurn
  | hardLight | softLight | difference | exclusion | hue | saturation | color | luminosity

def blendModeNames : BlendMode → String
  | .normal => "Normal"
  | .multiply => "Multiply"
  | .screen => "Screen"
  | .overlay => "Overlay"
  | .darken => "Darken"
  | .lighten => "Lighten"
  | .colorDodge => "ColorDodge"
  | .colorBurn => "ColorBurn"
  | .hardLight => "HardLight"
  | .softLight => "SoftLight"
  | .difference => "Difference"
  | .exclusion => "Exclusion"
  | .hue => "Hue"
  | .saturation => "Saturation"
  | .color => "Color"
  | .luminosity => "Luminosity"

structure GraphicsState where
  LW : Option Float := none
  LC : Option LineCap := none
  LJ : Option LineJoin := none
  ML : Option Float := none
  RI : Option RenderingIntent := none
  OP : Option Bool := none
  op : Option Bool := none
  OPM : Option Int := none
  FL : Option Float := none
  SM : Option Float := none
  BM : Option BlendMode := none
  CA : Option Float := none
  ca : Option Float := none
  AIS : Option Bool := none
  TK : Option Bool := none

structure RasterImageMetadata where
  w : Int
  h : Int
  pixelDepth : Int
  alphaDepth : Int
  cs : Colorspace
  interp : ImageInterpolation

structure RasterImage where
  md : RasterImageMetadata
  pixels : Bytes
  alpha : Bytes
  iccProfile : Bytes

structure JpgImage where
  w : Int
  h : Int
  fileContents : Bytes

-- Only the rectangle of an annotation is read before the file is written.
structure Annotation where
  rect : Option PdfRectangle

structure OptionalContentGroup where
  name : String

-- Its fields are read only by serialize_trans, which is not under src/.
structure Transition where

structure SubPageNavigation where
  id : Int
  tr : Option Transition

-- Its fields are read only by PdfDrawContext::serialize, which is not under src/.
structure TransparencyGroupExtra where

inductive StructureItemType where
  | builtin (stype : Nat)
  | role (id : Int)

structure Outline where
  title : String
  dest : Int
  parent : Option Int

structure PdfGenerationData where
  title : String := ""
  author : String := ""
  creator : String := ""
  lang : String := ""
  outputColorspace : Colorspace := .deviceRGB
  subtype : Option IntentSubtype := none
  intentConditionIdentifier : String := ""
  compressStreams : Bool := false
  isTagged : Bool := false

structure PdfColorConverter where
  rgb : Bytes := []
  gray : Bytes := []
  cmyk : Bytes := []

end CapyPdf
