import CapyPdf.Document.Shading

namespace CapyPdf

def rawValue (size : Nat) (v : Float) : Nat :=
  (Float.ofNat (Nat.pow 2 (8 * size) - 1) * v).toUInt64.toNat

def floatvalue (size : Nat) (v : Float) : Nat :=
  rawValue size v % Nat.pow 256 size

def Color.components : Color → List Float
  | .deviceRGB c => [c.r, c.g, c.b]
  | .deviceGray c => [c.v]
  | .deviceCMYK c => [c.c, c.m, c.y, c.k]
  | _ => []

theorem appendFloatvalue_cases (size : Nat) (buf : Bytes) (v : Float) :
    appendFloatvalue size buf v = .error (.error .colorOutOfRange) ∨
      appendFloatvalue size buf v = .ok (buf ++ beBytes size (rawValue size v)) := by
  unfold appendFloatvalue
  split
  exacts [.inl rfl, .inr rfl]

theorem appendFloatvalue_ok {size : Nat} {buf buf' : Bytes} {v : Float}
    (h : appendFloatvalue size buf v = .ok buf') : buf' = buf ++ beBytes size (rawValue size v) := by
  rcases appendFloatvalue_cases size buf v with h' | h' <;> rw [h'] at h <;> cases h
  rfl

theorem appendFloatvalue_bind_ok {α : Type} {size : Nat} {buf : Bytes} {v : Float}
    {f : Bytes → Except Fault α} {a : α} (h : appendFloatvalue size buf v >>= f = .ok a) :
    f (buf ++ beBytes size (rawValue size v)) = .ok a := by
  rcases appendFloatvalue_cases size buf v with h' | h' <;> rw [h'] at h
  · cases h
  · exact h

def encodeElement (flag : UInt8) (coords comps : List Nat) : Bytes :=
  flag :: ((coords.map (beBytes 4)).flatten ++ (comps.map (beBytes 2)).flatten)

@[simp] theorem length_beBytes (n v : Nat) : (beBytes n v).length = n := by
  induction n generalizing v with
  | zero => rfl
  | succ n ih => simp [beBytes, ih]

@[simp] theorem length_flatten_map_beBytes (n : Nat) (vs : List Nat) :
    (vs.map (beBytes n)).flatten.length = n * vs.length := by
  induction vs with
  | nil => rfl
  | cons v vs ih => simp [ih, Nat.mul_succ, Nat.add_comm]

theorem length_encodeElement (flag : UInt8) (coords comps : List Nat) :
    (encodeElement flag coords comps).length = 1 + 4 * coords.length + 2 * comps.length := by
  simp only [encodeElement, List.length_cons, List.length_append, length_flatten_map_beBytes]
  omega

theorem appendShade4Element_ok {shade : ShadingType4} {s s' : Bytes} {e : ShadingElement}
    (h : appendShade4Element shade s e = .ok s') :
    e.sp.c.components.length = numChannelsFor shade.colorspace ∧
    s' = s ++ encodeElement (flagByte e.flag)
      [rawValue 4 ((e.sp.p.x - shade.minx) / (shade.maxx - shade.minx)),
        rawValue 4 ((e.sp.p.y - shade.miny) / (shade.maxy - shade.miny))]
      (e.sp.c.components.map (rawValue 2)) := by
  obtain ⟨⟨p, c⟩, flag⟩ := e
  unfold appendShade4Element at h
  cases c <;> dsimp only at h <;> split at h <;> try cases h
  all_goals
    replace h := appendFloatvalue_bind_ok (appendFloatvalue_bind_ok h)
    try cases h
  all_goals
    split at h
    · cases h
    rename_i hcs
    repeat replace h := appendFloatvalue_bind_ok h
    obtain rfl := appendFloatvalue_ok h
    simp only [ne_eq, not_not] at hcs
    simp [encodeElement, Color.components, numChannelsFor, hcs]

theorem appendShade6Point_ok {shade : ShadingType6} {s s' : Bytes} {p : Point}
    (h : appendShade6Point shade s p = .ok s') :
    s' = s ++ ([rawValue 4 ((p.x - shade.minx) / (shade.maxx - shade.minx)),
      rawValue 4 ((p.y - shade.miny) / (shade.maxy - shade.miny))].map (beBytes 4)).flatten := by
  obtain rfl := appendFloatvalue_ok (appendFloatvalue_bind_ok h)
  simp

theorem appendShade6Color_ok {shade : ShadingType6} {s s' : Bytes} {c : Color}
    (h : appendShade6Color shade s c = .ok s') :
    c.components.length = numChannelsFor shade.colorspace ∧
      s' = s ++ ((c.components.map (rawValue 2)).map (beBytes 2)).flatten := by
  unfold appendShade6Color at h
  split at h <;> try cases h
  all_goals
    rename_i hcs
    repeat replace h := appendFloatvalue_bind_ok h
    obtain rfl := appendFloatvalue_ok h
    simp [Color.components, numChannelsFor, hcs]

theorem foldlM_appendShade6Point_ok {shade : ShadingType6} :
    ∀ {ps : List Point} {s s' : Bytes}, ps.foldlM (appendShade6Point shade) s = .ok s' →
      s' = s ++ ((ps.flatMap fun p => [rawValue 4 ((p.x - shade.minx) / (shade.maxx - shade.minx)),
        rawValue 4 ((p.y - shade.miny) / (shade.maxy - shade.miny))]).map (beBytes 4)).flatten
  | [], _, _, h => by cases h; simp
  | p :: ps, s, s', h => by
    rw [List.foldlM_cons] at h
    cases hp : appendShade6Point shade s p with
    | error e => rw [hp] at h; cases h
    | ok s₁ =>
      rw [hp] at h
      rw [foldlM_appendShade6Point_ok h, appendShade6Point_ok hp]
      simp

theorem foldlM_appendShade6Color_ok {shade : ShadingType6} :
    ∀ {cs : List Color} {s s' : Bytes}, cs.foldlM (appendShade6Color shade) s = .ok s' →
      (∀ c ∈ cs, c.components.length = numChannelsFor shade.colorspace) ∧
        s' = s ++ (((cs.flatMap Color.components).map (rawValue 2)).map (beBytes 2)).flatten
  | [], _, _, h => by cases h; simp
  | c :: cs, s, s', h => by
    rw [List.foldlM_cons] at h
    cases hc : appendShade6Color shade s c with
    | error e => rw [hc] at h; cases h
    | ok s₁ =>
      rw [hc] at h
      obtain ⟨hall, rfl⟩ := foldlM_appendShade6Color_ok h
      obtain ⟨hlen, rfl⟩ := appendShade6Color_ok hc
      refine ⟨List.forall_mem_cons.mpr ⟨hlen, hall⟩, ?_⟩
      simp

theorem appendShade6Element_ok {shade : ShadingType6} {s s' : Bytes} {e : CoonsPatch}
    (h : appendShade6Element shade s e = .ok s') :
    ∃ f : FullCoonsPatch, e = .full f ∧
      (∀ c ∈ f.c, c.components.length = numChannelsFor shade.colorspace) ∧
      s' = s ++ encodeElement 0
        (f.p.flatMap fun p => [rawValue 4 ((p.x - shade.minx) / (shade.maxx - shade.minx)),
          rawValue 4 ((p.y - shade.miny) / (shade.maxy - shade.miny))])
        ((f.c.flatMap Color.components).map (rawValue 2)) := by
  cases e with
  | continuation _ => cases h
  | full f =>
    simp only [appendShade6Element] at h
    cases hp : f.p.foldlM (appendShade6Point shade) (s ++ [0]) with
    | error e => rw [hp] at h; cases h
    | ok s₁ =>
      rw [hp] at h
      obtain ⟨hall, rfl⟩ := foldlM_appendShade6Color_ok h
      refine ⟨f, rfl, hall, ?_⟩
      rw [foldlM_appendShade6Point_ok hp]
      simp [encodeElement]

def CoonsPatch.points : CoonsPatch → List Point
  | .full e => e.p
  | .continuation e => e.p

def CoonsPatch.colors : CoonsPatch → List Color
  | .full e => e.c
  | .continuation e => e.c

theorem length_flatten_map_of_forall {β γ : Type} {f : β → List γ} {L : Nat} :
    ∀ {l : List β}, (∀ x ∈ l, (f x).length = L) → (l.map f).flatten.length = l.length * L
  | [], _ => by simp
  | x :: l, h => by
    rw [List.map_cons, List.flatten_cons, List.length_append, h x (.head _),
      length_flatten_map_of_forall fun y hy => h y (.tail _ hy), List.length_cons, Nat.succ_mul,
      Nat.add_comm]

theorem foldlM_appendShade4Element_ok {shade : ShadingType4} :
    ∀ {es : List ShadingElement} {s s' : Bytes}, es.foldlM (appendShade4Element shade) s = .ok s' →
      (∀ e ∈ es, e.sp.c.components.length = numChannelsFor shade.colorspace) ∧
      s' = s ++ (es.map fun e => encodeElement (flagByte e.flag)
        [rawValue 4 ((e.sp.p.x - shade.minx) / (shade.maxx - shade.minx)),
          rawValue 4 ((e.sp.p.y - shade.miny) / (shade.maxy - shade.miny))]
        (e.sp.c.components.map (rawValue 2))).flatten
  | [], _, _, h => by cases h; simp
  | e :: es, s, s', h => by
    rw [List.foldlM_cons] at h
    cases he : appendShade4Element shade s e with
    | error f => rw [he] at h; cases h
    | ok s₁ =>
      rw [he] at h
      obtain ⟨hall, rfl⟩ := foldlM_appendShade4Element_ok h
      obtain ⟨hlen, rfl⟩ := appendShade4Element_ok he
      exact ⟨List.forall_mem_cons.mpr ⟨hlen, hall⟩, by simp⟩

theorem foldlM_appendShade6Element_ok {shade : ShadingType6} :
    ∀ {es : List CoonsPatch} {s s' : Bytes}, es.foldlM (appendShade6Element shade) s = .ok s' →
      (∀ e ∈ es, e.points.length = 12 ∧
        (e.colors.flatMap Color.components).length = 4 * numChannelsFor shade.colorspace) ∧
      s' = s ++ (es.map fun e => encodeElement 0
        (e.points.flatMap fun p => [rawValue 4 ((p.x - shade.minx) / (shade.maxx - shade.minx)),
          rawValue 4 ((p.y - shade.miny) / (shade.maxy - shade.miny))])
        ((e.colors.flatMap Color.components).map (rawValue 2))).flatten
  | [], _, _, h => by cases h; simp
  | e :: es, s, s', h => by
    rw [List.foldlM_cons] at h
    cases he : appendShade6Element shade s e with
    | error f => rw [he] at h; cases h
    | ok s₁ =>
      rw [he] at h
      obtain ⟨hall, rfl⟩ := foldlM_appendShade6Element_ok h
      obtain ⟨f, rfl, hc, rfl⟩ := appendShade6Element_ok he
      have hcomps : (f.c.flatMap Color.components).length = 4 * numChannelsFor shade.colorspace := by
        rw [List.flatMap_def, length_flatten_map_of_forall hc, f.c_length]
      exact ⟨List.forall_mem_cons.mpr ⟨⟨f.p_length, hcomps⟩, hall⟩, by simp [CoonsPatch.points,
        CoonsPatch.colors]⟩

-- A reader of a mesh stream, as the spec describes its layout.
def readBE (bytes : Bytes) : Nat :=
  bytes.foldl (fun acc b => acc * 256 + b.toNat) 0

def readValues (width : Nat) : Nat → Bytes → Option (List Nat × Bytes)
  | 0, bs => some ([], bs)
  | count + 1, bs =>
    if width ≤ bs.length then
      (readValues width count (bs.drop width)).map fun (vs, rest) => (readBE (bs.take width) :: vs, rest)
    else none

structure MeshElement where
  flag : Nat
  coords : List Nat
  comps : List Nat
  deriving DecidableEq, Repr

def readElement (bitsPerFlag bitsPerCoordinate bitsPerComponent coordCount compCount : Nat)
    (bs : Bytes) : Option (MeshElement × Bytes) := do
  let (flag, bs) ← readValues (bitsPerFlag / 8) 1 bs
  let (coords, bs) ← readValues (bitsPerCoordinate / 8) coordCount bs
  let (comps, bs) ← readValues (bitsPerComponent / 8) compCount bs
  pure (⟨flag.headD 0, coords, comps⟩, bs)

def readMesh (bitsPerFlag bitsPerCoordinate bitsPerComponent coordCount compCount : Nat) :
    Nat → Bytes → Option (List MeshElement)
  | _, [] => some []
  | 0, _ :: _ => none
  | fuel + 1, b :: bs => do
    let (e, rest) ←
      readElement bitsPerFlag bitsPerCoordinate bitsPerComponent coordCount compCount (b :: bs)
    let es ← readMesh bitsPerFlag bitsPerCoordinate bitsPerComponent coordCount compCount fuel rest
    pure (e :: es)

def decodeMesh (bitsPerFlag bitsPerCoordinate bitsPerComponent coordCount compCount : Nat)
    (bs : Bytes) : Option (List MeshElement) :=
  readMesh bitsPerFlag bitsPerCoordinate bitsPerComponent coordCount compCount bs.length bs

theorem readBE_append_byte (bytes : Bytes) (b : UInt8) :
    readBE (bytes ++ [b]) = readBE bytes * 256 + b.toNat := by
  simp [readBE, List.foldl_append]

theorem readBE_beBytes (n v : Nat) : readBE (beBytes n v) = v % Nat.pow 256 n := by
  rw [Nat.pow_eq]
  induction n generalizing v with
  | zero => simp [beBytes, readBE, Nat.mod_one]
  | succ n ih =>
    have hbyte : (v % 256).toUInt8.toNat = v % 256 :=
      UInt8.toNat_ofNat_of_lt (Nat.mod_lt _ (by decide))
    rw [beBytes, readBE_append_byte, ih, hbyte, Nat.pow_succ', Nat.mod_mul]
    omega

theorem readValues_encode (w : Nat) (rest : Bytes) :
    ∀ vs : List Nat, readValues w vs.length ((vs.map (beBytes w)).flatten ++ rest) =
      some (vs.map (· % Nat.pow 256 w), rest)
  | [] => rfl
  | v :: vs => by
    rw [List.length_cons, readValues, if_pos (by simp), List.map_cons, List.flatten_cons,
      List.append_assoc, List.drop_left' (length_beBytes w v), List.take_left' (length_beBytes w v),
      readValues_encode w rest vs, readBE_beBytes]
    rfl

theorem readElement_encode (flag : UInt8) (coords comps : List Nat) (rest : Bytes) :
    readElement 8 32 16 coords.length comps.length (encodeElement flag coords comps ++ rest) =
      some (⟨flag.toNat, coords.map (· % Nat.pow 256 4), comps.map (· % Nat.pow 256 2)⟩, rest) := by
  have hflag : ∀ bs : Bytes, readValues 1 1 (flag :: bs) = some ([flag.toNat], bs) := fun bs => by
    simp [readValues, readBE]
  simp only [readElement, encodeElement, List.cons_append, Nat.reduceDiv, hflag, Option.bind_eq_bind,
    Option.some_bind, List.append_assoc, readValues_encode]
  rfl

theorem readMesh_of_ne_nil {bpf bpc bpk cc kc fuel : Nat} {bs : Bytes} (h : bs ≠ []) :
    readMesh bpf bpc bpk cc kc (fuel + 1) bs = (readElement bpf bpc bpk cc kc bs).bind fun (e, rest) =>
      (readMesh bpf bpc bpk cc kc fuel rest).bind fun es => some (e :: es) := by
  cases bs
  · contradiction
  · rfl

theorem readMesh_encode {β : Type} {coordCount compCount : Nat} (flag : β → UInt8)
    (coords comps : β → List Nat) :
    ∀ (l : List β) (fuel : Nat), l.length ≤ fuel →
      (∀ x ∈ l, (coords x).length = coordCount ∧ (comps x).length = compCount) →
      readMesh 8 32 16 coordCount compCount fuel
          (l.map fun x => encodeElement (flag x) (coords x) (comps x)).flatten =
        some (l.map fun x => ⟨(flag x).toNat, (coords x).map (· % Nat.pow 256 4), (comps x).map (· % Nat.pow 256 2)⟩)
  | [], fuel, _, _ => by cases fuel <;> rfl
  | x :: l, fuel + 1, hlen, hall => by
    obtain ⟨hc, hk⟩ := hall x (.head _)
    simp only [List.map_cons, List.flatten_cons]
    rw [readMesh_of_ne_nil (by simp [encodeElement]), ← hc, ← hk, readElement_encode, hc, hk,
      Option.some_bind]
    dsimp only
    rw [readMesh_encode flag coords comps l fuel (by simpa using hlen) fun y hy => hall y (.tail _ hy)]
    rfl

@[simp] theorem length_flatMap_pair {β : Type} (l : List β) (a b : β → Nat) :
    (l.flatMap fun x => [a x, b x]).length = 2 * l.length := by
  induction l with
  | nil => rfl
  | cons x l ih =>
    simp only [List.flatMap_cons, List.length_append, ih, List.length_cons, List.length_nil]
    omega

-- What the spec says a reader recovers for a vertex: its flag and the values append_floatvalue
-- computes.
def ShadingType4.decoded (shade : ShadingType4) (e : ShadingElement) : MeshElement :=
  ⟨(flagByte e.flag).toNat, [floatvalue 4 ((e.sp.p.x - shade.minx) / (shade.maxx - shade.minx)),
    floatvalue 4 ((e.sp.p.y - shade.miny) / (shade.maxy - shade.miny))],
    e.sp.c.components.map (floatvalue 2)⟩

def ShadingType6.decoded (shade : ShadingType6) (e : CoonsPatch) : MeshElement :=
  ⟨0, e.points.flatMap fun p => [floatvalue 4 ((p.x - shade.minx) / (shade.maxx - shade.minx)),
    floatvalue 4 ((p.y - shade.miny) / (shade.maxy - shade.miny))],
    (e.colors.flatMap Color.components).map (floatvalue 2)⟩

theorem serializeShade4_decode {shade : ShadingType4} {s : Bytes} (h : serializeShade4 shade = .ok s) :
    s.length = shade.elements.length * (1 + 2 * 4 + 2 * numChannelsFor shade.colorspace) ∧
    decodeMesh 8 32 16 2 (numChannelsFor shade.colorspace) s =
      some (shade.elements.map shade.decoded) := by
  obtain ⟨hall, rfl⟩ := foldlM_appendShade4Element_ok h
  have hlen : ([] ++ (shade.elements.map fun e : ShadingElement => encodeElement (flagByte e.flag)
      [rawValue 4 ((e.sp.p.x - shade.minx) / (shade.maxx - shade.minx)),
        rawValue 4 ((e.sp.p.y - shade.miny) / (shade.maxy - shade.miny))]
      (e.sp.c.components.map (rawValue 2))).flatten).length =
      shade.elements.length * (1 + 2 * 4 + 2 * numChannelsFor shade.colorspace) := by
    rw [List.nil_append, length_flatten_map_of_forall]
    intro e he
    rw [length_encodeElement, List.length_map, hall e he]
    rfl
  refine ⟨hlen, ?_⟩
  rw [decodeMesh, hlen, List.nil_append, readMesh_encode]
  · simp [ShadingType4.decoded, floatvalue]
  · exact Nat.le_mul_of_pos_right _ (by omega)
  · simpa using hall

theorem serializeShade6_decode {shade : ShadingType6} {s : Bytes} (h : serializeShade6 shade = .ok s) :
    s.length = shade.elements.length * (1 + 12 * 2 * 4 + 4 * 2 * numChannelsFor shade.colorspace) ∧
    decodeMesh 8 32 16 24 (4 * numChannelsFor shade.colorspace) s =
      some (shade.elements.map shade.decoded) := by
  obtain ⟨hall, rfl⟩ := foldlM_appendShade6Element_ok h
  have hcoords : ∀ e ∈ shade.elements, (e.points.flatMap fun p =>
      [rawValue 4 ((p.x - shade.minx) / (shade.maxx - shade.minx)),
        rawValue 4 ((p.y - shade.miny) / (shade.maxy - shade.miny))]).length = 24 := fun e he => by
    rw [length_flatMap_pair, (hall e he).1]
  have hlen : ([] ++ (shade.elements.map fun e : CoonsPatch => encodeElement 0
      (e.points.flatMap fun p => [rawValue 4 ((p.x - shade.minx) / (shade.maxx - shade.minx)),
        rawValue 4 ((p.y - shade.miny) / (shade.maxy - shade.miny))])
      ((e.colors.flatMap Color.components).map (rawValue 2))).flatten).length =
      shade.elements.length * (1 + 12 * 2 * 4 + 4 * 2 * numChannelsFor shade.colorspace) := by
    rw [List.nil_append, length_flatten_map_of_forall]
    intro e he
    rw [length_encodeElement, List.length_map, hcoords e he, (hall e he).2]
    omega
  refine ⟨hlen, ?_⟩
  rw [decodeMesh, hlen, List.nil_append, readMesh_encode]
  · refine congrArg some (List.map_congr_left fun e _ => ?_)
    simp only [ShadingType6.decoded, List.map_flatMap, List.map_cons, List.map_nil, List.map_map]
    rfl
  · exact Nat.le_mul_of_pos_right _ (by omega)
  · exact fun e he => ⟨hcoords e he, by rw [List.length_map, (hall e he).2]⟩

-- The colour ranges of a /Decode array, as a reader counts them: its numbers, two a range.
def rangePairs (ranges : String) : Nat :=
  ((ranges.data.splitOnP Char.isWhitespace).filter (· ≠ [])).length / 2

theorem rangePairs_decodeRanges (cs : Colorspace) : rangePairs (decodeRanges cs) = numChannelsFor cs := by
  cases cs <;> decide

-- The spec's mesh-shading dictionary: the bit counts its stream is read with, the stream's length,
-- and a /Decode array of the bounding box followed by the colour ranges.
def meshDict (t : Nat) (cs : String) (bitsPerCoordinate bitsPerComponent bitsPerFlag length : Nat)
    (x₀ x₁ y₀ y₁ : Float) (ranges : String) : String :=
  "<<\n  /ShadingType " ++ toString t ++ "\n  /ColorSpace " ++ cs ++
    "\n  /BitsPerCoordinate " ++ toString bitsPerCoordinate ++
    "\n  /BitsPerComponent " ++ toString bitsPerComponent ++
    "\n  /BitsPerFlag " ++ toString bitsPerFlag ++ "\n  /Length " ++ toString length ++
    "\n  /Decode [\n    " ++ x₀.toString ++ " " ++ x₁.toString ++ "\n    " ++ y₀.toString ++ " " ++
    y₁.toString ++ "\n" ++ ranges ++ "  ]\n>>\n"

theorem meshShadingDict_eq (t : Nat) (cs : Colorspace) (len : Nat) (x₀ x₁ y₀ y₁ : Float) :
    meshShadingDict t cs len x₀ x₁ y₀ y₁ =
      meshDict t (colorspaceNames cs) 32 16 8 len x₀ x₁ y₀ y₁ (decodeRanges cs) := by
  rw [meshShadingDict, meshDict,
    show "\n  /BitsPerCoordinate 32\n  /BitsPerComponent 16\n  /BitsPerFlag 8\n  /Length " =
      "\n  /BitsPerCoordinate " ++ toString 32 ++ "\n  /BitsPerComponent " ++ toString 16 ++
        "\n  /BitsPerFlag " ++ toString 8 ++ "\n  /Length " by decide]
  simp only [String.append_assoc]

namespace PdfDocument

theorem addShading4_run (shade : ShadingType4) (d : PdfDocument) :
    (addShading4 shade).run d = match serializeShade4 shade with
      | .ok s => .ok d.documentObjects.length (d.pushObject (.fullPDFObject
          (meshShadingDict 4 shade.colorspace s.length shade.minx shade.maxx shade.miny shade.maxy) s))
      | .error f => .error f d := by
  simp only [addShading4, addObject, run_ofExcept_bind]
  cases serializeShade4 shade <;> rfl

theorem addShading6_run (shade : ShadingType6) (d : PdfDocument) :
    (addShading6 shade).run d = match serializeShade6 shade with
      | .ok s => .ok d.documentObjects.length (d.pushObject (.fullPDFObject
          (meshShadingDict 6 shade.colorspace s.length shade.minx shade.maxx shade.miny shade.maxy) s))
      | .error f => .error f d := by
  simp only [addShading6, addObject, run_ofExcept_bind]
  cases serializeShade6 shade <;> rfl

theorem addShading_mesh_decodes :
    (∀ (d : PdfDocument) (shade : ShadingType4),
      (∃ f, serializeShade4 shade = .error f ∧ (addShading4 shade).run d = .error f d) ∨
      ∃ s ranges, serializeShade4 shade = .ok s ∧
        (addShading4 shade).run d = .ok d.documentObjects.length (d.pushObject (.fullPDFObject
          (meshDict 4 (colorspaceNames shade.colorspace) 32 16 8 s.length shade.minx shade.maxx
            shade.miny shade.maxy ranges) s)) ∧
        rangePairs ranges = numChannelsFor shade.colorspace ∧
        s.length = shade.elements.length * (1 + 2 * 4 + 2 * rangePairs ranges) ∧
        decodeMesh 8 32 16 2 (rangePairs ranges) s = some (shade.elements.map shade.decoded)) ∧
    (∀ (d : PdfDocument) (shade : ShadingType6),
      (∃ f, serializeShade6 shade = .error f ∧ (addShading6 shade).run d = .error f d) ∨
      ∃ s ranges, serializeShade6 shade = .ok s ∧
        (addShading6 shade).run d = .ok d.documentObjects.length (d.pushObject (.fullPDFObject
          (meshDict 6 (colorspaceNames shade.colorspace) 32 16 8 s.length shade.minx shade.maxx
            shade.miny shade.maxy ranges) s)) ∧
        rangePairs ranges = numChannelsFor shade.colorspace ∧
        s.length = shade.elements.length * (1 + 12 * 2 * 4 + 4 * 2 * rangePairs ranges) ∧
        decodeMesh 8 32 16 24 (4 * rangePairs ranges) s = some (shade.elements.map shade.decoded)) := by
  refine ⟨fun d shade => ?_, fun d shade => ?_⟩
  · rw [addShading4_run]
    cases h : serializeShade4 shade with
    | error f => exact .inl ⟨f, rfl, rfl⟩
    | ok s =>
      refine .inr ⟨s, _, rfl, by rw [← meshShadingDict_eq], rangePairs_decodeRanges _, ?_⟩
      rw [rangePairs_decodeRanges]
      exact serializeShade4_decode h
  · rw [addShading6_run]
    cases h : serializeShade6 shade with
    | error f => exact .inl ⟨f, rfl, rfl⟩
    | ok s =>
      refine .inr ⟨s, _, rfl, by rw [← meshShadingDict_eq], rangePairs_decodeRanges _, ?_⟩
      rw [rangePairs_decodeRanges]
      exact serializeShade6_decode h

end PdfDocument

end CapyPdf
