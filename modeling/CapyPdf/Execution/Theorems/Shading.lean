import CapyPdf.Document.Theorems.Mesh
import CapyPdf.Execution.Op

namespace CapyPdf

open PdfDocument

def Color.isDevice : Color → Bool
  | .deviceRGB _ | .deviceGray _ | .deviceCMYK _ => true
  | _ => false

def outOfUnit (v : Float) : Bool := v < 0 || v > 1.0

theorem appendFloatvalue_eq (size : Nat) (buf : Bytes) (v : Float) :
    appendFloatvalue size buf v = if outOfUnit v then .error (.error .colorOutOfRange)
      else .ok (buf ++ beBytes size (rawValue size v)) := rfl

def ShadingType4.outOfBox (shade : ShadingType4) (p : Point) : Bool :=
  outOfUnit ((p.x - shade.minx) / (shade.maxx - shade.minx)) ||
    outOfUnit ((p.y - shade.miny) / (shade.maxy - shade.miny))

theorem appendShade4Element_not_device (shade : ShadingType4) (s : Bytes) {e : ShadingElement}
    (hdev : e.sp.c.isDevice = false) :
    appendShade4Element shade s e = .error (if flagByte e.flag ≥ 3 then .abort
      else if shade.outOfBox e.sp.p then .error .colorOutOfRange else .abort) := by
  obtain ⟨⟨p, c⟩, flag⟩ := e
  unfold appendShade4Element ShadingType4.outOfBox
  by_cases hf : flagByte flag ≥ 3
  · simp only [hf, if_true]
    rfl
  simp only [hf, if_false, appendFloatvalue_eq]
  cases c <;> cases hdev <;>
    cases outOfUnit ((p.x - shade.minx) / (shade.maxx - shade.minx)) <;>
    cases outOfUnit ((p.y - shade.miny) / (shade.maxy - shade.miny)) <;> rfl

variable (env : Env)

theorem addFunction_not_device (d : PdfDocument) {func : FunctionType2}
    (hidx : func.C0.index = func.C1.index) (hdev : func.C0.isDevice = false) :
    (addFunction env func).run d = .error .abort d := by
  have hc : color2numbers env func.C0 = .error .abort := by
    cases h : func.C0 <;> rw [h] at hdev <;> cases hdev <;> rfl
  simp [addFunction, hidx, hc]

theorem addShading4_not_device (d : PdfDocument) {shade : ShadingType4} {e : ShadingElement}
    {rest : List ShadingElement} (he : shade.elements = e :: rest) (hdev : e.sp.c.isDevice = false) :
    (addShading4 shade).run d = .error (if flagByte e.flag ≥ 3 then .abort
      else if shade.outOfBox e.sp.p then .error .colorOutOfRange else .abort) d := by
  have hser : serializeShade4 shade = .error (if flagByte e.flag ≥ 3 then .abort
      else if shade.outOfBox e.sp.p then .error .colorOutOfRange else .abort) := by
    rw [serializeShade4, he, List.foldlM_cons, appendShade4Element_not_device shade [] hdev]
    rfl
  simp [addShading4, hser]

theorem unsupported_colors_abort :
    (∀ (d : PdfDocument) (func : FunctionType2), func.C0.index = func.C1.index →
      func.C0.isDevice = false → (addFunction env func).run d = .error .abort d) ∧
    ∀ (d : PdfDocument) (shade : ShadingType4) (e : ShadingElement) (rest : List ShadingElement),
      shade.elements = e :: rest → e.sp.c.isDevice = false →
        (addShading4 shade).run d = .error (if flagByte e.flag ≥ 3 then .abort
          else if shade.outOfBox e.sp.p then .error .colorOutOfRange else .abort) d :=
  ⟨fun d _ => addFunction_not_device env d, fun d _ _ _ => addShading4_not_device d⟩

theorem unsupported_colors_abort_lab :
    let lab : Color := .lab ⟨0, 0, 0, 0⟩
    let e : ShadingElement := ⟨⟨⟨0, 0⟩, lab⟩, 0⟩
    let shade : ShadingType4 := ⟨[e], 0, 0, 1, 1, .deviceRGB⟩
    (addFunction Env.minimal ⟨[0, 1], lab, lab, 1⟩).run (PdfDocument.new 0 {} {}) =
        .error .abort (PdfDocument.new 0 {} {}) ∧
      (addShading4 shade).run (PdfDocument.new 0 {} {}) = .error (if flagByte e.flag ≥ 3 then .abort
        else if shade.outOfBox e.sp.p then .error .colorOutOfRange else .abort) (PdfDocument.new 0 {} {}) ∧
      (shade.outOfBox e.sp.p = false →
        (addShading4 shade).run (PdfDocument.new 0 {} {}) = .error .abort (PdfDocument.new 0 {} {})) :=
  have h := (unsupported_colors_abort Env.minimal).2 (PdfDocument.new 0 {} {})
    ⟨[⟨⟨⟨0, 0⟩, .lab ⟨0, 0, 0, 0⟩⟩, 0⟩], 0, 0, 1, 1, .deviceRGB⟩ _ [] rfl rfl
  ⟨(unsupported_colors_abort Env.minimal).1 _ _ rfl rfl, h, fun hin => by rw [h, hin]; rfl⟩

end CapyPdf
