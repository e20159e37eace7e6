import CapyPdf.Document.Theorems.Registries
import CapyPdf.Execution.Theorems.Along

namespace CapyPdf

open PdfDocument

variable (env : Env) {d d' : PdfDocument}

theorem Op.exec_grows (op : Op) : Moves Grows (op.exec env) :=
  op.exec_along env (fun d o _ => Grows.pushObject d o) fun r _ => r.along_grows

theorem registries_grow (h : Follows env d d') : Grows d d' :=
  h.along (Op.exec_grows env)

theorem registries_grow_loadFont :
    let d := ((init Env.minimal).run (PdfDocument.new 0 {} {})).state
    let d' := ((Op.loadFont "a.ttf").exec Env.minimal |>.run d).state
    Follows Env.minimal d d' ∧ Grows d d' :=
  ⟨.tail _ .refl, registries_grow _ (.tail _ .refl)⟩

theorem reachable_rolemap (h : Reachable env d) :
    (d.rolemap.map (·.name)).Nodup ∧ ∀ e ∈ d.rolemap, ¬(e.name.isEmpty ∨ e.name.front = '/') :=
  have hok : d.RolemapOk :=
    h.of_along (fun _ _ _ => ⟨.nil, fun _ => nofun⟩) (fun _ _ => id) Registry.along_rolemapOk
  hok

theorem reachable_rolemap_two :
    let d := ((Op.addRolemapEntry "Chapter" 1).exec Env.minimal |>.run
      ((Op.addRolemapEntry "Note" 0).exec Env.minimal |>.run
        ((init Env.minimal).run (PdfDocument.new 0 {} {})).state).state).state
    Reachable Env.minimal d ∧ ((d.rolemap.map (·.name)).Nodup ∧
      ∀ e ∈ d.rolemap, ¬(e.name.isEmpty ∨ e.name.front = '/')) :=
  have h : Reachable Env.minimal _ := .step (.addRolemapEntry "Chapter" 1)
    (.step (.addRolemapEntry "Note" 0) (@Reachable.init Env.minimal 0 {} {} _ rfl))
  ⟨h, reachable_rolemap _ h⟩

theorem Reachable.widgetsChecked (h : Reachable env d) : d.WidgetsChecked := by
  have hobj (d : PdfDocument) (o : ObjectType) (_ : o.isEntry = false) :
      Preserves WidgetsChecked d (d.pushObject o) :=
    fun h => h.pushObject o
  induction h with
  | init hi =>
    have hreg (r : Registry) (hw : r ≠ .formWidgets) (ha : r ≠ .annotations) :=
      r.along_widgetsChecked hw ha
    exact (Moves.init_along env hobj (hreg .iccProfiles nofun nofun) (hreg .separations nofun nofun)
      (hreg .roots nofun nofun)).of_run_ok hi ⟨fun _ _ hn => (nomatch hn), fun _ _ hn => (nomatch hn)⟩
  | step op _ ih =>
    cases op
    case createFormCheckbox =>
      simpa only [Op.exec, state_run_seqRight_pure] using ih.createFormCheckbox _ _ _
    case createAnnotation a =>
      simpa only [Op.exec, state_run_seqRight_pure] using ih.createAnnotation a
    all_goals
      refine Op.exec_along env hobj _ (fun r hr => r.along_widgetsChecked ?_ ?_) _ ih
      all_goals rintro rfl; simp [Op.writes] at hr

theorem reachable_widgets_checked (h : Reachable env d) :
    (∀ (i : Nat) n, d.formWidgets[i]? = some n → ∃ w,
      d.documentObjects[n]? = (some <| ObjectType.delayedCheckboxWidgetAnnotation w) ∧
        0 ≤ w.onstate ∧ w.onstate < d.formXobjects.length ∧ 0 ≤ w.offstate ∧
          w.offstate < d.formXobjects.length) ∧
    ∀ (i : Nat) n, d.annotations[i]? = some n → ∃ a,
      d.documentObjects[n]? = (some <| ObjectType.delayedAnnotation i a) ∧ a.rect.isSome :=
  have hw := h.widgetsChecked env
  ⟨hw.widgets, hw.annots⟩

theorem reachable_widgets_checked_checkbox :
    let d := ((Op.createAnnotation ⟨some ⟨0, 0, 1, 1⟩⟩).exec Env.minimal |>.run
      ((Op.createFormCheckbox 0 0 "c").exec Env.minimal |>.run
        ((Op.addFormXobject "<< >>\n" "").exec Env.minimal |>.run
          ((init Env.minimal).run (PdfDocument.new 0 {} {})).state).state).state).state
    Reachable Env.minimal d ∧
    ((∀ (i : Nat) n, d.formWidgets[i]? = some n → ∃ w,
      d.documentObjects[n]? = (some <| ObjectType.delayedCheckboxWidgetAnnotation w) ∧
        0 ≤ w.onstate ∧ w.onstate < d.formXobjects.length ∧ 0 ≤ w.offstate ∧
          w.offstate < d.formXobjects.length) ∧
    ∀ (i : Nat) n, d.annotations[i]? = some n → ∃ a,
      d.documentObjects[n]? = (some <| ObjectType.delayedAnnotation i a) ∧ a.rect.isSome) :=
  have h : Reachable Env.minimal _ := .step (Op.createAnnotation ⟨some ⟨0, 0, 1, 1⟩⟩)
    (.step (.createFormCheckbox 0 0 "c") (.step (.addFormXobject "<< >>\n" "")
      (@Reachable.init Env.minimal 0 {} {} _ rfl)))
  ⟨h, reachable_widgets_checked _ h⟩

end CapyPdf
