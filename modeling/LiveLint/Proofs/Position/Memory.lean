import LiveLint.Machine
import LiveLint.Position.Mapper

/-!
# What a mapper remembers

A mapper that remembers remembers the lines of the text that it names, and so its answers do not
depend on what it was asked before. The diagnostics of a list of issues are therefore those that the
single issues have on their own, in the same order (`toDiagnostics_eq_map`), and a mapper that is
used for long answers each question as a new one does (`memory_is_invisible`).
-/

namespace LiveLint

open TextObject (content)

namespace Mapper

variable {ι : Type} [TextObject ι]

/-- The lines in memory are those of the text in memory. -/
def Sane (m : Mapper ι) : Prop := ∀ t ls, m.memo = some (t, ls) → ls = Line.ofText (content t)

/-- A new mapper remembers nothing that could be wrong. -/
theorem sane_fresh (u : OffsetUnit) : Sane ({ unit := u } : Mapper ι) := by
  intro t ls h
  cases h

variable [DecidableEq ι] {m : Mapper ι}

/-- From memory or not, the lines are those of the text, and are remembered as such. -/
theorem Sane.lines (h : m.Sane) (t : ι) :
    (m.lines t).1 = Line.ofText (content t) ∧ (m.lines t).2.Sane ∧
      (m.lines t).2.unit = m.unit := by
  have hstored : Sane { m with memo := some (t, Line.ofText (content t)) } := by
    intro t' ls h
    cases h
    rfl
  unfold Mapper.lines
  split
  · rename_i latest ls hmemo
    by_cases hlatest : latest = t
    · rw [if_pos hlatest]
      exact ⟨by rw [h latest ls hmemo, hlatest], h, rfl⟩
    · rw [if_neg hlatest]
      exact ⟨rfl, hstored, rfl⟩
  · exact ⟨rfl, hstored, rfl⟩

/-- A sane mapper resolves a place by the lines of the text, and stays sane. -/
theorem Sane.resolve (h : m.Sane) (t : ι) (line column : Int) :
    (m.resolve t line column).1
        = Position.offset m.unit (content t)
          (Position.index (content t).length (Line.ofText (content t)) line column) ∧
      (m.resolve t line column).2.Sane ∧ (m.resolve t line column).2.unit = m.unit := by
  obtain ⟨hlines, hsane, hunit⟩ := h.lines t
  refine ⟨?_, hsane, hunit⟩
  show Position.offset (m.lines t).2.unit (content t)
    (Position.index (content t).length (m.lines t).1 _ _) = _
  rw [hlines, hunit]

/-- What was read before makes no difference to an offset. -/
theorem Sane.resolve_eq {m : Mapper} (h : m.Sane) (t : Text) (line column : Int) :
    (m.resolve t line column).1
      = Position.offset m.unit t (Position.index t.length (Line.ofText t) line column) :=
  (h.resolve t line column).1

/-- A sane mapper finds line and column by the lines of the text, and stays sane. -/
theorem Sane.lineColumn (h : m.Sane) (t : ι) (line column : Int) :
    (m.lineColumn t line column).1
        = Position.clamp (content t).length (Line.ofText (content t)) line column ∧
      (m.lineColumn t line column).2.Sane ∧ (m.lineColumn t line column).2.unit = m.unit := by
  obtain ⟨hlines, hsane, hunit⟩ := h.lines t
  exact ⟨congrArg (Position.clamp (content t).length · line column) hlines, hsane, hunit⟩

/-- The range of an issue, of which only the unit of the mapper is known. -/
theorem Sane.resolveRange (h : m.Sane) (t : ι) (i : Issue) :
    (m.resolveRange t i).1
        = Position.range m.unit (content t)
          (Position.index (content t).length (Line.ofText (content t)) i.line i.startColumn)
          (Position.index (content t).length (Line.ofText (content t)) i.line i.endColumn) ∧
      (m.resolveRange t i).2.Sane ∧ (m.resolveRange t i).2.unit = m.unit := by
  obtain ⟨hlines, hsane, hunit⟩ := h.lines t
  refine ⟨?_, hsane, hunit⟩
  show Position.range (m.lines t).2.unit (content t)
    (Position.index (content t).length (m.lines t).1 _ _)
    (Position.index (content t).length (m.lines t).1 _ _) = _
  rw [hlines, hunit]

/-- The diagnostic of an issue, of which only the unit of the mapper is known. -/
theorem Sane.toDiagnostic_eq (h : m.Sane) (t : ι) (i : Issue) :
    (m.toDiagnostic t i).1
        = { range := Position.range m.unit (content t)
              (Position.index (content t).length (Line.ofText (content t)) i.line i.startColumn)
              (Position.index (content t).length (Line.ofText (content t)) i.line i.endColumn)
            severity := i.severity, message := i.message, code := i.code
            line := some (Position.clamp (content t).length (Line.ofText (content t)) i.line
              i.startColumn).1
            column := some (Position.clamp (content t).length (Line.ofText (content t)) i.line
              i.startColumn).2 } ∧
      (m.toDiagnostic t i).2.Sane ∧ (m.toDiagnostic t i).2.unit = m.unit := by
  -- The position is asked for first, and the range of the mapper that remembers.
  obtain ⟨hplace, hsane, hunit⟩ := h.lineColumn t i.line i.startColumn
  obtain ⟨hrange, hsane', hunit'⟩ := hsane.resolveRange t i
  refine ⟨?_, hsane', hunit'.trans hunit⟩
  simp only [Mapper.toDiagnostic, hplace, hrange, hunit]

/-- A mapper answers as one that was asked nothing before. -/
theorem Sane.toDiagnostic (h : m.Sane) (t : ι) (i : Issue) :
    (m.toDiagnostic t i).1 = (({ unit := m.unit } : Mapper ι).toDiagnostic t i).1 ∧
      (m.toDiagnostic t i).2.Sane ∧ (m.toDiagnostic t i).2.unit = m.unit := by
  obtain ⟨hleft, hsane, hunit⟩ := h.toDiagnostic_eq t i
  obtain ⟨hright, -⟩ := (sane_fresh m.unit).toDiagnostic_eq t i
  exact ⟨hleft.trans hright.symm, hsane, hunit⟩

/-- Every issue has the diagnostic that it has on its own. -/
theorem Sane.toDiagnostics (h : m.Sane) (t : ι) (issues : List Issue) :
    (m.toDiagnostics t issues).1
      = issues.map fun i => (({ unit := m.unit } : Mapper ι).toDiagnostic t i).1 := by
  induction issues generalizing m with
  | nil => rfl
  | cons i rest ih =>
    obtain ⟨hfirst, hsane, hunit⟩ := h.toDiagnostic t i
    have hrest := ih hsane
    rw [hunit] at hrest
    show (m.toDiagnostic t i).1 :: ((m.toDiagnostic t i).2.toDiagnostics t rest).1 = _
    rw [hfirst, hrest, List.map_cons]

/-- The diagnostics of issues are those of the single issues, in their order. -/
theorem toDiagnostics_eq_map (u : OffsetUnit) (t : Text) (issues : List Issue) :
    (({ unit := u } : Mapper).toDiagnostics t issues).1
      = issues.map fun i => (({ unit := u } : Mapper).toDiagnostic t i).1 :=
  (sane_fresh u).toDiagnostics t issues

/-- A mapper stays sane, whatever issues it has turned into diagnostics. -/
theorem Sane.after_toDiagnostics (h : m.Sane) (t : ι) (issues : List Issue) :
    (m.toDiagnostics t issues).2.Sane ∧ (m.toDiagnostics t issues).2.unit = m.unit := by
  induction issues generalizing m with
  | nil => exact ⟨h, rfl⟩
  | cons i rest ih =>
    obtain ⟨-, hsane, hunit⟩ := h.toDiagnostic t i
    obtain ⟨hsane', hunit'⟩ := ih hsane
    exact ⟨hsane', hunit'.trans hunit⟩

/-! ## A mapper in use -/

/-- The question about what an object holds. -/
def Question.bare : Question ι → Question Text
  | .resolve t line column => .resolve (content t) line column
  | .resolveRange t i => .resolveRange (content t) i
  | .lineColumn t line column => .lineColumn (content t) line column
  | .toDiagnostic t i => .toDiagnostic (content t) i
  | .toDiagnostics t issues => .toDiagnostics (content t) issues

/-- The event with the texts in place of the objects that hold them. -/
def Event.bare : Event ι → Event Text
  | .ask q => .ask q.bare
  | .setUnit u => .setUnit u

/-- A host that makes a new mapper for every question, and keeps nothing but the unit. -/
def askAnew (u : OffsetUnit) : Event ι → OffsetUnit × List Answer
  | .ask q => (u, [(({ unit := u } : Mapper ι).answer q).1])
  | .setUnit u' => (u', [])

/-- Whatever was asked before, and of whatever objects, only the unit and the texts make a
difference to an answer. -/
theorem Sane.answer (h : m.Sane) (q : Question ι) :
    (m.answer q).1 = (({ unit := m.unit } : Mapper).answer q.bare).1 ∧
      (m.answer q).2.Sane ∧ (m.answer q).2.unit = m.unit := by
  -- Both mappers are sane, and a sane one answers from the text and not from what it remembers.
  have hbare : Sane ({ unit := m.unit } : Mapper) := sane_fresh m.unit
  cases q with
  | resolve t line column =>
    obtain ⟨hoffset, hafter⟩ := h.resolve t line column
    obtain ⟨hoffset', -⟩ := hbare.resolve (content t) line column
    exact ⟨congrArg Answer.offset (hoffset.trans hoffset'.symm), hafter⟩
  | resolveRange t i =>
    obtain ⟨hrange, hafter⟩ := h.resolveRange t i
    obtain ⟨hrange', -⟩ := hbare.resolveRange (content t) i
    exact ⟨congrArg Answer.range (hrange.trans hrange'.symm), hafter⟩
  | lineColumn t line column =>
    obtain ⟨hplace, hafter⟩ := h.lineColumn t line column
    obtain ⟨hplace', -⟩ := hbare.lineColumn (content t) line column
    exact ⟨congrArg (fun p : Nat × Nat => Answer.place p.1 p.2) (hplace.trans hplace'.symm), hafter⟩
  | toDiagnostic t i =>
    obtain ⟨hdiagnostic, hafter⟩ := h.toDiagnostic_eq t i
    obtain ⟨hdiagnostic', -⟩ := hbare.toDiagnostic_eq (content t) i
    exact ⟨congrArg Answer.diagnostic (hdiagnostic.trans hdiagnostic'.symm), hafter⟩
  | toDiagnostics t issues =>
    have hsingle : ∀ i ∈ issues, (({ unit := m.unit } : Mapper ι).toDiagnostic t i).1
        = (({ unit := m.unit } : Mapper).toDiagnostic (content t) i).1 := by
      intro i _
      obtain ⟨hdiagnostic, -⟩ := (sane_fresh m.unit).toDiagnostic_eq t i
      obtain ⟨hdiagnostic', -⟩ := hbare.toDiagnostic_eq (content t) i
      exact hdiagnostic.trans hdiagnostic'.symm
    have hall : (m.toDiagnostics t issues).1
        = (({ unit := m.unit } : Mapper).toDiagnostics (content t) issues).1 := by
      rw [h.toDiagnostics, hbare.toDiagnostics]
      exact List.map_congr_left hsingle
    exact ⟨congrArg Answer.diagnostics hall, h.after_toDiagnostics t issues⟩

/-- A sane mapper answers as a new one would. -/
theorem Sane.answer_eq_fresh (h : m.Sane) (q : Question ι) :
    (m.answer q).1 = (({ unit := m.unit } : Mapper ι).answer q).1 :=
  (h.answer q).1.trans ((sane_fresh m.unit).answer q).1.symm

/-- The memory of a mapper is never wrong, so that it keeps step with what asks anew. -/
theorem run_askAnew (h : m.Sane) (es : List (Event ι)) :
    ((Machine.run step m es).1.Sane ∧
        (Machine.run step m es).1.unit = (Machine.run askAnew m.unit es).1) ∧
      (Machine.run step m es).2 = (Machine.run askAnew m.unit es).2 := by
  have hstep : ∀ (m : Mapper ι) u (e : Event ι), m.Sane ∧ m.unit = u →
      ((m.step e).1.Sane ∧ (m.step e).1.unit = (askAnew u e).1) ∧
        (m.step e).2 = (askAnew u e).2 := by
    rintro m _ e ⟨hsane, rfl⟩
    cases e with
    | ask q => exact ⟨(hsane.answer q).2, congrArg (fun a => [a]) (hsane.answer_eq_fresh q)⟩
    | setUnit u => exact ⟨⟨hsane, rfl⟩, rfl⟩
  have hrun := Machine.run_map_eq (f := id) hstep ⟨h, rfl⟩ es
  rwa [List.map_id] at hrun

/-- Mappers that are told of the same texts by different objects give the same answers. -/
theorem run_bare (h : m.Sane) (es : List (Event ι)) :
    (Machine.run step m es).2
      = (Machine.run step ({ unit := m.unit } : Mapper) (es.map Event.bare)).2 := by
  -- What the two remember may differ, as one text can have two objects, but neither is ever wrong.
  have hstep : ∀ (m : Mapper ι) (m' : Mapper) (e : Event ι),
      m.Sane ∧ m'.Sane ∧ m.unit = m'.unit →
        ((m.step e).1.Sane ∧ (m'.step e.bare).1.Sane ∧
            (m.step e).1.unit = (m'.step e.bare).1.unit) ∧
          (m.step e).2 = (m'.step e.bare).2 := by
    rintro m m' e ⟨hsane, hsane', hunit⟩
    cases e with
    | ask q =>
      obtain ⟨hanswer, hafter, hkept⟩ := hsane.answer q
      obtain ⟨-, hafter', hkept'⟩ := hsane'.answer q.bare
      have hanswer' := hsane'.answer_eq_fresh q.bare
      rw [← hunit, ← hanswer] at hanswer'
      exact ⟨⟨hafter, hafter', hkept.trans (hunit.trans hkept'.symm)⟩,
        congrArg (fun a => [a]) hanswer'.symm⟩
    | setUnit u => exact ⟨⟨hsane, hsane', rfl⟩, rfl⟩
  exact (Machine.run_map_eq hstep ⟨h, sane_fresh m.unit, rfl⟩ es).2

/-- Whatever questions a mapper is asked, about whatever objects, and whenever its unit is changed:
it gives the answers that new mappers would give, one for each question, made with the unit that was
set last. The same holds of whatever it is asked next, and two objects that hold the same text are
as good as one. -/
theorem memory_is_invisible (u : OffsetUnit) (es : List (Event ι)) :
    let used := Machine.run step ({ unit := u } : Mapper ι) es
    used.2 = (Machine.run askAnew u es).2 ∧
      (∀ q, (used.1.answer q).1
        = (({ unit := (Machine.run askAnew u es).1 } : Mapper ι).answer q).1) ∧
      used.2 = (Machine.run step ({ unit := u } : Mapper) (es.map Event.bare)).2 := by
  intro used
  have hfresh : Sane ({ unit := u } : Mapper ι) := sane_fresh u
  obtain ⟨⟨hsane, hunit⟩, hanswers⟩ := run_askAnew hfresh es
  refine ⟨hanswers, fun q => ?_, run_bare hfresh es⟩
  have hnext := hsane.answer_eq_fresh q
  rwa [hunit] at hnext

end Mapper

end LiveLint
