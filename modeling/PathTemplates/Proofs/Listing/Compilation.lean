import PathTemplates.Crumb.Join
import PathTemplates.Proofs.Crumb.Compilation
import PathTemplates.Proofs.Outcome

namespace PathTemplates

theorem Plan.compile_eq_ok (p : Plan) : p.compile = .ok () :=
  forM_eq_ok.2 fun k _ => k.compile_eq_ok

namespace Crumb

/-- The expressions of all components are in order, so that a listing has nothing to complain about
but its targets. -/
theorem completions?_eq (fs : FileSystem) (c : Crumb) (extent : Extent) :
    c.completions? fs extent = .ok (c.completions fs extent) := by
  unfold completions? completions
  split
  · rfl
  · next p _ =>
    rw [p.compile_eq_ok]
    rfl

theorem unfoldValues?_eq (fs : FileSystem) (c : Crumb) :
    c.unfoldValues? fs = .ok (c.unfoldValues fs) :=
  completions?_eq fs c .all

theorem valuesOver?_eq (fs : FileSystem) (c : Crumb) (names : List Text) :
    c.valuesOver? fs names = .ok (c.valuesOver fs names) := by
  rw [valuesOver?, unfoldValues?_eq]
  rfl

theorem unfold_eq_replaceEach (fs : FileSystem) (c : Crumb) :
    c.unfold fs = c.replaceEach (c.unfoldValues fs) := by
  rw [unfold, unfoldValues?_eq]
  rfl

end Crumb

end PathTemplates
