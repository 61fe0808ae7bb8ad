import InsertPivot.Command.Arguments
import InsertPivot.Proofs.Run

/-!
# What accepted arguments ask for

An invocation that writes back has a file to write to and prints no trees: the arguments are refused otherwise.

Whether trees are printed is a matter of one argument. Arguments that ask for a conversion ask for its trees when
`--emit-ast` stands behind the command as well, and for all else they asked for before. An option that takes a value
may not have got it yet where a later argument is taken, so this is said of one place only.
-/

namespace InsertPivot.Command

/-! ## What has to be asked -/

namespace Taken

end Taken

namespace Taken

/-- What has been taken when the first argument was `--emit-ast`. -/
def withTrees (t : Taken) : Taken :=
  { t with switches := .emitTrees :: t.switches }

/-- Whether a step takes the same behind `--emit-ast`, as long as it is not given once more. -/
def Steady (step : Taken → Except Stop Taken) : Prop :=
  ∀ t u, step t = .ok u → .emitTrees ∉ u.switches → .emitTrees ∉ t.switches ∧ step t.withTrees = .ok u.withTrees

variable {step next : Taken → Except Stop Taken}

/-- Steps behind each other are steady if both are. -/
theorem Steady.bind (hstep : Steady step) (hnext : Steady next) : Steady fun t => step t >>= next := by
  intro t u h hnot
  obtain ⟨m, hm, hu⟩ := Sql.except_bind_eq_ok_iff.mp h
  obtain ⟨hnot, hu⟩ := hnext m u hu hnot
  obtain ⟨hnot, hm⟩ := hstep t m hm hnot
  refine ⟨hnot, ?_⟩
  show step t.withTrees >>= next = _
  rw [hm, Sql.except_ok_bind, hu]

end Taken

end InsertPivot.Command
