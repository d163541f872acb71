/-!
# Precedence modes

How far an operator that binds less tightly climbs out of the chains that
tighter operators have opened.
-/

namespace Formulary

/-- The reach of an operator that binds less tightly than the one before it. -/
inductive Precedence where
  /-- The operator reaches the outermost chain that binds no less tightly. -/
  | climbing
  /-- The operator reaches the next outer chain only. -/
  | singleLevel
deriving DecidableEq

instance : Inhabited Precedence :=
  ⟨.climbing⟩

end Formulary
