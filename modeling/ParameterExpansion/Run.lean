import ParameterExpansion.Error

/-!
A run is an outcome together with the reports made on the way to it, in order. Runs are chained:
a failure keeps the reports before it and nothing follows it.
-/
namespace ParameterExpansion

structure Run (α : Type) where
  outcome : Except Error α
  reports : List Text
  deriving Repr

namespace Run

def ofExcept (outcome : Except Error α) : Run α := ⟨outcome, []⟩

def fail (e : Error) : Run α := ⟨.error e, []⟩

/-- Make a report and go on with a result. -/
def report (message : Text) (result : α) : Run α := ⟨.ok result, [message]⟩

/-- Go on from the result of a run, if it has one. -/
def andThen (x : Run α) (f : α → Run β) : Run β :=
  match x.outcome with
  | .error e => ⟨.error e, x.reports⟩
  | .ok a => ⟨(f a).outcome, x.reports ++ (f a).reports⟩

instance : Monad Run where
  pure a := ofExcept (.ok a)
  bind := andThen

end Run

end ParameterExpansion
