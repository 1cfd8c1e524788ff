import ParameterExpansion.Glob.Token
import ParameterExpansion.Regex.Basic

/-!
What a wildcard pattern matches, token by token, without regard to how it is compiled. A text is
matched if it falls into one stretch for each token, in order.
-/
namespace ParameterExpansion.Glob

/-- The intervals that members stand for: a hyphen between two members makes a range of them, and
every other member stands alone. -/
def intervals : Text → List Regex.Interval
  | [] => []
  | first :: '-' :: last :: rest => ⟨first, last⟩ :: intervals rest
  | c :: rest => ⟨c, c⟩ :: intervals rest

/-- The code points that a class is for. A circumflex in front negates a class that no
exclamation mark negates. -/
def classSet : Bool → Text → Regex.CharSet
  | false, '^' :: members => ⟨true, intervals members⟩
  | negated, members => ⟨negated, intervals members⟩

/-- A class is ordered if none of its ranges ends before it begins. -/
def Token.Ordered : Token → Prop
  | .charClass negated members => ∀ i ∈ (classSet negated members).intervals, i.first ≤ i.last
  | _ => True

end ParameterExpansion.Glob
