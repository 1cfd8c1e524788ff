import ParameterExpansion.Text.Cursor
import ParameterExpansion.Error.Complaint
import ParameterExpansion.Glob.Matches
import ParameterExpansion.Template.WellFormed
import ParameterExpansion.Session
import ParameterExpansion.Proofs.Glob.Semantics
import ParameterExpansion.Proofs.Template.Balance
import ParameterExpansion.Proofs.Template.Scan
import ParameterExpansion.Proofs.Evaluator.Substitution
import ParameterExpansion.Proofs.Evaluator.Concatenation
import ParameterExpansion.Proofs.Expansion.RoundTrip
import ParameterExpansion.Proofs.Regex.Preference
import ParameterExpansion.Proofs.Glob.Reach
import ParameterExpansion.Proofs.Operator.Pattern
import ParameterExpansion.Proofs.Evaluator.Divergence
import ParameterExpansion.Proofs.Evaluator.Evaluation
import ParameterExpansion.Proofs.Evaluator.Strictness
import ParameterExpansion.Proofs.Evaluator.Reporting
import ParameterExpansion.Proofs.Evaluator.Policy
import ParameterExpansion.Proofs.Evaluator.Noninterference
import ParameterExpansion.Proofs.Session.Inquiry
import ParameterExpansion.Proofs.Session.Provenance
import ParameterExpansion.Proofs.Evaluator.Interception
import ParameterExpansion.Proofs.Regex.Stretch
import ParameterExpansion.Proofs.Glob.Extents
import ParameterExpansion.Proofs.Operator.Removal
import ParameterExpansion.Proofs.Operator.Conversion
import ParameterExpansion.Proofs.Glob.Rendering
import ParameterExpansion.Proofs.Expansion.Substring
import ParameterExpansion.Proofs.Expansion.Acceptance
import ParameterExpansion.Proofs.Operator.Substring
import ParameterExpansion.Proofs.Casing.Lowercase
import ParameterExpansion.Proofs.Operator.LetterCase
import ParameterExpansion.Proofs.Operator.Replacement
import ParameterExpansion.Proofs.Template.BodyEnd
import ParameterExpansion.Proofs.Text.Cursor
import ParameterExpansion.Proofs.Evaluator.Attribution
import ParameterExpansion.Proofs.Evaluator.Failure
