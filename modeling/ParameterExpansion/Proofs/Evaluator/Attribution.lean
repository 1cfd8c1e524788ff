import Mathlib.Data.List.Basic
import ParameterExpansion.Proofs.Evaluator.Divergence
import ParameterExpansion.Proofs.Expansion.Acceptance
import ParameterExpansion.Proofs.Expansion.Substring
import ParameterExpansion.Proofs.Operator.Effect

/-!
Which expansion of a text an error is about. A text fails where its first piece fails, or at the end
if an expansion is left open. That an expression is not supported is only ever found in reading it:
something is made of every value by every operator that a body can lead to, so the expression in the
error is the body of the first expansion that fails.
-/
namespace ParameterExpansion

/-! ### Bodies -/

namespace Expansion

/-- A body that is refused is malformed, has no name, or is not supported as a whole. -/
theorem error_of_parse {body : Text} {err : Error} (h : parse body = .error err) :
    (∃ why, err = .malformed why) ∨ err = .invalidName ∨ err = .unsupported body := by
  by_cases hsub : IsSubstring body
  · obtain ⟨indirect, name, t, rfl, hname, ht⟩ := hsub
    rw [parse_colon hname ht, map_eq_error_iff] at h
    have hbound : ∀ {bound t}, BoundError bound t err → ∃ why, err = .malformed why := by
      intro bound t hb
      cases hb with
      | nonNumeric => exact ⟨_, rfl⟩
      | outOfRange => exact ⟨_, rfl⟩
    cases readSubstring_eq_error_iff.mp h with
    | offset hb => exact .inl (hbound hb)
    | length _ _ hb => exact .inl (hbound hb)
    | behindOffset => exact .inr (.inr rfl)
    | behindLength => exact .inr (.inr rfl)
  · exact error_of_reads (reads_parse hsub) h

theorem eq_of_parse_unsupported {body expression : Text}
    (h : parse body = .error (.unsupported expression)) : expression = body := by
  rcases error_of_parse h with ⟨why, he⟩ | he | he
  · cases he
  · cases he
  · cases he
    rfl

end Expansion

/-! ### Evaluations -/

namespace Evaluator

open Template

variable (e : Evaluator)

/-- The evaluation comes to applying the operator to what is looked up, and the application has no
case for it. -/
def FallsThrough (op : Operator) (ref : Reference) : Prop :=
  op.kind ∉ e.disabled ∧ op.kind.toleratesMissing = false ∧
    ∃ value, e.lookup ref = .ok value ∧
      ∃ field operand, op.apply (value.getD []) = .error (Operator.noEffect op.kind field operand)

/-- In an evaluation nothing else is a reason for not supporting an expression. -/
theorem evaluate_unsupported_iff (op : Operator) (ref : Reference) :
    (∃ expression, (e.evaluate op ref).outcome = .error (.unsupported expression)) ↔
      e.FallsThrough op ref := by
  constructor
  · rintro ⟨expression, h⟩
    cases evaluate_eq_error_iff.mp h with
    | applied hd ht hr happly =>
      have hlookup : e.lookup ref = .ok (e.values.resolve ref) := by
        rw [lookup_eq, hr, if_neg Bool.false_ne_true]
      rcases Operator.error_of_apply happly with ⟨pattern, failure, he⟩ | ⟨-, field, operand, he⟩
      · cases he
      · exact ⟨hd, ht, _, hlookup, field, operand, he ▸ happly⟩
  · rintro ⟨hd, ht, value, hlookup, field, operand, happly⟩
    rw [lookup_eq] at hlookup
    split at hlookup
    · cases hlookup
    · rename_i hr
      cases hlookup
      exact ⟨_, evaluate_eq_error_iff.mpr (.applied hd ht (Bool.eq_false_iff.mpr hr) happly)⟩

/-- Every operator that a body can lead to is decided before the last case. -/
theorem not_fallsThrough_of_parse {body : Text} {expansion : Expansion}
    (h : Expansion.parse body = .ok expansion) : ¬e.FallsThrough expansion.op expansion.ref := by
  rintro ⟨-, ht, value, -, field, operand, happly⟩
  rcases Operator.error_of_apply happly with ⟨pattern, failure, he⟩ | ⟨hineffective, -⟩
  · cases he
  · exact (Expansion.wellFormed_of_parse h).2.not_ineffective ht hineffective

theorem expand_unsupported_iff {body expression : Text} :
    (e.expand body).outcome = .error (.unsupported expression) ↔
      Expansion.parse body = .error (.unsupported expression) := by
  rw [expand]
  cases hparse : Expansion.parse body with
  | error err =>
    constructor
    · intro h
      cases h
      rfl
    · intro h
      cases h
      rfl
  | ok expansion =>
    refine iff_of_false (fun h => ?_) (fun h => nomatch h)
    exact e.not_fallsThrough_of_parse hparse ((e.evaluate_unsupported_iff _ _).mp ⟨expression, h⟩)

/-! ### Texts -/

/-- Pieces fail with the error of the first one that does. -/
theorem expandPieces_eq_error_iff {pieces : List Piece} {err : Error} :
    (e.expandPieces pieces).outcome = .error err ↔
      ∃ front piece back, pieces = front ++ piece :: back ∧
        (∀ other ∈ front, ∃ s, (e.expandPiece other).outcome = .ok s) ∧
        (e.expandPiece piece).outcome = .error err := by
  constructor
  · intro h
    induction pieces with
    | nil => cases h
    | cons piece pieces ih =>
      rw [expandPieces, Run.andThen_eq_error_iff] at h
      rcases h with h | ⟨s, hs, h⟩
      · exact ⟨[], piece, pieces, rfl, List.forall_mem_nil _, h⟩
      · have hrest : (e.expandPieces pieces).outcome = .error err := by
          rcases Run.andThen_eq_error_iff.mp h with h | ⟨u, -, h⟩
          · exact h
          · cases h
        obtain ⟨front, other, back, rfl, hfront, hother⟩ := ih hrest
        exact ⟨piece :: front, other, back, rfl,
          List.forall_mem_cons.mpr ⟨⟨s, hs⟩, hfront⟩, hother⟩
  · rintro ⟨front, piece, back, rfl, hfront, hpiece⟩
    induction front with
    | nil => rw [List.nil_append, expandPieces, Run.andThen_of_error hpiece]
    | cons other front ih =>
      obtain ⟨⟨s, hs⟩, hfront⟩ := List.forall_mem_cons.mp hfront
      rw [List.cons_append, expandPieces]
      exact Run.andThen_eq_error_iff.mpr
        (.inr ⟨s, hs, Run.andThen_eq_error_iff.mpr (.inl (ih hfront))⟩)

theorem exists_expandPieces_iff {pieces : List Piece} :
    (∃ s, (e.expandPieces pieces).outcome = .ok s) ↔
      ∀ piece ∈ pieces, ∃ s, (e.expandPiece piece).outcome = .ok s := by
  constructor
  · rintro ⟨s, hs⟩
    exact exists_ok_of_mem hs
  · intro hall
    cases h : (e.expandPieces pieces).outcome with
    | ok s => exact ⟨s, rfl⟩
    | error err =>
      obtain ⟨front, piece, back, rfl, -, hpiece⟩ := e.expandPieces_eq_error_iff.mp h
      obtain ⟨s, hs⟩ := hall piece (List.mem_append_right front List.mem_cons_self)
      rw [hpiece] at hs
      cases hs

/-- A text fails with its first piece that does, or, behind pieces that all succeed, because an
expansion is left open. -/
theorem substitute_eq_error_iff {t : Text} {err : Error} :
    (e.substitute t).outcome = .error err ↔
      (∃ front piece back, (scan t).pieces = front ++ piece :: back ∧
        (∀ other ∈ front, ∃ s, (e.expandPiece other).outcome = .ok s) ∧
        (e.expandPiece piece).outcome = .error err) ∨
      (∀ piece ∈ (scan t).pieces, ∃ s, (e.expandPiece piece).outcome = .ok s) ∧
        (scan t).unclosed.isSome = true ∧ err = .unmatchedBrace := by
  rw [substitute_eq, expandTemplate, Run.andThen_eq_error_iff, expandPieces_eq_error_iff,
    ← exists_expandPieces_iff]
  refine or_congr_right ?_
  cases hu : (scan t).unclosed.isSome with
  | false =>
    refine iff_of_false ?_ fun h => Bool.false_ne_true h.2.1
    rintro ⟨s, -, h⟩
    cases h
  | true =>
    constructor
    · rintro ⟨s, hs, h⟩
      cases h
      exact ⟨⟨s, hs⟩, rfl, rfl⟩
    · rintro ⟨⟨s, hs⟩, -, rfl⟩
      exact ⟨s, hs, rfl⟩

/-- No evaluation of what a body is read as falls through to the last case, whatever the store holds
and whatever the modes are. So a text fails for an expression that is not supported exactly if that
is the body of its first expansion that fails, from an opening to the brace that balances it, and is
refused with this very error when it is read by itself. -/
theorem substitute_unsupported :
    (∀ body expansion, Expansion.parse body = .ok expansion →
      ¬e.FallsThrough expansion.op expansion.ref ∧ ∀ expression,
        (e.evaluate expansion.op expansion.ref).outcome ≠ .error (.unsupported expression)) ∧
    ∀ t expression, (e.substitute t).outcome = .error (.unsupported expression) ↔
      ∃ front back after, (scan t).pieces = front ++ .expansion expression :: back ∧
        t = renderPieces front ++ '$' :: '{' :: (expression ++ '}' :: after) ∧
        Balanced expression ∧
        (∀ piece ∈ front, ∃ s, (e.expandPiece piece).outcome = .ok s) ∧
        (e.expand expression).outcome = .error (.unsupported expression) ∧
        Expansion.parse expression = .error (.unsupported expression) := by
  refine ⟨fun body expansion hparse => ?_, fun t expression => ⟨fun h => ?_, ?_⟩⟩
  · have hcase := e.not_fallsThrough_of_parse hparse
    exact ⟨hcase, fun expression h => hcase ((e.evaluate_unsupported_iff _ _).mp ⟨expression, h⟩)⟩
  · obtain ⟨front, piece, back, hpieces, hfront, hpiece⟩ :=
      (e.substitute_eq_error_iff.mp h).resolve_right fun hopen => nomatch hopen.2.2
    cases piece with
    | literal s => cases hpiece
    | expansion body =>
      have hparse := e.expand_unsupported_iff.mp hpiece
      obtain rfl := Expansion.eq_of_parse_unsupported hparse
      obtain ⟨hbalanced, after, ht⟩ := text_of_pieces hpieces
      exact ⟨front, back, after, hpieces, ht, hbalanced, hfront, hpiece, hparse⟩
  · rintro ⟨front, back, after, hpieces, -, -, hfront, hexpand, -⟩
    exact e.substitute_eq_error_iff.mpr (.inl ⟨front, _, back, hpieces, hfront, hexpand⟩)

/-- A required value that is missing is reported before the expression that is not supported, and a
bad range comes behind it. -/
theorem substitute_unsupported_between :
    Expansion.parse "X@U".toList = .ok ⟨⟨['X'], false⟩, .transformation ['U']⟩ ∧
    ¬FallsThrough ⟨.empty, false, false, []⟩ (.transformation ['U']) ⟨['X'], false⟩ ∧
    (substitute ⟨.empty, false, false, []⟩
      "$\x7bN:?m\x7d\x7b$\x7bX@Ux\x7d$\x7bX//[z-a]/r\x7d$\x7b".toList).outcome =
        .error (.unsupported "X@Ux".toList) := by
  have hparse : Expansion.parse "X@U".toList = .ok ⟨⟨['X'], false⟩, .transformation ['U']⟩ := by
    decide +kernel
  have hbalanced : Balanced "X@Ux".toList := (splitBody_eq_some_iff.mp
    (rfl : splitBody 0 "X@Ux\x7d".toList = some ("X@Ux".toList, []))).2
  obtain ⟨hread, htext⟩ := substitute_unsupported ⟨.empty, false, false, []⟩
  refine ⟨hparse, (hread _ _ hparse).1, (htext _ _).mpr
    ⟨[.expansion "N:?m".toList, .literal ['{']], [.expansion "X//[z-a]/r".toList],
      "$\x7bX//[z-a]/r\x7d$\x7b".toList, by decide +kernel, by decide, hbalanced, ?_,
      by decide +kernel, by decide +kernel⟩⟩
  intro piece hmem
  rcases List.mem_cons.mp hmem with rfl | hmem
  · exact ⟨[], by decide +kernel⟩
  · obtain rfl := List.mem_singleton.mp hmem
    exact ⟨['{'], rfl⟩

end Evaluator

end ParameterExpansion
