import ParameterExpansion.Text

/-!
A template is a text seen as pieces: literal stretches and the bodies of expansions, which stand
between a dollar sign with an opening brace and the closing brace that balances it. Braces in a
body are counted and not interpreted. A text whose last expansion is never closed has the pieces
before it and the unclosed remainder.
-/
namespace ParameterExpansion

inductive Piece where
  | literal (text : Text)
  | expansion (body : Text)
  deriving DecidableEq, Repr

namespace Piece

/-- The piece in a text. -/
def render : Piece → Text
  | .literal t => t
  | .expansion body => '$' :: '{' :: body ++ ['}']

end Piece

structure Template where
  pieces : List Piece
  /-- What follows the dollar sign and the brace that nothing closes. -/
  unclosed : Option Text
  deriving DecidableEq, Repr

namespace Template

/-- The text up to the closing brace that brings the count of open braces below zero, and the
text after it; `depth` braces are open. -/
def splitBody (depth : Nat) : Text → Option (Text × Text)
  | [] => none
  | c :: rest =>
    if c = '}' then
      match depth with
      | 0 => some ([], rest)
      | depth + 1 => (splitBody depth rest).map fun (body, after) => (c :: body, after)
    else
      (splitBody (if c = '{' then depth + 1 else depth) rest).map fun (body, after) =>
        (c :: body, after)

/-- A body ends with a brace that it does not contain. -/
theorem splitBody_length {depth : Nat} {t body after : Text}
    (h : splitBody depth t = some (body, after)) : t.length = body.length + 1 + after.length := by
  induction t generalizing depth body after with
  | nil => simp [splitBody] at h
  | cons c rest ih =>
    unfold splitBody at h
    split at h
    · cases depth with
      | zero =>
        simp only [Option.some.injEq, Prod.mk.injEq] at h
        simp only [← h.1, ← h.2, List.length_cons, List.length_nil]
        omega
      | succ depth =>
        obtain ⟨⟨b, a⟩, hs, ha⟩ := Option.map_eq_some_iff.mp h
        have := ih hs
        simp only [Prod.mk.injEq] at ha
        simp only [← ha.1, ← ha.2, List.length_cons]
        omega
    · obtain ⟨⟨b, a⟩, hs, ha⟩ := Option.map_eq_some_iff.mp h
      have := ih hs
      simp only [Prod.mk.injEq] at ha
      simp only [← ha.1, ← ha.2, List.length_cons]
      omega

/-- The offset past the brace that closes a body which starts at offset `start`. -/
def bodyEnd (t : Text) (start : Nat) : Option Nat :=
  (splitBody 0 (t.drop start)).map fun (body, _) => start + body.length + 1

/-- The template with one more literal code point in front. -/
def consLiteral (c : Char) (template : Template) : Template :=
  match template.pieces with
  | .literal t :: pieces => { template with pieces := .literal (c :: t) :: pieces }
  | pieces => { template with pieces := .literal [c] :: pieces }

/-- The template with one more expansion in front. -/
def consExpansion (body : Text) (template : Template) : Template :=
  { template with pieces := .expansion body :: template.pieces }

/-- What follows a dollar sign and an opening brace, if the text begins with them. -/
def opening? : Text → Option Text
  | '$' :: '{' :: rest => some rest
  | _ => none

theorem opening?_length {t rest : Text} (h : opening? t = some rest) :
    t.length = rest.length + 2 := by
  unfold opening? at h
  split at h
  · simp only [Option.some.injEq] at h
    simp [← h]
  · simp at h

/-- The template that a text is. -/
def scan (t : Text) : Template :=
  match _ : opening? t with
  | some inside =>
    match _ : splitBody 0 inside with
    | none => ⟨[], some inside⟩
    | some (body, after) => consExpansion body (scan after)
  | none =>
    match t with
    | [] => ⟨[], none⟩
    | c :: rest => consLiteral c (scan rest)
termination_by t.length
decreasing_by
  · have := opening?_length ‹opening? t = some inside›
    have := splitBody_length ‹splitBody 0 inside = some (body, after)›
    omega
  · simp

/-- Whether some expansion begins in the text. -/
def hasOpening : Text → Bool
  | [] => false
  | c :: rest => (opening? (c :: rest)).isSome || hasOpening rest

/-- The text that pieces make up. -/
def renderPieces (pieces : List Piece) : Text :=
  pieces.flatMap Piece.render

/-- A piece and the place of its body in the text. -/
inductive Located where
  | literal (text : Text)
  | expansion (body : Extent)
  deriving DecidableEq, Repr

/-- The pieces of a text from offset `start` on, with the bodies of expansions as places. -/
def locate (start : Nat) : List Piece → List Located
  | [] => []
  | .literal t :: pieces => .literal t :: locate (start + t.length) pieces
  | .expansion body :: pieces =>
    .expansion ⟨start + 2, start + 2 + body.length⟩ :: locate (start + body.length + 3) pieces

end Template

end ParameterExpansion
