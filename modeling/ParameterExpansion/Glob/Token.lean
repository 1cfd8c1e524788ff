import ParameterExpansion.Text

/-!
Wildcard patterns as tokens. A star is any run of code points, a question mark any one, brackets
one of those between them, or, after an exclamation mark, one of all others; everything else
stands for itself. A closing bracket right after the opening one is a member, and a bracket that
nothing closes stands for itself.
-/
namespace ParameterExpansion.Glob

inductive Token where
  | literal (char : Char)
  | anyChar
  | anyRun
  | charClass (negated : Bool) (members : Text)
  deriving DecidableEq, Repr

/-- The token in a pattern. -/
def Token.render : Token → Text
  | .literal c => [c]
  | .anyChar => ['?']
  | .anyRun => ['*']
  | .charClass negated members =>
    '[' :: (if negated then ['!'] else []) ++ members ++ [']']

/-- The pattern that tokens make up. -/
def render (tokens : List Token) : Text :=
  tokens.flatMap Token.render

/-- The text up to the first closing bracket, and the text after that. -/
def splitClosing : Text → Option (Text × Text)
  | [] => none
  | c :: rest =>
    if c = ']' then
      some ([], rest)
    else
      (splitClosing rest).map fun (members, after) => (c :: members, after)

/-- The members of a class and the text after it. There is at least one member, so a closing
bracket in front is one. -/
def splitMembers : Text → Option (Text × Text)
  | ']' :: rest => (splitClosing rest).map fun (members, after) => (']' :: members, after)
  | t => splitClosing t

/-- The class whose opening bracket stands before the text, and the text after it. -/
def readClass : Text → Option (Token × Text)
  | '!' :: rest => (splitMembers rest).map fun (members, after) => (.charClass true members, after)
  | t => (splitMembers t).map fun (members, after) => (.charClass false members, after)

/-- The token that begins with `c` and goes on in `rest`, and the text after it. -/
def readToken (c : Char) (rest : Text) : Token × Text :=
  if c = '*' then (.anyRun, rest)
  else if c = '?' then (.anyChar, rest)
  else if c = '[' then (readClass rest).getD (.literal '[', rest)
  else (.literal c, rest)

theorem splitClosing_length {t members after : Text} (h : splitClosing t = some (members, after)) :
    after.length < t.length := by
  induction t generalizing members after with
  | nil => simp [splitClosing] at h
  | cons c rest ih =>
    unfold splitClosing at h
    split at h
    · simp only [Option.some.injEq, Prod.mk.injEq] at h
      simp [← h.2]
    · obtain ⟨⟨m, a⟩, hs, ha⟩ := Option.map_eq_some_iff.mp h
      have := ih hs
      simp only [Prod.mk.injEq] at ha
      rw [← ha.2]
      exact Nat.lt_succ_of_lt this

theorem splitMembers_length {t members after : Text} (h : splitMembers t = some (members, after)) :
    after.length < t.length := by
  unfold splitMembers at h
  split at h
  · obtain ⟨⟨m, a⟩, hs, ha⟩ := Option.map_eq_some_iff.mp h
    simp only [Prod.mk.injEq] at ha
    rw [← ha.2]
    exact Nat.lt_succ_of_lt (splitClosing_length hs)
  · exact splitClosing_length h

theorem readClass_length {t after : Text} {token : Token} (h : readClass t = some (token, after)) :
    after.length < t.length := by
  unfold readClass at h
  split at h
  · obtain ⟨⟨m, a⟩, hs, ha⟩ := Option.map_eq_some_iff.mp h
    simp only [Prod.mk.injEq] at ha
    rw [← ha.2]
    exact Nat.lt_succ_of_lt (splitMembers_length hs)
  · obtain ⟨⟨m, a⟩, hs, ha⟩ := Option.map_eq_some_iff.mp h
    simp only [Prod.mk.injEq] at ha
    rw [← ha.2]
    exact splitMembers_length hs

/-- A token consumes at least its first code point. -/
theorem readToken_length (c : Char) (rest : Text) :
    (readToken c rest).2.length ≤ rest.length := by
  unfold readToken
  split
  · exact Nat.le_refl _
  split
  · exact Nat.le_refl _
  split
  · cases h : readClass rest with
    | none => exact Nat.le_refl _
    | some read => exact Nat.le_of_lt (readClass_length h)
  · exact Nat.le_refl _

/-- The tokens of a pattern. -/
def tokenize : Text → List Token
  | [] => []
  | c :: rest => (readToken c rest).1 :: tokenize (readToken c rest).2
termination_by t => t.length
decreasing_by
  have := readToken_length c rest
  simp only [List.length_cons]
  omega

end ParameterExpansion.Glob
