import ParameterExpansion.Regex.Basic
import ParameterExpansion.Regex.Failure

/-!
Reading a regular expression from its text. Outside a set a dot is any code point, a dot with a
star a run, a backslash before `Z` the end of the text, before anything else that code point.
Inside a set the first code point is a member whatever it is, a hyphen between two members makes a
range, and a backslash makes the next code point a member, which no letter may be.
-/
namespace ParameterExpansion.Regex

/-- A failure before it is known in which text: its cause and its position. -/
abbrev Fault := FailureCause × Nat

/-- A member of a set as it stands in the text: the code point that it means, how it is written,
and where. -/
structure Member where
  char : Char
  written : Text
  pos : Nat
  deriving DecidableEq, Repr

def Member.single (m : Member) : Interval :=
  ⟨m.char, m.char⟩

/-- How far a set has been read, apart from its finished intervals. -/
inductive SetState where
  /-- Nothing has been read, so that a closing bracket is a member. -/
  | opened
  /-- The last interval is finished. -/
  | finished
  /-- A member has been read that a hyphen may make the first of a range. -/
  | pending (first : Member)
  /-- A member and a hyphen have been read. -/
  | hyphen (first : Member)
  deriving DecidableEq, Repr

/-- Take in one member: the intervals that it finishes, and the state after it. -/
def SetState.take (m : Member) : SetState → Except Fault (List Interval × SetState)
  | .opened => .ok ([], .pending m)
  | .finished => .ok ([], .pending m)
  | .pending first =>
    if m.written = ['-'] then .ok ([], .hyphen first) else .ok ([first.single], .pending m)
  | .hyphen first =>
    if m.char < first.char then
      .error (.badRange first.written m.written, first.pos)
    else
      .ok ([⟨first.char, m.char⟩], .finished)

/-- The intervals that a closing bracket finishes, or nothing where the bracket is a member. -/
def SetState.close? : SetState → Option (List Interval)
  | .opened => none
  | .finished => some []
  | .pending first => some [first.single]
  | .hyphen first => some [first.single, ⟨'-', '-'⟩]

/-- What is left of a set whose bracket opened at offset `start`, read from offset `pos` on: its
intervals and the text after its closing bracket. -/
def readSet (start : Nat) : SetState → Nat → Text → Except Fault (List Interval × Text)
  | _, _, [] => .error (.unterminatedSet, start)
  | state, pos, '\\' :: c :: rest =>
    if c.isAlpha then
      .error (.badEscape c, pos)
    else
      match state.take ⟨c, ['\\', c], pos⟩ with
      | .error fault => .error fault
      | .ok (finished, next) =>
        (readSet start next (pos + 2) rest).map fun (intervals, after) =>
          (finished ++ intervals, after)
  | state, pos, c :: rest =>
    match if c = ']' then state.close? else none with
    | some finished => .ok (finished, rest)
    | none =>
      match state.take ⟨c, [c], pos⟩ with
      | .error fault => .error fault
      | .ok (finished, next) =>
        (readSet start next (pos + 1) rest).map fun (intervals, after) =>
          (finished ++ intervals, after)

/-- A mapped outcome that succeeds comes from one that does. -/
theorem exists_of_map_eq_ok {f : α → β} {x : Except ε α} {b : β} (h : x.map f = .ok b) :
    ∃ a, x = .ok a ∧ f a = b := by
  cases x with
  | error e => cases h
  | ok a => exact ⟨a, rfl, Except.ok.inj h⟩

/-- A set consumes at least its closing bracket. -/
theorem readSet_length {start pos : Nat} {state : SetState} {t after : Text}
    {intervals : List Interval} (h : readSet start state pos t = .ok (intervals, after)) :
    after.length < t.length := by
  fun_induction readSet start state pos t generalizing intervals after with
  | case1 => cases h
  | case2 => cases h
  | case3 => cases h
  | case4 state pos c rest _ finished next _ ih =>
    obtain ⟨read, hr, hf⟩ := exists_of_map_eq_ok h
    obtain ⟨rfl, rfl⟩ := Prod.mk.inj hf
    have := ih hr
    simp only [List.length_cons]
    omega
  | case5 state pos c rest =>
    obtain ⟨rfl, rfl⟩ := Prod.mk.inj (Except.ok.inj h)
    exact Nat.lt_succ_self _
  | case6 => cases h
  | case7 state pos c rest _ _ finished next _ ih =>
    obtain ⟨read, hr, hf⟩ := exists_of_map_eq_ok h
    obtain ⟨rfl, rfl⟩ := Prod.mk.inj hf
    exact Nat.lt_succ_of_lt (ih hr)

/-- A circumflex right after the opening bracket negates the set. -/
def splitNegation : Text → Bool × Text
  | '^' :: rest => (true, rest)
  | rest => (false, rest)

theorem splitNegation_length (t : Text) : (splitNegation t).2.length ≤ t.length := by
  unfold splitNegation
  split <;> simp

/-- The set whose opening bracket stands at offset `pos` before the text. -/
def readBracket (pos : Nat) (t : Text) : Except Fault (Item × Text) :=
  let inside := (splitNegation t).2
  (readSet pos .opened (pos + 1 + (t.length - inside.length)) inside).map
    fun (intervals, after) => (.one (.oneOf ⟨(splitNegation t).1, intervals⟩), after)

/-- The item that a dot begins, and the text after it. -/
def readDot : Text → Item × Text
  | '*' :: '?' :: rest => (.run .shortest, rest)
  | '*' :: rest => (.run .longest, rest)
  | rest => (.one .any, rest)

/-- The item that a backslash begins, and the text after it. -/
def readEscape : Text → Item × Text
  | [] => (.one (.char '\\'), [])
  | c :: rest => (if c = 'Z' then .textEnd else .one (.char c), rest)

/-- The item that begins with `c` at offset `pos` and goes on in `rest`, and the text after it. -/
def readItem (pos : Nat) (c : Char) (rest : Text) : Except Fault (Item × Text) :=
  if c = '.' then .ok (readDot rest)
  else if c = '\\' then .ok (readEscape rest)
  else if c = '[' then readBracket pos rest
  else if c = '^' then .ok (.textStart, rest)
  else .ok (.one (.char c), rest)

theorem readDot_length (rest : Text) : (readDot rest).2.length ≤ rest.length := by
  unfold readDot
  split
  · simp only [List.length_cons]
    omega
  · exact Nat.le_succ _
  · exact Nat.le_refl _

theorem readEscape_length (rest : Text) : (readEscape rest).2.length ≤ rest.length := by
  cases rest with
  | nil => exact Nat.le_refl _
  | cons c rest => exact Nat.le_succ _

theorem readBracket_length {pos : Nat} {rest after : Text} {item : Item}
    (h : readBracket pos rest = .ok (item, after)) : after.length ≤ rest.length := by
  obtain ⟨read, hr, hf⟩ := exists_of_map_eq_ok h
  obtain ⟨rfl, rfl⟩ := Prod.mk.inj hf
  exact Nat.le_trans (Nat.le_of_lt (readSet_length hr)) (splitNegation_length rest)

/-- An item consumes at least its first code point. -/
theorem readItem_length {pos : Nat} {c : Char} {rest after : Text} {item : Item}
    (h : readItem pos c rest = .ok (item, after)) : after.length ≤ rest.length := by
  unfold readItem at h
  split at h
  · have he : (readDot rest).2 = after := congrArg Prod.snd (Except.ok.inj h)
    rw [← he]
    exact readDot_length rest
  split at h
  · have he : (readEscape rest).2 = after := congrArg Prod.snd (Except.ok.inj h)
    rw [← he]
    exact readEscape_length rest
  split at h
  · exact readBracket_length h
  split at h
  · obtain ⟨rfl, rfl⟩ := Prod.mk.inj (Except.ok.inj h)
    exact Nat.le_refl _
  · obtain ⟨rfl, rfl⟩ := Prod.mk.inj (Except.ok.inj h)
    exact Nat.le_refl _

/-- The items of a text that stands at offset `pos` of the whole. -/
def readItems (pos : Nat) : Text → Except Fault (List Item)
  | [] => .ok []
  | c :: rest =>
    match h : readItem pos c rest with
    | .error fault => .error fault
    | .ok (item, after) =>
      (readItems (pos + (rest.length + 1 - after.length)) after).map (item :: ·)
termination_by t => t.length
decreasing_by
  have := readItem_length h
  simp only [List.length_cons]
  omega

/-- The regular expression that a text is the source of. -/
def read (source : Text) : Except Failure Regex :=
  match readItems 0 source with
  | .error (cause, position) => .error ⟨source, position, cause⟩
  | .ok items => .ok ⟨source, items⟩

end ParameterExpansion.Regex
