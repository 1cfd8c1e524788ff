import Mathlib.Data.List.Basic
import ParameterExpansion.Proofs.Text.Lexeme
import ParameterExpansion.Proofs.Text.Slice
import ParameterExpansion.Text.Cursor

/-!
A cursor that is not sent back reads a text without gaps. Every request takes the stretch between
the position before it and the position after it, so what a run of requests takes is the stretch
between its ends, with no code point left out and none read twice. A request that fails, or only
looks, does not move the cursor.
-/
namespace ParameterExpansion

/-- A lexeme is part of the text that it begins. -/
theorem Lexeme.lengthAt_le {lexeme : Lexeme} {before after : Text} {n : Nat}
    (h : lexeme.lengthAt before after = some n) : n ≤ after.length := by
  cases lexeme with
  | name =>
    obtain ⟨⟨name, rest⟩, hs, rfl⟩ := Option.map_eq_some_iff.mp h
    rw [(splitName_eq_some_iff.mp hs).2.1, List.length_append]
    exact Nat.le_add_right _ _
  | integer =>
    cases h
    have hlength := congrArg List.length (splitInteger_eq after)
    rw [List.length_append] at hlength
    omega
  | slash =>
    simp only [lengthAt] at h
    split at h
    · rename_i hslash
      obtain ⟨rest, rfl⟩ := List.head?_eq_some_iff.mp hslash.1
      cases h
      exact Nat.le_add_left _ _
    · cases h

namespace Cursor

namespace Move

/-- The request neither goes back nor sets a position. -/
def isForward : Move → Bool
  | .advance count => 0 ≤ count
  | .seek _ => false
  | _ => true

/-- What a request takes from the text, told by its answer. -/
def taken (text : Text) : Move → Sight → Text
  | .advance _, .read t => t
  | .rest, .read t => t
  | .attempt literal, .flag true => literal
  | .accept _, .found (some extent) => text.slice extent.start extent.stop
  | _, _ => []

/-- The request only looks, or its answer is that what it asks for is not there. -/
inductive Idle : Move → Sight → Prop where
  | peek (sight : Sight) : Idle .peek sight
  | done (sight : Sight) : Idle .done sight
  | refused (literal : Text) : Idle (.attempt literal) (.flag false)
  | missing (lexeme : Lexeme) : Idle (.accept lexeme) (.found none)

end Move

/-- One cursor is behind another over the same text, and `t` is what stands between them. -/
structure Reads (c c' : Cursor) (t : Text) : Prop where
  text : c'.text = c.text
  forward : c.pos ≤ c'.pos
  within : c'.pos ≤ c.text.length
  stretch : t = c.text.slice c.pos c'.pos

theorem Reads.refl {c : Cursor} (h : c.pos ≤ c.text.length) : c.Reads c [] :=
  ⟨rfl, Nat.le_refl _, h, ((Text.slice_eq_nil_iff h).mpr (Nat.le_refl _)).symm⟩

theorem Reads.trans {c c' c'' : Cursor} {t u : Text} (h : c.Reads c' t) (h' : c'.Reads c'' u) :
    c.Reads c'' (t ++ u) where
  text := h'.text.trans h.text
  forward := Nat.le_trans h.forward h'.forward
  within := h.text ▸ h'.within
  stretch := by
    rw [h.stretch, h'.stretch, h.text]
    exact Text.slice_append _ h.forward h'.forward

/-! ### One request -/

section Step

variable {c : Cursor}

theorem reads_advance (hc : c.pos ≤ c.text.length) {count : Int} (hcount : 0 ≤ count) :
    c.Reads (c.advance count).2 (c.advance count).1 where
  text := rfl
  forward := by
    change c.pos ≤ min c.text.length (c.pos + count).toNat
    omega
  within := Nat.min_le_left _ _
  stretch := rfl

theorem reads_attempt {literal : Text} {c' : Cursor} (h : c.attempt literal = (true, c')) :
    c.Reads c' literal := by
  unfold attempt at h
  split at h
  · rename_i hliteral
    cases h
    obtain ⟨rest, hrest⟩ := List.isPrefixOf_iff_prefix.mp hliteral.2
    have hstretch : c.text.slice c.pos (c.pos + literal.length) = literal := by
      rw [Text.slice, List.drop_take, ← remaining, ← hrest, Nat.add_sub_cancel_left,
        List.take_left]
    have hlength := congrArg List.length hrest
    rw [remaining, List.length_append, List.length_drop] at hlength
    have hwithin : c.pos + literal.length ≤ c.text.length := by
      have hin := hliteral.1
      omega
    exact ⟨rfl, Nat.le_add_right _ _, hwithin, hstretch.symm⟩
  · cases h

theorem reads_accept (hc : c.pos ≤ c.text.length) {lexeme : Lexeme} {extent : Extent}
    {c' : Cursor} (h : c.accept lexeme = (some extent, c')) :
    c.Reads c' (c.text.slice extent.start extent.stop) := by
  simp only [accept, Nat.min_eq_left hc] at h
  split at h
  · cases h
  · rename_i n hn
    cases h
    have hle := Lexeme.lengthAt_le hn
    rw [List.length_drop] at hle
    have hwithin : c.pos + n ≤ c.text.length := by omega
    exact ⟨rfl, Nat.le_add_right _ _, hwithin, rfl⟩

theorem reads_rest (hc : c.pos ≤ c.text.length) : c.Reads c.rest.2 c.rest.1 :=
  ⟨rfl, hc, Nat.le_refl _, (Text.slice_length c.text c.pos).symm⟩

theorem eq_of_attempt {literal : Text} {c' : Cursor} (h : c.attempt literal = (false, c')) :
    c' = c := by
  unfold attempt at h
  split at h
  · cases h
  · cases h
    rfl

theorem eq_of_accept {lexeme : Lexeme} {c' : Cursor} (h : c.accept lexeme = (none, c')) :
    c' = c := by
  simp only [accept] at h
  split at h
  · cases h
    rfl
  · cases h

/-- A request that fails or only looks leaves the cursor as it is. -/
theorem perform_of_idle {m : Move} (h : m.Idle (c.perform m).1) : (c.perform m).2 = c := by
  cases m with
  | peek => rfl
  | done => rfl
  | attempt literal =>
    cases ha : c.attempt literal with
    | mk ok c' =>
      simp only [perform, ha] at h ⊢
      cases h
      exact eq_of_attempt ha
  | accept lexeme =>
    cases ha : c.accept lexeme with
    | mk extent c' =>
      simp only [perform, ha] at h ⊢
      cases h
      exact eq_of_accept ha
  | advance count => cases h
  | rest => cases h
  | seek pos => cases h

/-- A request takes what stands between the positions before and after it. -/
theorem reads_perform (hc : c.pos ≤ c.text.length) {m : Move} (hm : m.isForward = true) :
    c.Reads (c.perform m).2 (m.taken c.text (c.perform m).1) := by
  cases m with
  | peek => exact .refl hc
  | done => exact .refl hc
  | advance count => exact reads_advance hc (of_decide_eq_true hm)
  | attempt literal =>
    cases ha : c.attempt literal with
    | mk ok c' =>
      simp only [perform, ha]
      cases ok with
      | true => exact reads_attempt ha
      | false =>
        rw [eq_of_attempt ha]
        exact .refl hc
  | accept lexeme =>
    cases ha : c.accept lexeme with
    | mk extent c' =>
      simp only [perform, ha]
      cases extent with
      | some extent => exact reads_accept hc ha
      | none =>
        rw [eq_of_accept ha]
        exact .refl hc
  | rest => exact reads_rest hc
  | seek pos => cases hm

end Step

/-! ### Runs of requests -/

/-- The position at which a run begins, and the one after each of its requests. -/
def positions (c : Cursor) (moves : List Move) : List Nat :=
  c.pos :: (c.performAll moves).map Prod.snd

/-- What the requests of a run take from a text, told by their answers. -/
def takenBy (text : Text) (moves : List Move) (answers : List (Sight × Nat)) : Text :=
  (List.zipWith (fun m answer => m.taken text answer.1) moves answers).flatten

/-- The cursor that a run ends with. -/
def after (c : Cursor) (moves : List Move) : Cursor :=
  moves.foldl (fun c m => (c.perform m).2) c

theorem positions_cons (c : Cursor) (m : Move) (moves : List Move) :
    c.positions (m :: moves) = c.pos :: (c.perform m).2.positions moves := rfl

theorem takenBy_cons (text : Text) (c : Cursor) (m : Move) (moves : List Move) :
    takenBy text (m :: moves) (c.performAll (m :: moves)) =
      m.taken text (c.perform m).1 ++ takenBy text moves ((c.perform m).2.performAll moves) := rfl

theorem getLast?_positions (c : Cursor) (moves : List Move) :
    (c.positions moves).getLast? = some (c.after moves).pos := by
  induction moves generalizing c with
  | nil => rfl
  | cons m moves ih =>
    rw [positions_cons, List.getLast?_cons, ih]
    rfl

variable {c : Cursor} {moves : List Move}

/-- A run takes what stands between its ends. -/
theorem reads_after (hc : c.pos ≤ c.text.length) (hm : ∀ m ∈ moves, m.isForward = true) :
    c.Reads (c.after moves) (takenBy c.text moves (c.performAll moves)) := by
  induction moves generalizing c with
  | nil => exact .refl hc
  | cons m moves ih =>
    obtain ⟨hm, hmoves⟩ := List.forall_mem_cons.mp hm
    have hstep := reads_perform hc hm
    have hrun := ih (c := (c.perform m).2) (hstep.text ▸ hstep.within) hmoves
    rw [takenBy_cons]
    rw [hstep.text] at hrun
    exact hstep.trans hrun

/-- Positions grow along a run, and stay within the text. -/
theorem positions_ordered (hc : c.pos ≤ c.text.length) (hm : ∀ m ∈ moves, m.isForward = true) :
    (c.positions moves).Pairwise (· ≤ ·) ∧ ∀ p ∈ c.positions moves, p ≤ c.text.length := by
  induction moves generalizing c with
  | nil => exact ⟨List.pairwise_singleton _ _, fun p hp => List.mem_singleton.mp hp ▸ hc⟩
  | cons m moves ih =>
    obtain ⟨hm, hmoves⟩ := List.forall_mem_cons.mp hm
    have hstep := reads_perform hc hm
    obtain ⟨hsorted, hbound⟩ := ih (c := (c.perform m).2) (hstep.text ▸ hstep.within) hmoves
    rw [hstep.text] at hbound
    rw [positions_cons]
    refine ⟨List.pairwise_cons.mpr ⟨fun p hp => Nat.le_trans hstep.forward ?_, hsorted⟩,
      List.forall_mem_cons.mpr ⟨hc, hbound⟩⟩
    rcases List.mem_cons.mp hp with rfl | hp
    · exact Nat.le_refl _
    · exact (List.pairwise_cons.mp hsorted).1 p hp

/-- Where the answer to a request is that nothing was taken, the position stays. -/
theorem positions_of_idle {i p : Nat} {m : Move} {sight : Sight} (hi : moves[i]? = some m)
    (ha : (c.performAll moves)[i]? = some (sight, p)) (h : m.Idle sight) :
    (c.positions moves)[i]? = some p := by
  induction moves generalizing c i with
  | nil => cases hi
  | cons next moves ih =>
    cases i with
    | zero =>
      obtain rfl := Option.some.inj hi
      have hanswer : ((c.perform next).1, (c.perform next).2.pos) = (sight, p) := Option.some.inj ha
      obtain ⟨hsight, hpos⟩ := Prod.mk.inj hanswer
      rw [← hpos, perform_of_idle (hsight ▸ h)]
      rfl
    | succ i => exact ih (c := (c.perform next).2) hi ha

/-- Once everything that is left has been asked for, a run ends with the text. -/
theorem pos_after_of_rest (hc : c.pos ≤ c.text.length) (hm : ∀ m ∈ moves, m.isForward = true)
    (h : .rest ∈ moves) : (c.after moves).pos = c.text.length := by
  induction moves generalizing c with
  | nil => cases h
  | cons m moves ih =>
    obtain ⟨hm, hmoves⟩ := List.forall_mem_cons.mp hm
    have hstep := reads_perform hc hm
    have hwithin : (c.perform m).2.pos ≤ (c.perform m).2.text.length := hstep.text ▸ hstep.within
    rcases List.mem_cons.mp h with rfl | h
    · have hrun := reads_after hwithin hmoves
      exact Nat.le_antisymm hrun.within hrun.forward
    · rw [← hstep.text]
      exact ih hwithin hmoves h

/-- From a position in the text, requests that do not send the cursor back move it forward only,
and never past the end. What they take, in order, is the text between the first position and the
last, and all that is left if they ask for that. The position after a request that fails or only
looks is the one before it. -/
theorem performAll_contiguous (hc : c.pos ≤ c.text.length)
    (hm : ∀ m ∈ moves, m.isForward = true) :
    (c.positions moves).Pairwise (· ≤ ·) ∧ (∀ p ∈ c.positions moves, p ≤ c.text.length) ∧
    (∃ p, (c.positions moves).getLast? = some p ∧
      takenBy c.text moves (c.performAll moves) = c.text.slice c.pos p) ∧
    (.rest ∈ moves → takenBy c.text moves (c.performAll moves) = c.text.drop c.pos) ∧
    ∀ (i : Nat) m sight p, moves[i]? = some m → (c.performAll moves)[i]? = some (sight, p) →
      m.Idle sight → (c.positions moves)[i]? = some p := by
  obtain ⟨hsorted, hbound⟩ := positions_ordered hc hm
  have hrun := reads_after hc hm
  refine ⟨hsorted, hbound, ⟨_, getLast?_positions c moves, hrun.stretch⟩, fun hrest => ?_, ?_⟩
  · rw [hrun.stretch, pos_after_of_rest hc hm hrest, Text.slice_length]
  · intro i m sight p hi ha h
    exact positions_of_idle hi ha h

/-- From the second code point on, with a slash that is refused for the backslash before it. -/
theorem performAll_contiguous_slash :
    (Cursor.mk "x!ab+7\\/é".toList 1).pos ≤ "x!ab+7\\/é".toList.length ∧
    takenBy "x!ab+7\\/é".toList
        [.attempt ['!'], .accept .name, .accept .integer, .advance 1, .accept .slash, .rest]
        ((Cursor.mk "x!ab+7\\/é".toList 1).performAll
          [.attempt ['!'], .accept .name, .accept .integer, .advance 1, .accept .slash, .rest]) =
      "!ab+7\\/é".toList ∧
    ((Cursor.mk "x!ab+7\\/é".toList 1).positions
        [.attempt ['!'], .accept .name, .accept .integer, .advance 1, .accept .slash,
          .rest])[4]? = some 7 := by
  have hc : (Cursor.mk "x!ab+7\\/é".toList 1).pos ≤ "x!ab+7\\/é".toList.length := by decide
  have hm : ∀ m ∈ [Move.attempt ['!'], .accept .name, .accept .integer, .advance 1, .accept .slash,
      .rest], m.isForward = true := by decide
  obtain ⟨-, -, -, hrest, hidle⟩ := performAll_contiguous (c := .mk "x!ab+7\\/é".toList 1) hc hm
  refine ⟨hc, (hrest (by decide)).trans (by decide), ?_⟩
  exact hidle 4 (.accept .slash) (.found none) 7 rfl (by decide +kernel) (.missing .slash)

end Cursor

end ParameterExpansion
