import Mathlib.Order.Bounds.Basic
import ParameterExpansion.Proofs.Template.Balance
import ParameterExpansion.Proofs.Text.Slice

/-!
Where a body ends, wherever the search for its end begins: at the first offset up to which one more
brace is closed than opened. There is no end if that never happens, and text behind the end has no
part in it.
-/
namespace ParameterExpansion.Template

/-- The offsets behind `start` up to which one more brace is closed than opened. -/
def closings (t : Text) (start : Nat) : Set Nat :=
  {stop | start < stop ∧ (t.slice start stop).count '}' = (t.slice start stop).count '{' + 1}

theorem bodyEnd_eq_some_iff {t : Text} {start stop : Nat} :
    bodyEnd t start = some stop ↔
      ∃ body after, t.drop start = body ++ '}' :: after ∧ Balanced body ∧
        stop = start + body.length + 1 := by
  simp only [bodyEnd, Option.map_eq_some_iff, Prod.exists, splitBody_eq_some_iff]
  constructor
  · rintro ⟨body, after, ⟨ht, hb⟩, rfl⟩
    exact ⟨body, after, ht, hb, rfl⟩
  · rintro ⟨body, after, ht, hb, rfl⟩
    exact ⟨body, after, ⟨ht, hb⟩, rfl⟩

theorem isLeast_of_bodyEnd {t : Text} {start stop : Nat} (h : bodyEnd t start = some stop) :
    IsLeast (closings t start) stop := by
  obtain ⟨body, after, ht, hb, rfl⟩ := bodyEnd_eq_some_iff.mp h
  have hslice : ∀ k, t.slice start k = (body ++ '}' :: after).take (k - start) := by
    intro k
    rw [Text.slice, List.drop_take, ht]
  constructor
  · have hn : start + body.length + 1 - start = (body ++ ['}']).length := by
      rw [List.length_append, List.length_singleton]
      omega
    have hbody : t.slice start (start + body.length + 1) = body ++ ['}'] := by
      rw [hslice, hn, List.append_cons body '}' after, List.take_left]
    refine ⟨by omega, ?_⟩
    rw [hbody, List.count_append, List.count_append, hb.1]
    rfl
  · rintro k ⟨-, hk⟩
    refine Nat.le_of_not_lt fun hlt => ?_
    -- up to here there is nothing but a start of the body
    have hle : k - start ≤ body.length := by omega
    rw [hslice, List.take_append_of_le_length hle] at hk
    have := hb.2 _ (List.take_prefix (k - start) body)
    omega

theorem closings_eq_empty_of_bodyEnd {t : Text} {start : Nat} (h : bodyEnd t start = none) :
    closings t start = ∅ := by
  rw [bodyEnd, Option.map_eq_none_iff] at h
  refine Set.eq_empty_of_forall_notMem ?_
  rintro stop ⟨-, hstop⟩
  have hpre : t.slice start stop <+: t.drop start := by
    rw [Text.slice, List.drop_take]
    exact List.take_prefix _ _
  have := count_le_of_splitBody_eq_none h hpre
  omega

theorem bodyEnd_append {t : Text} {start stop : Nat} (h : bodyEnd t start = some stop)
    (more : Text) : bodyEnd (t ++ more) start = some stop := by
  obtain ⟨body, after, ht, hb, rfl⟩ := bodyEnd_eq_some_iff.mp h
  have hstart : start ≤ t.length := by
    have hlen := congrArg List.length ht
    rw [List.length_drop, List.length_append, List.length_cons] at hlen
    omega
  refine bodyEnd_eq_some_iff.mpr ⟨body, after ++ more, ?_, hb, rfl⟩
  rw [List.drop_append_of_le_length hstart, ht, List.append_assoc, List.cons_append]

/-- From any start, at the end of the text or past it included, a body ends at the least offset up
to which one more brace is closed than opened, and has no end exactly if there is no such offset.
Whatever follows the text, an end that is found stays the end. -/
theorem bodyEnd_isLeast (t : Text) (start : Nat) :
    (∀ stop, bodyEnd t start = some stop ↔ IsLeast (closings t start) stop) ∧
    (bodyEnd t start = none ↔ closings t start = ∅) ∧
    ∀ stop, bodyEnd t start = some stop → ∀ more, bodyEnd (t ++ more) start = some stop := by
  refine ⟨fun stop => ⟨isLeast_of_bodyEnd, fun hleast => ?_⟩, ⟨closings_eq_empty_of_bodyEnd, ?_⟩,
    fun stop h more => bodyEnd_append h more⟩
  · cases h : bodyEnd t start with
    | none =>
      have hmem := hleast.1
      rw [closings_eq_empty_of_bodyEnd h] at hmem
      cases hmem
    | some stop' => rw [(isLeast_of_bodyEnd h).unique hleast]
  · intro hempty
    cases h : bodyEnd t start with
    | none => rfl
    | some stop =>
      have hmem := (isLeast_of_bodyEnd h).1
      rw [hempty] at hmem
      cases hmem

/-- A pair of braces in the body, and from past the end nothing. -/
theorem bodyEnd_isLeast_nested :
    bodyEnd "$\x7bA\x7b\x7d\x7d".toList 2 = some 6 ∧
      bodyEnd ("$\x7bA\x7b\x7d\x7d".toList ++ "\x7dtail".toList) 2 = some 6 ∧
      closings "$\x7bA\x7b\x7d\x7d".toList 9 = ∅ := by
  have h : bodyEnd "$\x7bA\x7b\x7d\x7d".toList 2 = some 6 := by decide
  obtain ⟨-, -, hmore⟩ := bodyEnd_isLeast "$\x7bA\x7b\x7d\x7d".toList 2
  obtain ⟨-, hnone, -⟩ := bodyEnd_isLeast "$\x7bA\x7b\x7d\x7d".toList 9
  exact ⟨h, hmore 6 h _, hnone.mp (by decide)⟩

end ParameterExpansion.Template
