import ParameterExpansion.Template.WellFormed

/-!
The body of an expansion ends at the first brace that balances it. Open braces are counted: a text
is closing from a depth if it closes that many braces more than it opens, and never more before.
-/
namespace ParameterExpansion

/-- The text closes all of `depth` open braces, and no start of it closes more. -/
def Closing (depth : Nat) (t : Text) : Prop :=
  t.count '}' = t.count '{' + depth ∧
    ∀ start, start <+: t → start.count '}' ≤ start.count '{' + depth

theorem closing_nil_iff {depth : Nat} : Closing depth [] ↔ depth = 0 := by
  simp [Closing, eq_comm]

theorem closing_cons_iff {depth : Nat} {c : Char} {t : Text} :
    Closing depth (c :: t) ↔
      (c :: t).count '}' = (c :: t).count '{' + depth ∧
        ∀ start, start <+: t → (c :: start).count '}' ≤ (c :: start).count '{' + depth := by
  refine and_congr_right fun _ => ?_
  constructor
  · intro h start hs
    exact h _ ((List.prefix_cons_inj c).mpr hs)
  · intro h start hs
    rcases List.prefix_cons_iff.mp hs with rfl | ⟨more, rfl, hm⟩
    · simp
    · exact h more hm

theorem closing_open_iff {depth : Nat} {t : Text} :
    Closing depth ('{' :: t) ↔ Closing (depth + 1) t := by
  rw [closing_cons_iff]
  refine and_congr ?_ (forall_congr' fun start => imp_congr_right fun _ => ?_)
  all_goals
    simp only [List.count_cons, beq_iff_eq, Char.reduceEq, if_true, if_false]
    omega

theorem closing_close_iff {depth : Nat} {t : Text} :
    Closing (depth + 1) ('}' :: t) ↔ Closing depth t := by
  rw [closing_cons_iff]
  refine and_congr ?_ (forall_congr' fun start => imp_congr_right fun _ => ?_)
  all_goals
    simp only [List.count_cons, beq_iff_eq, Char.reduceEq, if_true, if_false]
    omega

theorem not_closing_zero_close {t : Text} : ¬Closing 0 ('}' :: t) := by
  intro h
  have := h.2 ['}'] ⟨t, rfl⟩
  simp at this

theorem closing_other_iff {depth : Nat} {c : Char} {t : Text} (ho : c ≠ '{') (hc : c ≠ '}') :
    Closing depth (c :: t) ↔ Closing depth t := by
  rw [closing_cons_iff]
  simp [Closing, ho, hc]

namespace Template

theorem splitBody_open (depth : Nat) (rest : Text) :
    splitBody depth ('{' :: rest) =
      (splitBody (depth + 1) rest).map fun (body, after) => ('{' :: body, after) := rfl

theorem splitBody_close_succ (depth : Nat) (rest : Text) :
    splitBody (depth + 1) ('}' :: rest) =
      (splitBody depth rest).map fun (body, after) => ('}' :: body, after) := rfl

theorem splitBody_other (depth : Nat) {c : Char} (ho : c ≠ '{') (hc : c ≠ '}') (rest : Text) :
    splitBody depth (c :: rest) =
      (splitBody depth rest).map fun (body, after) => (c :: body, after) := by
  simp only [splitBody, if_neg hc, if_neg ho]

/-- A text is read with some braces open: one more is opened, the last one is closed or none is left
to close, or the code point is no brace. -/
@[elab_as_elim]
theorem depth_induction {motive : Nat → Text → Prop} (nil : ∀ depth, motive depth [])
    (opened : ∀ depth rest, motive (depth + 1) rest → motive depth ('{' :: rest))
    (closed : ∀ depth rest, motive depth rest → motive (depth + 1) ('}' :: rest))
    (ended : ∀ rest, motive 0 ('}' :: rest))
    (other : ∀ depth c rest, c ≠ '{' → c ≠ '}' → motive depth rest → motive depth (c :: rest))
    (depth : Nat) (t : Text) : motive depth t := by
  induction t generalizing depth with
  | nil => exact nil depth
  | cons c rest ih =>
    by_cases ho : c = '{'
    · rw [ho]
      exact opened depth rest (ih (depth + 1))
    · by_cases hc : c = '}'
      · rw [hc]
        cases depth with
        | zero => exact ended rest
        | succ depth => exact closed depth rest (ih depth)
      · exact other depth c rest ho hc (ih depth)

theorem closing_of_splitBody {depth : Nat} {t body after : Text}
    (h : splitBody depth t = some (body, after)) :
    t = body ++ '}' :: after ∧ Closing depth body := by
  induction depth, t using depth_induction generalizing body with
  | nil depth => cases h
  | opened depth rest ih =>
    rw [splitBody_open] at h
    obtain ⟨⟨b, a⟩, hs, he⟩ := Option.map_eq_some_iff.mp h
    cases he
    obtain ⟨rfl, hb⟩ := ih hs
    exact ⟨rfl, closing_open_iff.mpr hb⟩
  | closed depth rest ih =>
    rw [splitBody_close_succ] at h
    obtain ⟨⟨b, a⟩, hs, he⟩ := Option.map_eq_some_iff.mp h
    cases he
    obtain ⟨rfl, hb⟩ := ih hs
    exact ⟨rfl, closing_close_iff.mpr hb⟩
  | ended rest =>
    cases h
    exact ⟨rfl, closing_nil_iff.mpr rfl⟩
  | other depth c rest ho hc ih =>
    rw [splitBody_other depth ho hc] at h
    obtain ⟨⟨b, a⟩, hs, he⟩ := Option.map_eq_some_iff.mp h
    cases he
    obtain ⟨rfl, hb⟩ := ih hs
    exact ⟨rfl, (closing_other_iff ho hc).mpr hb⟩

theorem splitBody_of_closing {depth : Nat} {body : Text} (h : Closing depth body)
    (after : Text) : splitBody depth (body ++ '}' :: after) = some (body, after) := by
  induction depth, body using depth_induction with
  | nil depth =>
    obtain rfl := closing_nil_iff.mp h
    rfl
  | opened depth rest ih =>
    rw [List.cons_append, splitBody_open, ih (closing_open_iff.mp h), Option.map_some]
  | closed depth rest ih =>
    rw [List.cons_append, splitBody_close_succ, ih (closing_close_iff.mp h), Option.map_some]
  | ended rest => exact absurd h not_closing_zero_close
  | other depth c rest ho hc ih =>
    rw [List.cons_append, splitBody_other depth ho hc, ih ((closing_other_iff ho hc).mp h),
      Option.map_some]

/-- A body is split off exactly where a brace follows a text that closes all open ones. -/
theorem splitBody_eq_some_iff {depth : Nat} {t body after : Text} :
    splitBody depth t = some (body, after) ↔ t = body ++ '}' :: after ∧ Closing depth body := by
  constructor
  · exact closing_of_splitBody
  · rintro ⟨rfl, hb⟩
    exact splitBody_of_closing hb after

/-- No body is split off exactly if none that is closed begins the text. -/
theorem splitBody_eq_none_iff {depth : Nat} {t : Text} :
    splitBody depth t = none ↔ ∀ body, Closing depth body → ¬body ++ ['}'] <+: t := by
  constructor
  · rintro h body hb ⟨after, rfl⟩
    have hs := splitBody_eq_some_iff.mpr ⟨(List.append_cons body '}' after).symm, hb⟩
    rw [h] at hs
    cases hs
  · intro h
    cases hs : splitBody depth t with
    | none => rfl
    | some split =>
      obtain ⟨rfl, hb⟩ := splitBody_eq_some_iff.mp hs
      exact absurd ⟨split.2, by simp⟩ (h split.1 hb)

/-- Where no body is split off, no start of the text closes more braces than are open. -/
theorem count_le_of_splitBody_eq_none {depth : Nat} {t : Text} (h : splitBody depth t = none)
    {start : Text} (hs : start <+: t) : start.count '}' ≤ start.count '{' + depth := by
  induction depth, t using depth_induction generalizing start with
  | nil depth => simp [List.prefix_nil.mp hs]
  | opened depth rest ih =>
    rw [splitBody_open, Option.map_eq_none_iff] at h
    rcases List.prefix_cons_iff.mp hs with rfl | ⟨more, rfl, hmore⟩
    · simp
    · have hle := ih h hmore
      rw [List.count_cons_self, List.count_cons_of_ne (by decide)]
      omega
  | closed depth rest ih =>
    rw [splitBody_close_succ, Option.map_eq_none_iff] at h
    rcases List.prefix_cons_iff.mp hs with rfl | ⟨more, rfl, hmore⟩
    · simp
    · have hle := ih h hmore
      rw [List.count_cons_self, List.count_cons_of_ne (by decide)]
      omega
  | ended rest => cases h
  | other depth c rest ho hc ih =>
    rw [splitBody_other depth ho hc, Option.map_eq_none_iff] at h
    rcases List.prefix_cons_iff.mp hs with rfl | ⟨more, rfl, hmore⟩
    · simp
    · rw [List.count_cons_of_ne hc, List.count_cons_of_ne ho]
      exact ih h hmore

end Template

end ParameterExpansion
