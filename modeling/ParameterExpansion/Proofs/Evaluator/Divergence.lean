import ParameterExpansion.Proofs.Evaluator.Substitution

/-!
Two evaluators over one text. Either they substitute alike, or there is a first piece that they do
not expand alike: before it both succeed with the same results and the same reports, and the run
goes on with what each makes of that piece.
-/
namespace ParameterExpansion.Evaluator

open Template

/-- Where every piece is expanded, and only there, the results are joined. -/
theorem expandPieces_eq_ok_iff {e : Evaluator} {pieces : List Piece} {t : Text} :
    (e.expandPieces pieces).outcome = .ok t ↔
      ∃ results : List Text, pieces.map (fun piece => (e.expandPiece piece).outcome) =
        results.map .ok ∧ t = results.flatten := by
  induction pieces generalizing t with
  | nil =>
    constructor
    · intro h
      cases h
      exact ⟨[], rfl, rfl⟩
    · rintro ⟨results, hall, rfl⟩
      obtain rfl := List.map_eq_nil_iff.mp hall.symm
      rfl
  | cons piece pieces ih =>
    rw [expandPieces, Run.andThen_eq_ok_iff]
    constructor
    · rintro ⟨s, hs, h⟩
      obtain ⟨u, hu, h⟩ := Run.andThen_eq_ok_iff.mp h
      obtain ⟨results, hall, rfl⟩ := ih.mp hu
      cases h
      exact ⟨s :: results, by rw [List.map_cons, List.map_cons, hs, hall], rfl⟩
    · rintro ⟨results, hall, rfl⟩
      cases results with
      | nil => cases hall
      | cons s results =>
        obtain ⟨hs, hall⟩ := List.cons_eq_cons.mp hall
        exact ⟨s, hs, Run.andThen_eq_ok_iff.mpr ⟨results.flatten, ih.mpr ⟨results, hall, rfl⟩, rfl⟩⟩

theorem exists_ok_of_mem {e : Evaluator} {pieces : List Piece} {t : Text}
    (h : (e.expandPieces pieces).outcome = .ok t) :
    ∀ piece ∈ pieces, ∃ s, (e.expandPiece piece).outcome = .ok s := by
  obtain ⟨results, hall, -⟩ := expandPieces_eq_ok_iff.mp h
  intro piece hp
  have hmem : (e.expandPiece piece).outcome ∈ results.map .ok := by
    rw [← hall]
    exact List.mem_map_of_mem hp
  obtain ⟨s, -, hs⟩ := List.mem_map.mp hmem
  exact ⟨s, hs.symm⟩

theorem expandPieces_append (e : Evaluator) (front back : List Piece) :
    e.expandPieces (front ++ back) =
      (e.expandPieces front).andThen fun s =>
        (e.expandPieces back).andThen fun t => pure (s ++ t) := by
  induction front with
  | nil => exact (Run.andThen_pure _).symm
  | cons piece front ih =>
    simp only [List.cons_append, expandPieces, ih, Run.andThen_assoc, Run.pure_andThen,
      List.append_assoc]

/-- Substitution comes to a piece after those before it, and goes on if it is expanded. -/
theorem substitute_split (e : Evaluator) {t : Text} {front back : List Piece} {piece : Piece}
    (h : (scan t).pieces = front ++ piece :: back) :
    ∃ rest : Text → Text → Run Text, e.substitute t =
      (e.expandPieces front).andThen fun s => (e.expandPiece piece).andThen (rest s) := by
  simp only [substitute_eq, expandTemplate, h, expandPieces_append, expandPieces, Run.andThen_assoc]
  exact ⟨_, rfl⟩

/-- A piece that fails ends the substitution. -/
theorem substitute_of_fail {e : Evaluator} {t s : Text} {front back : List Piece} {piece : Piece}
    {err : Error} (h : (scan t).pieces = front ++ piece :: back)
    (hfront : (e.expandPieces front).outcome = .ok s) (hpiece : e.expandPiece piece = .fail err) :
    e.substitute t = ⟨.error err, (e.expandPieces front).reports⟩ := by
  obtain ⟨rest, hrest⟩ := e.substitute_split h
  rw [hrest, Run.andThen_of_ok hfront, hpiece]
  exact congrArg _ (List.append_nil _)

/-- What is reported up to a piece is reported first. -/
theorem reports_prefix_substitute {e : Evaluator} {t s : Text} {front back : List Piece}
    {piece : Piece} (h : (scan t).pieces = front ++ piece :: back)
    (hfront : (e.expandPieces front).outcome = .ok s) :
    (e.expandPieces front).reports ++ (e.expandPiece piece).reports <+:
      (e.substitute t).reports := by
  obtain ⟨rest, hrest⟩ := e.substitute_split h
  rw [hrest, Run.andThen_of_ok hfront]
  refine (List.prefix_append_right_inj _).mpr ?_
  cases hpiece : (e.expandPiece piece).outcome with
  | error err => exact ⟨[], by rw [Run.andThen_of_error hpiece, List.append_nil]⟩
  | ok r => exact ⟨_, by rw [Run.andThen_of_ok hpiece]⟩

theorem expandPieces_eq_or_diverge (e e' : Evaluator) (pieces : List Piece) :
    e.expandPieces pieces = e'.expandPieces pieces ∨
      ∃ front piece back s, pieces = front ++ piece :: back ∧
        e.expandPieces front = e'.expandPieces front ∧ (e.expandPieces front).outcome = .ok s ∧
        e.expandPiece piece ≠ e'.expandPiece piece := by
  induction pieces with
  | nil => exact .inl rfl
  | cons piece pieces ih =>
    by_cases hpiece : e.expandPiece piece = e'.expandPiece piece
    · cases hr : (e.expandPiece piece).outcome with
      | error err =>
        -- both runs end here, and neither comes to the pieces behind
        left
        rw [expandPieces, expandPieces, ← hpiece, Run.andThen_of_error hr, Run.andThen_of_error hr]
      | ok r =>
        rcases ih with heq | ⟨front, other, back, s, rfl, hfront, hs, hother⟩
        · left
          rw [expandPieces, expandPieces, hpiece, heq]
        · refine .inr ⟨piece :: front, other, back, r ++ s, rfl, ?_, ?_, hother⟩
          · rw [expandPieces, expandPieces, hpiece, hfront]
          · exact Run.andThen_eq_ok_iff.mpr ⟨r, hr, Run.andThen_eq_ok_iff.mpr ⟨s, hs, rfl⟩⟩
    · exact .inr ⟨[], piece, pieces, [], rfl, rfl, rfl, hpiece⟩

/-- Two evaluators substitute alike, or succeed alike up to a piece that they do not expand
alike. -/
theorem substitute_eq_or_diverge (e e' : Evaluator) (t : Text) :
    e.substitute t = e'.substitute t ∨
      ∃ front piece back s, (scan t).pieces = front ++ piece :: back ∧
        e.expandPieces front = e'.expandPieces front ∧ (e.expandPieces front).outcome = .ok s ∧
        e.expandPiece piece ≠ e'.expandPiece piece := by
  rcases expandPieces_eq_or_diverge e e' (scan t).pieces with heq | hdiverge
  · left
    rw [substitute_eq, substitute_eq, expandTemplate, expandTemplate, heq]
  · exact .inr hdiverge

end ParameterExpansion.Evaluator
