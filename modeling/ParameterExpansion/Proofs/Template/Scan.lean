import ParameterExpansion.Proofs.Template.Balance
import ParameterExpansion.Proofs.Text.Slice

/-!
Scanning a text and rendering pieces undo each other, so that well-formed pieces and the texts
whose expansions are all closed correspond one to one. Where an expansion is not closed, the
pieces before it and the unclosed remainder still make up the text.
-/
namespace ParameterExpansion

namespace Template

theorem opening?_eq_some_iff {t inside : Text} :
    opening? t = some inside ↔ t = '$' :: '{' :: inside := by
  constructor
  · intro h
    unfold opening? at h
    split at h
    · cases h
      rfl
    · cases h
  · rintro rfl
    rfl

theorem opening?_eq_none_iff {t : Text} : opening? t = none ↔ ¬['$', '{'] <+: t := by
  rw [← Option.not_isSome_iff_eq_none, Option.isSome_iff_exists]
  refine not_congr ⟨?_, ?_⟩
  · rintro ⟨inside, h⟩
    exact ⟨inside, (opening?_eq_some_iff.mp h).symm⟩
  · rintro ⟨inside, h⟩
    exact ⟨inside, opening?_eq_some_iff.mpr h.symm⟩

theorem scan_nil : scan [] = ⟨[], none⟩ := by
  rw [scan]
  rfl

theorem scan_unclosed {inside : Text} (h : splitBody 0 inside = none) :
    scan ('$' :: '{' :: inside) = ⟨[], some inside⟩ := by
  rw [scan]
  split
  · rename_i inside' ho
    cases ho
    split <;> simp_all
  · rename_i ho
    cases ho

theorem scan_closed {body : Text} (h : Balanced body) (after : Text) :
    scan ('$' :: '{' :: (body ++ '}' :: after)) = consExpansion body (scan after) := by
  have hs : splitBody 0 (body ++ '}' :: after) = some (body, after) :=
    splitBody_eq_some_iff.mpr ⟨rfl, h⟩
  rw [scan]
  split
  · rename_i inside ho
    cases ho
    split <;> simp_all
  · rename_i ho
    cases ho

theorem scan_literal {c : Char} {rest : Text} (h : opening? (c :: rest) = none) :
    scan (c :: rest) = consLiteral c (scan rest) := by
  rw [scan]
  split
  · simp_all
  · rfl

/-- A text is empty, goes on after a code point that opens nothing, or begins with an expansion
that is closed or not. -/
@[elab_as_elim]
theorem scan_induction {motive : Text → Prop} (nil : motive [])
    (literal : ∀ c rest, opening? (c :: rest) = none → motive rest → motive (c :: rest))
    (unclosed : ∀ inside, splitBody 0 inside = none → motive ('$' :: '{' :: inside))
    (closed : ∀ body after, Balanced body → motive after →
      motive ('$' :: '{' :: (body ++ '}' :: after)))
    (t : Text) : motive t := by
  fun_induction scan t with
  | case1 t inside ho hs =>
    rw [opening?_eq_some_iff.mp ho]
    exact unclosed inside hs
  | case2 t inside ho body after hs ih =>
    obtain ⟨rfl, hb⟩ := splitBody_eq_some_iff.mp hs
    rw [opening?_eq_some_iff.mp ho]
    exact closed body after hb ih
  | case3 => exact nil
  | case4 c rest ho ih => exact literal c rest ho ih

@[simp] theorem unclosed_consLiteral (c : Char) (template : Template) :
    (consLiteral c template).unclosed = template.unclosed := by
  unfold consLiteral
  split <;> rfl

/-- A literal grows by a code point in front of it. -/
theorem consLiteral_literal (c : Char) (t : Text) (pieces : List Piece) (unclosed : Option Text) :
    consLiteral c ⟨.literal t :: pieces, unclosed⟩ = ⟨.literal (c :: t) :: pieces, unclosed⟩ := rfl

/-- In front of anything else a code point begins a literal. -/
theorem consLiteral_of_not_literal (c : Char) {template : Template}
    (h : ∀ next, template.pieces.head? = some next → next.isLiteral = false) :
    consLiteral c template = ⟨.literal [c] :: template.pieces, template.unclosed⟩ := by
  unfold consLiteral
  split
  · rename_i hp
    rw [hp] at h
    cases h _ rfl
  · rfl

/-- The opening that nothing closes, and what follows it. -/
def remainder (template : Template) : Text :=
  match template.unclosed with
  | none => []
  | some inside => '$' :: '{' :: inside

/-- The text that a template is of. -/
def render (template : Template) : Text :=
  renderPieces template.pieces ++ template.remainder

theorem render_consLiteral (c : Char) (template : Template) :
    (consLiteral c template).render = c :: template.render := by
  unfold consLiteral
  split
  · simp_all [render, remainder, renderPieces, Piece.render]
  · rfl

theorem render_consExpansion (body : Text) (template : Template) :
    (consExpansion body template).render =
      '$' :: '{' :: (body ++ '}' :: template.render) := by
  simp [consExpansion, render, remainder, renderPieces, Piece.render]

/-- Scanning loses nothing of a text. -/
theorem render_scan (t : Text) : (scan t).render = t := by
  induction t using scan_induction with
  | nil =>
    rw [scan_nil]
    rfl
  | literal c rest ho ih => rw [scan_literal ho, render_consLiteral, ih]
  | unclosed inside hs =>
    rw [scan_unclosed hs]
    rfl
  | closed body after hb ih => rw [scan_closed hb, render_consExpansion, ih]

/-- Nothing in what follows an unclosed opening closes it. -/
theorem splitBody_of_unclosed {t inside : Text} (h : (scan t).unclosed = some inside) :
    splitBody 0 inside = none := by
  induction t using scan_induction with
  | nil =>
    rw [scan_nil] at h
    cases h
  | literal c rest ho ih =>
    rw [scan_literal ho, unclosed_consLiteral] at h
    exact ih h
  | unclosed inside' hs =>
    rw [scan_unclosed hs] at h
    cases h
    exact hs
  | closed body after hb ih =>
    rw [scan_closed hb] at h
    exact ih h

theorem wellFormedPieces_cons_iff {piece : Piece} {pieces : List Piece} :
    WellFormedPieces (piece :: pieces) ↔
      piece.WellFormed ∧
        (∀ next, pieces.head? = some next → ¬(piece.isLiteral ∧ next.isLiteral)) ∧
        WellFormedPieces pieces := by
  cases pieces <;> simp [WellFormedPieces]

theorem literal_prefix_of_scan {t s : Text} {pieces : List Piece}
    (h : (scan t).pieces = .literal s :: pieces) : s <+: t := by
  have hr := render_scan t
  rw [render, h] at hr
  rw [← hr]
  simp [renderPieces, Piece.render, List.append_assoc]

theorem isLiteral_eq_false_iff {piece : Piece} :
    piece.isLiteral = false ↔ ∀ t, piece ≠ .literal t := by
  cases piece <;> simp [Piece.isLiteral]

/-- A code point joins a literal that begins the rest, or it begins a literal of its own; in
neither case does it open an expansion. -/
theorem wellFormedPieces_consLiteral {c : Char} {rest : Text} (ho : opening? (c :: rest) = none)
    (h : WellFormedPieces (scan rest).pieces) :
    WellFormedPieces (consLiteral c (scan rest)).pieces := by
  by_cases hl : ∃ s pieces, (scan rest).pieces = .literal s :: pieces
  · obtain ⟨s, pieces, hp⟩ := hl
    have hs : scan rest = ⟨.literal s :: pieces, (scan rest).unclosed⟩ := by rw [← hp]
    rw [hp, wellFormedPieces_cons_iff] at h
    obtain ⟨⟨-, hopen⟩, hnext, hpieces⟩ := h
    rw [hs, consLiteral_literal]
    refine wellFormedPieces_cons_iff.mpr ⟨⟨List.cons_ne_nil _ _, ?_⟩, hnext, hpieces⟩
    rw [List.infix_cons_iff]
    rintro (hstart | hinside)
    · have hc := (List.prefix_cons_inj c).mpr (literal_prefix_of_scan hp)
      exact opening?_eq_none_iff.mp ho (hstart.trans hc)
    · exact hopen hinside
  · have hn : ∀ next, (scan rest).pieces.head? = some next → next.isLiteral = false := by
      intro next hh
      obtain ⟨pieces, hp⟩ := List.head?_eq_some_iff.mp hh
      refine isLiteral_eq_false_iff.mpr ?_
      rintro s rfl
      exact hl ⟨s, pieces, hp⟩
    rw [consLiteral_of_not_literal c hn]
    refine wellFormedPieces_cons_iff.mpr ⟨⟨List.cons_ne_nil _ _, ?_⟩, ?_, h⟩
    · intro hinside
      have hlen := hinside.length_le
      simp at hlen
    · rintro next hh ⟨-, hnext⟩
      rw [hn next hh] at hnext
      cases hnext

theorem wellFormedPieces_scan (t : Text) : WellFormedPieces (scan t).pieces := by
  induction t using scan_induction with
  | nil =>
    rw [scan_nil]
    trivial
  | literal c rest ho ih =>
    rw [scan_literal ho]
    exact wellFormedPieces_consLiteral ho ih
  | unclosed inside hs =>
    rw [scan_unclosed hs]
    trivial
  | closed body after hb ih =>
    rw [scan_closed hb]
    refine wellFormedPieces_cons_iff.mpr ⟨hb, ?_, ih⟩
    rintro next - ⟨h, -⟩
    cases h

theorem wellFormed_of_mem {pieces : List Piece} (h : WellFormedPieces pieces) :
    ∀ piece ∈ pieces, piece.WellFormed := by
  induction pieces with
  | nil => exact List.forall_mem_nil _
  | cons piece pieces ih =>
    obtain ⟨hpiece, -, hpieces⟩ := wellFormedPieces_cons_iff.mp h
    exact List.forall_mem_cons.mpr ⟨hpiece, ih hpieces⟩

/-- The body of an expansion stands behind the text of the pieces before it, between an opening and
the brace that balances it. -/
theorem text_of_pieces {t body : Text} {front back : List Piece}
    (h : (scan t).pieces = front ++ .expansion body :: back) :
    Balanced body ∧ ∃ after, t = renderPieces front ++ '$' :: '{' :: (body ++ '}' :: after) := by
  have hmem : .expansion body ∈ (scan t).pieces := by simp [h]
  refine ⟨wellFormed_of_mem (wellFormedPieces_scan t) _ hmem,
    renderPieces back ++ (scan t).remainder, ?_⟩
  have hr := render_scan t
  rw [render, h] at hr
  refine hr.symm.trans ?_
  simp [renderPieces, Piece.render]

/-- A literal in front of a text is scanned as such, if it does not run into what follows. -/
theorem scan_literal_append {t rest : Text} (hne : t ≠ []) (hopen : ¬['$', '{'] <:+: t)
    (hbrace : rest.head? ≠ some '{')
    (hn : ∀ next, (scan rest).pieces.head? = some next → next.isLiteral = false) :
    scan (t ++ rest) = ⟨.literal t :: (scan rest).pieces, (scan rest).unclosed⟩ := by
  induction t with
  | nil => exact absurd rfl hne
  | cons c t ih =>
    rw [List.infix_cons_iff, not_or] at hopen
    cases t with
    | nil =>
      have ho : opening? (c :: rest) = none := by
        rw [opening?_eq_none_iff]
        rintro ⟨inside, h⟩
        cases h
        exact hbrace rfl
      rw [List.singleton_append, scan_literal ho, consLiteral_of_not_literal c hn]
    | cons d t =>
      have ho : opening? (c :: (d :: t ++ rest)) = none := by
        rw [opening?_eq_none_iff]
        rintro ⟨inside, h⟩
        cases h
        exact hopen.1 ⟨t, rfl⟩
      rw [List.cons_append, scan_literal ho, ih (List.cons_ne_nil _ _) hopen.2,
        consLiteral_literal]

/-- Well-formed pieces are the ones that their text is scanned into. -/
theorem scan_renderPieces {pieces : List Piece} (h : WellFormedPieces pieces) :
    scan (renderPieces pieces) = ⟨pieces, none⟩ := by
  induction pieces with
  | nil => exact scan_nil
  | cons piece pieces ih =>
    obtain ⟨hpiece, hnext, hpieces⟩ := wellFormedPieces_cons_iff.mp h
    have hscan := ih hpieces
    cases piece with
    | expansion body =>
      have hr : renderPieces (.expansion body :: pieces) =
          '$' :: '{' :: (body ++ '}' :: renderPieces pieces) := by
        simp [renderPieces, Piece.render]
      rw [hr, scan_closed hpiece, hscan]
      rfl
    | literal t =>
      have hn : ∀ next, pieces.head? = some next → next.isLiteral = false := by
        intro next hh
        simpa [Piece.isLiteral] using hnext next hh
      have hbrace : (renderPieces pieces).head? ≠ some '{' := by
        cases pieces with
        | nil => simp [renderPieces]
        | cons next pieces =>
          cases next with
          | literal s => cases hn _ rfl
          | expansion body => simp [renderPieces, Piece.render]
      have := scan_literal_append hpiece.1 hpiece.2 hbrace (by rw [hscan]; exact hn)
      rw [hscan] at this
      exact this

/-- The piece that a located one stands for in a text. -/
def Located.read (t : Text) : Located → Piece
  | .literal s => .literal s
  | .expansion e => .expansion (t.slice e.start e.stop)

/-- The places of bodies hold the bodies. -/
theorem read_locate (front back : Text) (pieces : List Piece) :
    (locate front.length pieces).map (Located.read (front ++ renderPieces pieces ++ back)) =
      pieces := by
  induction pieces generalizing front with
  | nil => rfl
  | cons piece pieces ih =>
    have hr : front ++ renderPieces (piece :: pieces) ++ back =
        (front ++ piece.render) ++ renderPieces pieces ++ back := by
      simp [renderPieces]
    have ih := ih (front ++ piece.render)
    rw [← hr, List.length_append] at ih
    cases piece with
    | literal t => simpa [locate, Located.read, Piece.render] using ih
    | expansion body =>
      have hl : (Piece.expansion body).render.length = body.length + 3 := by
        simp [Piece.render]
      rw [hl] at ih
      have hm : (front ++ renderPieces (.expansion body :: pieces) ++ back).slice
          (front.length + 2) (front.length + 2 + body.length) = body := by
        have := Text.slice_middle (front ++ ['$', '{']) body ('}' :: (renderPieces pieces ++ back))
        simpa [renderPieces, Piece.render] using this
      rw [locate, List.map_cons, Located.read, hm]
      exact congrArg _ ih

/-- The pieces of a text are well formed, and the places of their bodies are right. If nothing is
left unclosed they make up the text, and no other well-formed pieces do. Otherwise they make up what
comes before an opening behind which no balanced body is closed. -/
theorem scan_roundTrip :
    (∀ t, WellFormedPieces (scan t).pieces ∧
      (locate 0 (scan t).pieces).map (Located.read t) = (scan t).pieces) ∧
    (∀ t, (scan t).unclosed = none → renderPieces (scan t).pieces = t) ∧
    (∀ pieces, WellFormedPieces pieces → scan (renderPieces pieces) = ⟨pieces, none⟩) ∧
    ∀ t inside, (scan t).unclosed = some inside →
      renderPieces (scan t).pieces ++ '$' :: '{' :: inside = t ∧
        ∀ body, Balanced body → ¬body ++ ['}'] <+: inside := by
  refine ⟨fun t => ⟨wellFormedPieces_scan t, ?_⟩, ?_, fun _ => scan_renderPieces, ?_⟩
  · have hl := read_locate [] (scan t).remainder (scan t).pieces
    rwa [List.nil_append, ← render, render_scan] at hl
  · intro t hu
    have hr := render_scan t
    rwa [render, remainder, hu, List.append_nil] at hr
  · intro t inside hu
    have hr := render_scan t
    rw [render, remainder, hu] at hr
    exact ⟨hr, splitBody_eq_none_iff.mp (splitBody_of_unclosed hu)⟩

/-- A dollar sign before an opening, braces inside a body, and an opening brace after it. -/
theorem scan_roundTrip_straddling :
    WellFormedPieces [.literal ['$'], .expansion "A:-\x7bx\x7d".toList, .literal ['{', '$']] ∧
      scan "$$\x7bA:-\x7bx\x7d\x7d\x7b$".toList =
        ⟨[.literal ['$'], .expansion "A:-\x7bx\x7d".toList, .literal ['{', '$']], none⟩ := by
  have hb : Balanced "A:-\x7bx\x7d".toList := (splitBody_eq_some_iff.mp
    (rfl : splitBody 0 "A:-\x7bx\x7d\x7d".toList = some ("A:-\x7bx\x7d".toList, []))).2
  have hw : WellFormedPieces
      [.literal ['$'], .expansion "A:-\x7bx\x7d".toList, .literal ['{', '$']] :=
    ⟨⟨by decide, by decide⟩, by decide, hb, by decide, by decide, by decide⟩
  exact ⟨hw, scan_roundTrip.2.2.1 _ hw⟩

end Template

end ParameterExpansion
