import ParameterExpansion.Expansion.Basic
import ParameterExpansion.Proofs.Expansion.Reader

/-!
Printing and reading expansions. A well-formed expansion is read back from its canonical body, and
every expansion that is read from any body is well formed, so well-formedness is exactly the image
of the reader.
-/
namespace ParameterExpansion

/-! ### Numbers -/

/-- A 32-bit integer is far from having too many digits. -/
theorem length_decimal_of_inBounds {n : Int} (h : InBounds n) :
    (Text.decimal n.natAbs).length ≤ IntegerField.maxDigits := by
  have hbits : n.natAbs < 10 ^ 10 := by
    obtain ⟨hlo, hhi⟩ := h
    omega
  have hten : (Text.decimal n.natAbs).length ≤ 10 :=
    (Nat.length_toDigits_le_iff (by decide) (by decide)).mpr hbits
  exact Nat.le_trans hten (by decide)

namespace Expansion

open Operator (Kind)
open Operator.Kind (introduced)

/-- A number in bounds is read back wherever its digits end. -/
theorem readBound_decimalInt (bound : Bound) (lead rest : Text) {n : Int}
    (hlead : ∀ c ∈ lead, isBlank c = true) (hn : InBounds n)
    (hrest : ∀ c ∈ rest.head?, isBlank c = false ∧ c.isDigit = false) :
    readBound bound (lead ++ Text.decimalInt n ++ rest) = .ok (n, rest) := by
  have hdigits : (Text.decimalField lead n).digits ≠ [] := by
    rw [Text.decimalField_digits]
    exact Nat.toDigits_ne_nil
  rw [← Text.decimalField_written]
  exact readBound_eq_ok_iff.mpr ⟨_,
    splitInteger_written (Text.decimalField_wellShaped hlead n) hdigits hrest,
    Text.value?_decimalField (length_decimal_of_inBounds hn), hn⟩

theorem readBound_decimalInt_end (bound : Bound) (lead : Text) {n : Int}
    (hlead : ∀ c ∈ lead, isBlank c = true) (hn : InBounds n) :
    readBound bound (lead ++ Text.decimalInt n) = .ok (n, []) := by
  have h := readBound_decimalInt bound lead [] hlead hn fun _ hc => nomatch hc
  rwa [List.append_nil] at h

/-! ### Replacements -/

/-- An escaped pattern is split from its replacement if the slash between them is bare. -/
theorem splitSlash_escapeSlash_iff {p r : Text} :
    splitSlash false (escapeSlash p ++ '/' :: r) = some (escapeSlash p, r) ↔
      p.getLast? ≠ some '\\' := by
  rw [splitSlash_eq_some_iff, escapedAfter_escapeSlash, escapedAfter_false_iff]
  exact ⟨fun h => h.2.1, fun h => ⟨rfl, h, guarded_escapeSlash false p⟩⟩

theorem getLast?_unescapeSlash_ne {operand p r : Text}
    (h : splitSlash false operand = some (p, r)) :
    (unescapeSlash p).getLast? ≠ some '\\' := by
  rw [← escapedAfter_false_iff, escapedAfter_unescapeSlash]
  exact (splitSlash_eq_some_iff.mp h).2.1

/-! ### Operators -/

theorem kind_eq_bare_iff {op : Operator} : op.kind = .bare ↔ op = .bare := by
  cases op <;> simp [Operator.kind]

/-- What well-formedness asks of a replacement, whatever its scope. -/
theorem wellFormed_replace_iff {scope : Scope} {p r : Text} :
    (Operator.replace scope p r).WellFormed ↔
      p.getLast? ≠ some '\\' ∧
        (scope = .first → p ≠ [] ∧ p.head? ≠ some '#' ∧ p.head? ≠ some '%') := by
  cases scope with
  | first =>
    simp only [Operator.WellFormed, true_imp_iff]
    constructor
    · rintro ⟨hne, hfront, hback, hlast⟩
      exact ⟨hlast, hne, hfront, hback⟩
    · rintro ⟨hlast, hne, hfront, hback⟩
      exact ⟨hne, hfront, hback, hlast⟩
  | _ => simp [Operator.WellFormed]

theorem readOperator_operand {op : Operator} (body : Text) (h : op.WellFormed) :
    readOperator body op.operand op.kind = .ok op := by
  cases op with
  | substring offset length =>
    obtain ⟨hoffset, hlength⟩ := h
    have hlead : ∀ c ∈ [' '], isBlank c = true := List.forall_mem_singleton.mpr rfl
    refine readSubstring_eq_ok_iff.mpr ?_
    cases length with
    | none => exact .inl ⟨offset, readBound_decimalInt_end _ [' '] hlead hoffset, rfl⟩
    | some length =>
      have ho := readBound_decimalInt .offset [' '] (':' :: Text.decimalInt length) hlead hoffset
        fun c hc => by cases hc; decide
      have hl := readBound_decimalInt_end .length [] (fun _ hc => nomatch hc) (hlength length rfl)
      exact .inr ⟨offset, _, length, ho, hl, rfl⟩
  | replace scope p r =>
    refine readReplacement_eq_ok_iff.mpr ⟨escapeSlash p, escapeSlash r, ?_, ?_⟩
    · exact splitSlash_escapeSlash_iff.mpr (wellFormed_replace_iff.mp h).1
    · rw [unescapeSlash_escapeSlash, unescapeSlash_escapeSlash]
  | transformation letter =>
    obtain ⟨c, hc, rfl⟩ := h
    exact readTransformation_eq_ok_iff.mpr ⟨c, hc, rfl, rfl⟩
  | _ => rfl

/-! ### Symbols -/

theorem ends_of_nil {kind : Kind} (h : continuations kind = []) (operand : Text) :
    Ends kind operand := by
  rw [Ends, h]
  exact List.forall_mem_nil _

theorem ends_singleton_iff {kind : Kind} {d : Char} {operand : Text}
    (h : continuations kind = [d]) : Ends kind operand ↔ operand.head? ≠ some d := by
  rw [Ends, h, List.forall_mem_singleton]

theorem ends_replace_first_iff {operand : Text} :
    Ends (.replace .first) operand ↔
      operand.head? ≠ some '/' ∧ operand.head? ≠ some '#' ∧ operand.head? ≠ some '%' := by
  rw [Ends, show continuations (.replace .first) = ['/', '#', '%'] from rfl]
  rw [List.forall_mem_cons, List.forall_mem_cons, List.forall_mem_singleton]

theorem ends_substring_iff {operand : Text} :
    Ends .substring operand ↔
      operand.head? ≠ some '-' ∧ operand.head? ≠ some '+' ∧ operand.head? ≠ some '?' := by
  rw [Ends, show continuations .substring = ['-', '+', '?'] from rfl]
  rw [List.forall_mem_cons, List.forall_mem_cons, List.forall_mem_singleton]

/-- What well-formedness asks of the pattern of a removal is asked by the symbols. -/
theorem ends_remove_iff {side : Side} {reach : Reach} {p : Text} :
    Ends (.remove side reach) p ↔ (Operator.remove side reach p).WellFormed := by
  cases side <;> cases reach
  · exact ends_singleton_iff rfl
  · exact iff_of_true (ends_of_nil rfl p) trivial
  · exact ends_singleton_iff rfl
  · exact iff_of_true (ends_of_nil rfl p) trivial

theorem ends_recase_iff {target : LetterCase} {which : Occurrence} {p : Text} :
    Ends (.recase target which) p ↔ (Operator.recase target which p).WellFormed := by
  cases target <;> cases which
  · exact ends_singleton_iff rfl
  · exact iff_of_true (ends_of_nil rfl p) trivial
  · exact ends_singleton_iff rfl
  · exact iff_of_true (ends_of_nil rfl p) trivial

theorem ends_substring (offset : Int) (length : Option Int) :
    Ends .substring (Operator.substring offset length).operand := by
  have hhead : (Operator.substring offset length).operand.head? = some ' ' := by
    cases length <;> rfl
  rw [ends_substring_iff, hhead]
  decide

/-- The operand of a replacement begins like its pattern, or with the backslash of a slash. -/
theorem ends_replace_first {p : Text} (r : Text) (hne : p ≠ []) (hfront : p.head? ≠ some '#')
    (hback : p.head? ≠ some '%') :
    Ends (.replace .first) (Operator.replace .first p r).operand := by
  have hhead : (Operator.replace .first p r).operand.head? = (escapeSlash p).head? := by
    have hnil : escapeSlash p ≠ [] := by
      intro hnil
      rw [← unescapeSlash_escapeSlash p, hnil] at hne
      exact hne rfl
    obtain ⟨c, more, hcons⟩ := List.exists_cons_of_ne_nil hnil
    rw [Operator.operand, hcons]
    rfl
  rw [ends_replace_first_iff, hhead]
  refine ⟨head?_escapeSlash_ne p, ?_, ?_⟩
  · rcases head?_escapeSlash p with h | h <;> rw [h]
    · exact hfront
    · decide
  · rcases head?_escapeSlash p with h | h <;> rw [h]
    · exact hback
    · decide

/-- A symbol stays the longest one in front of the operand of a well-formed operator. -/
theorem ends_operand {op : Operator} (h : op.WellFormed) : Ends op.kind op.operand := by
  cases op with
  | bare => exact fun c _ hc => nomatch hc
  | fallback t => exact ends_of_nil rfl t
  | alternate t => exact ends_of_nil rfl t
  | require t => exact ends_of_nil rfl t
  | substring offset length => exact ends_substring offset length
  | remove side reach p => exact ends_remove_iff.mpr h
  | replace scope p r =>
    cases scope with
    | first =>
      obtain ⟨hne, hfront, hback, -⟩ := h
      exact ends_replace_first r hne hfront hback
    | _ => exact ends_of_nil rfl _
  | recase target which p => exact ends_recase_iff.mpr h
  | transformation letter => exact ends_of_nil rfl letter

/-- The pattern that a replacement is read with begins like its operand, or with a slash. -/
theorem pattern_of_ends {operand p r : Text} (hends : Ends (.replace .first) operand)
    (h : splitSlash false operand = some (p, r)) :
    unescapeSlash p ≠ [] ∧ (unescapeSlash p).head? ≠ some '#' ∧
      (unescapeSlash p).head? ≠ some '%' := by
  obtain ⟨rfl, -, -⟩ := splitSlash_eq_some_iff.mp h
  obtain ⟨hslash, hfront, hback⟩ := ends_replace_first_iff.mp hends
  cases p with
  | nil => exact absurd rfl hslash
  | cons c p =>
    rcases head?_unescapeSlash (c :: p) with hhead | hhead
    · refine ⟨fun hnil => ?_, hhead ▸ hfront, hhead ▸ hback⟩
      rw [hnil] at hhead
      cases hhead
    · rw [hhead]
      refine ⟨fun hnil => ?_, by decide, by decide⟩
      rw [hnil] at hhead
      cases hhead

/-- Whatever is read after the longest symbol is well formed. -/
theorem wellFormed_of_readOperator {body operand : Text} {kind : Kind} {op : Operator}
    (h : readOperator body operand kind = .ok op) (hends : Ends kind operand) :
    op.WellFormed := by
  cases kind with
  | substring =>
    rcases readSubstring_eq_ok_iff.mp h with ⟨offset, ho, rfl⟩ | ⟨offset, rest, length, ho, hl, rfl⟩
    · obtain ⟨_, -, -, hoffset⟩ := readBound_eq_ok_iff.mp ho
      exact ⟨hoffset, fun _ hn => nomatch hn⟩
    · obtain ⟨_, -, -, hoffset⟩ := readBound_eq_ok_iff.mp ho
      obtain ⟨_, -, -, hlength⟩ := readBound_eq_ok_iff.mp hl
      exact ⟨hoffset, fun n hn => Option.some.inj hn ▸ hlength⟩
  | remove side reach =>
    cases h
    exact ends_remove_iff.mp hends
  | replace scope =>
    obtain ⟨p, r, hs, rfl⟩ := readReplacement_eq_ok_iff.mp h
    refine wellFormed_replace_iff.mpr ⟨getLast?_unescapeSlash_ne hs, ?_⟩
    rintro rfl
    exact pattern_of_ends hends hs
  | recase target which =>
    cases h
    exact ends_recase_iff.mp hends
  | transformation =>
    obtain ⟨c, hc, -, rfl⟩ := readTransformation_eq_ok_iff.mp h
    exact ⟨c, hc, rfl⟩
  | _ =>
    cases h
    trivial

/-- Only numbers and slashes can be written in more than one way. -/
theorem operand_of_readOperator {body operand : Text} {kind : Kind} {op : Operator}
    (h : readOperator body operand kind = .ok op) (hbare : kind ≠ .bare)
    (hsubstring : kind ≠ .substring) (hreplace : ∀ scope, kind ≠ .replace scope) :
    op.operand = operand := by
  cases kind with
  | bare => exact absurd rfl hbare
  | substring => exact absurd rfl hsubstring
  | replace scope => exact absurd rfl (hreplace scope)
  | transformation =>
    obtain ⟨c, -, rfl, rfl⟩ := readTransformation_eq_ok_iff.mp h
    rfl
  | _ =>
    cases h
    rfl

/-! ### Expansions -/

theorem isNameRest_head_symbol : ∀ kind ∈ introduced,
    kind.symbol.head?.map isNameRest = some false := by
  decide

theorem head?_symbol_append {kind : Kind} (hkind : kind ∈ introduced) (operand : Text) :
    (kind.symbol ++ operand).head? = kind.symbol.head? := by
  have hlen := (Kind.length_symbol kind hkind).1
  obtain ⟨c, more, hcons⟩ := List.exists_cons_of_length_pos hlen
  rw [hcons]
  rfl

/-- A symbol is never read as part of the name before it. -/
theorem isNameRest_symbol_append {kind : Kind} (hkind : kind ∈ introduced) (operand : Text) :
    ∀ c ∈ (kind.symbol ++ operand).head?, isNameRest c = false := by
  intro c hc
  have hsymbol := isNameRest_head_symbol kind hkind
  rw [← head?_symbol_append hkind operand, Option.mem_def.mp hc] at hsymbol
  exact Option.some.inj hsymbol

/-- A well-formed expansion is what its canonical body is read as. -/
theorem parse_render {e : Expansion} (h : e.WellFormed) : parse e.render = .ok e := by
  obtain ⟨hname, hop⟩ := h
  refine parse_eq_ok_iff.mpr ⟨e.op.render, List.append_assoc .., hname, ?_⟩
  by_cases hbare : e.op = .bare
  · rw [hbare]
    exact ⟨(fun _ hc => nomatch hc), .inl ⟨rfl, rfl⟩⟩
  · have hkind : e.op.kind ∈ introduced :=
      Kind.mem_introduced.mpr fun h => hbare (kind_eq_bare_iff.mp h)
    have hs := splitSymbol_append_iff.mpr ⟨hkind, ends_operand hop⟩
    exact ⟨isNameRest_symbol_append hkind _,
      .inr ⟨e.op.kind, e.op.operand, hs, readOperator_operand _ hop⟩⟩

/-- The shape of a body that is read, around the operand. -/
theorem body_of_parse {body : Text} {e : Expansion} (h : parse body = .ok e) :
    isName e.ref.name = true ∧ ∃ operand,
      body = bang e.ref.indirect ++ e.ref.name ++ (e.op.kind.symbol ++ operand) ∧
        (e.op = .bare ∧ operand = [] ∨ e.op.kind ∈ introduced ∧ Ends e.op.kind operand ∧
          readOperator body operand e.op.kind = .ok e.op) := by
  obtain ⟨rest, hbody, hname, -, hop⟩ := parse_eq_ok_iff.mp h
  refine ⟨hname, ?_⟩
  rcases hop with ⟨rfl, hop⟩ | ⟨kind, operand, hs, hop⟩
  · refine ⟨[], ?_, .inl ⟨hop, rfl⟩⟩
    rw [hop, hbody, List.append_assoc]
    rfl
  · obtain rfl := kind_of_readOperator hop
    have hrest := (splitSymbol_eq_some_iff.mp hs).2.1
    rw [hrest] at hs
    obtain ⟨hkind, hends⟩ := splitSymbol_append_iff.mp hs
    refine ⟨operand, ?_, .inr ⟨hkind, hends, hop⟩⟩
    rw [hbody, hrest, List.append_assoc]

theorem wellFormed_of_parse {body : Text} {e : Expansion} (h : parse body = .ok e) :
    e.WellFormed := by
  obtain ⟨hname, operand, -, hop⟩ := body_of_parse h
  refine ⟨hname, ?_⟩
  rcases hop with ⟨hbare, -⟩ | ⟨-, hends, hop⟩
  · rw [hbare]
    trivial
  · exact wellFormed_of_readOperator hop hends

/-- A body is canonical unless it has numbers or slashes, which can be written in other ways. -/
theorem render_of_parse {body : Text} {e : Expansion} (h : parse body = .ok e)
    (hsubstring : e.op.kind ≠ .substring) (hreplace : ∀ scope, e.op.kind ≠ .replace scope) :
    e.render = body := by
  obtain ⟨-, operand, hbody, hop⟩ := body_of_parse h
  have hoperand : e.op.operand = operand := by
    rcases hop with ⟨hbare, rfl⟩ | ⟨hkind, -, hop⟩
    · rw [hbare]
      rfl
    · exact operand_of_readOperator hop (Kind.mem_introduced.mp hkind) hsubstring hreplace
  rw [hbody, ← hoperand]
  rfl

/-- Well-formed expansions are read back from their canonical bodies, and nothing else is ever
read; the canonical body of what is read is read as the same, and it is the body itself if there
are neither numbers nor slashes to write in another way. -/
theorem parse_roundTrip :
    (∀ e : Expansion, e.WellFormed → parse e.render = .ok e) ∧
      ∀ body e, parse body = .ok e →
        e.WellFormed ∧ parse e.render = .ok e ∧
          (e.op.kind ≠ .substring → (∀ scope, e.op.kind ≠ .replace scope) → e.render = body) := by
  refine ⟨fun e => parse_render, fun body e h => ?_⟩
  have hwell := wellFormed_of_parse h
  exact ⟨hwell, parse_render hwell, render_of_parse h⟩

/-- A pattern with a backslash of its own before a slash, and a number that is written with zeros
and a sign. -/
theorem parse_roundTrip_escapes :
    parse "!x/\\\\/b/\\/".toList =
        .ok ⟨⟨['x'], true⟩, .replace .first ['\\', '/', 'b'] ['/']⟩ ∧
      parse "x: +007".toList = .ok ⟨⟨['x'], false⟩, .substring 7 none⟩ ∧
      parse "x: 7".toList = .ok ⟨⟨['x'], false⟩, .substring 7 none⟩ := by
  have hread : parse "x: +007".toList = .ok ⟨⟨['x'], false⟩, .substring 7 none⟩ := by
    decide +kernel
  refine ⟨parse_roundTrip.1 ⟨⟨['x'], true⟩, .replace .first ['\\', '/', 'b'] ['/']⟩ ⟨rfl, ?_⟩,
    hread, (parse_roundTrip.2 _ _ hread).2.1⟩
  simp [Operator.WellFormed]

end Expansion

end ParameterExpansion
