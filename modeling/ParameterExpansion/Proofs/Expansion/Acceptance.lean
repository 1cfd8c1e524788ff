import ParameterExpansion.Proofs.Expansion.RoundTrip

/-!
Which bodies are read, as what, and with which error the others are refused. `Reads` says it rule by
rule without regard to how a body is taken apart, for every body but those of a substring operator,
and the reader is proved to be this relation: every body has one outcome, and it is that of the one
rule that fits the body.
-/
namespace ParameterExpansion.Expansion

open Operator (Kind)
open Operator.Kind (introduced)

/-- Every slash of the text has a backslash right before it. -/
def AllEscaped (t : Text) : Prop :=
  ∀ front back, t = front ++ '/' :: back → front.getLast? = some '\\'

/-- The operand behind a symbol that is not a lone colon, and what comes of it. -/
inductive OperandReads (body : Text) : Kind → Text → Except Error Operator → Prop where
  | fallback (t : Text) : OperandReads body .fallback t (.ok (.fallback t))
  | alternate (t : Text) : OperandReads body .alternate t (.ok (.alternate t))
  | require (t : Text) : OperandReads body .require t (.ok (.require t))
  | remove (side : Side) (reach : Reach) (t : Text) :
      OperandReads body (.remove side reach) t (.ok (.remove side reach t))
  | recase (target : LetterCase) (which : Occurrence) (t : Text) :
      OperandReads body (.recase target which) t (.ok (.recase target which t))
  /-- No slash ends the pattern. -/
  | unsplit (scope : Scope) {t : Text} (h : AllEscaped t) :
      OperandReads body (.replace scope) t (.error (.malformed (.missingSlash t)))
  /-- The first slash that is not escaped ends the pattern. -/
  | split (scope : Scope) {p : Text} (r : Text) (hfirst : AllEscaped p)
      (hbare : p.getLast? ≠ some '\\') :
      OperandReads body (.replace scope) (p ++ '/' :: r)
        (.ok (.replace scope (unescapeSlash p) (unescapeSlash r)))
  | transformation {c : Char} (h : c ∈ transformationLetters) :
      OperandReads body .transformation [c] (.ok (.transformation [c]))
  | excess {c : Char} {t : Text} (h : c ∈ transformationLetters) (hne : t ≠ []) :
      OperandReads body .transformation (c :: t) (.error (.unsupported body))
  | unknown {t : Text} (h : ∀ c ∈ t.head?, c ∉ transformationLetters) :
      OperandReads body .transformation t (.error (.malformed (.unknownTransformation (t.take 1))))

/-- A body and what comes of it. An exclamation mark in front is no part of what follows it, a name
goes as far as it can, and so does the symbol behind it. -/
inductive Reads : Text → Except Error Expansion → Prop where
  | empty : Reads [] (.error (.malformed .empty))
  | unnamed {indirect : Bool} {t : Text} (hne : bang indirect ++ t ≠ [])
      (hmark : indirect = false → t.head? ≠ some '!')
      (hstart : ∀ c ∈ t.head?, isNameStart c = false) :
      Reads (bang indirect ++ t) (.error .invalidName)
  | bare (indirect : Bool) {name : Text} (hname : isName name = true) :
      Reads (bang indirect ++ name) (.ok ⟨⟨name, indirect⟩, .bare⟩)
  | noSymbol (indirect : Bool) {name rest : Text} (hname : isName name = true) (hne : rest ≠ [])
      (hrest : ∀ c ∈ rest.head?, isNameRest c = false)
      (hnone : ∀ kind ∈ introduced, ¬kind.symbol <+: rest) :
      Reads (bang indirect ++ (name ++ rest))
        (.error (.unsupported (bang indirect ++ (name ++ rest))))
  | symbol (indirect : Bool) {name operand : Text} {kind : Kind} {outcome : Except Error Operator}
      (hname : isName name = true) (hkind : kind ∈ introduced)
      (hlongest : ∀ k ∈ introduced, k.symbol <+: kind.symbol ++ operand →
        k.symbol.length ≤ kind.symbol.length)
      (h : OperandReads (bang indirect ++ (name ++ (kind.symbol ++ operand))) kind operand
        outcome) :
      Reads (bang indirect ++ (name ++ (kind.symbol ++ operand)))
        (outcome.map fun op => ⟨⟨name, indirect⟩, op⟩)

/-- A name, and a colon that is a symbol by itself. -/
def IsSubstring (body : Text) : Prop :=
  ∃ indirect name t, body = bang indirect ++ (name ++ ':' :: t) ∧ isName name = true ∧
    t.head? ≠ some '-' ∧ t.head? ≠ some '+' ∧ t.head? ≠ some '?'

/-! ### Operands -/

section Operands

variable {body operand : Text} {kind : Kind} {outcome : Except Error Operator}

theorem reads_replacement (body : Text) (scope : Scope) (operand : Text) :
    OperandReads body (.replace scope) operand (readReplacement scope operand) := by
  rw [readReplacement]
  cases hs : splitSlash false operand with
  | none => exact .unsplit scope (guarded_false_iff.mp (splitSlash_eq_none_iff.mp hs))
  | some split =>
    obtain ⟨p, r⟩ := split
    obtain ⟨rfl, hbare, hfirst⟩ := splitSlash_eq_some_iff.mp hs
    exact .split scope r (guarded_false_iff.mp hfirst) (escapedAfter_false_iff.mp hbare)

theorem reads_transformation (body operand : Text) :
    OperandReads body .transformation operand (readTransformation body operand) := by
  cases operand with
  | nil => exact .unknown fun _ hc => nomatch hc
  | cons c t =>
    rw [readTransformation]
    by_cases hc : c ∈ transformationLetters
    · rw [if_pos hc]
      split
      · subst t
        exact .transformation hc
      · rename_i hne
        exact .excess hc hne
    · rw [if_neg hc]
      refine .unknown fun d hd => ?_
      cases hd
      exact hc

/-- What is read of an operand is what its rule says. -/
theorem reads_operand (body operand : Text) (hbare : kind ≠ .bare)
    (hsubstring : kind ≠ .substring) :
    OperandReads body kind operand (readOperator body operand kind) := by
  cases kind with
  | bare => exact absurd rfl hbare
  | substring => exact absurd rfl hsubstring
  | fallback => exact .fallback operand
  | alternate => exact .alternate operand
  | require => exact .require operand
  | remove side reach => exact .remove side reach operand
  | replace scope => exact reads_replacement body scope operand
  | recase target which => exact .recase target which operand
  | transformation => exact reads_transformation body operand

/-- Only one rule fits an operand. -/
theorem readOperator_of_reads (h : OperandReads body kind operand outcome) :
    readOperator body operand kind = outcome := by
  cases h with
  | unsplit scope h =>
    have hs : splitSlash false operand = none :=
      splitSlash_eq_none_iff.mpr (guarded_false_iff.mpr h)
    simp only [readOperator, readReplacement, hs]
  | @split scope p r hfirst hbare =>
    have hs : splitSlash false (p ++ '/' :: r) = some (p, r) :=
      splitSlash_eq_some_iff.mpr
        ⟨rfl, escapedAfter_false_iff.mpr hbare, guarded_false_iff.mpr hfirst⟩
    simp only [readOperator, readReplacement, hs]
  | transformation h => rw [readOperator, readTransformation, if_pos h, if_pos rfl]
  | excess h hne => rw [readOperator, readTransformation, if_pos h, if_neg hne]
  | unknown h =>
    cases operand with
    | nil => rfl
    | cons c t =>
      rw [readOperator, readTransformation, if_neg (h c rfl)]
      rfl
  | _ => rfl

end Operands

/-! ### Bodies -/

theorem splitSymbol_eq_none_iff {t : Text} :
    splitSymbol t = none ↔ ∀ kind ∈ introduced, ¬kind.symbol <+: t := by
  rw [splitSymbol, List.findSome?_eq_none_iff]
  refine forall₂_congr fun kind _ => ?_
  rw [← Option.not_isSome_iff_eq_none, Option.isSome_iff_exists, not_iff_not]
  constructor
  · rintro ⟨⟨k, operand⟩, h⟩
    exact ⟨operand, (map_isPrefixOf?_eq_some_iff.mp h).2.symm⟩
  · rintro ⟨operand, h⟩
    exact ⟨(kind, operand), map_isPrefixOf?_eq_some_iff.mpr ⟨rfl, h.symm⟩⟩

theorem splitName_eq_none_iff {t : Text} :
    splitName t = none ↔ ∀ c ∈ t.head?, isNameStart c = false := by
  cases t with
  | nil => simp [splitName]
  | cons c t => simp [splitName]

/-- An exclamation mark that is left is not the first. -/
theorem mark_of_splitIndirect {body t : Text} {indirect : Bool}
    (h : splitIndirect body = (indirect, t)) : indirect = false → t.head? ≠ some '!' := by
  unfold splitIndirect at h
  split at h
  · cases h
    exact fun hfalse => nomatch hfalse
  · rename_i hfirst
    cases h
    intro _ hhead
    obtain ⟨rest, hrest⟩ := List.head?_eq_some_iff.mp hhead
    exact hfirst rest hrest

theorem parse_unnamed {indirect : Bool} {t : Text} (hne : bang indirect ++ t ≠ [])
    (hmark : indirect = false → t.head? ≠ some '!')
    (hstart : ∀ c ∈ t.head?, isNameStart c = false) :
    parse (bang indirect ++ t) = .error .invalidName := by
  have hi : splitIndirect (bang indirect ++ t) = (indirect, t) := by
    cases indirect with
    | true => rfl
    | false => exact splitIndirect_of_head (hmark rfl)
  simp only [parse, if_neg hne, hi, splitName_eq_none_iff.mpr hstart]

/-- Behind a name a body is read by the rule that fits what follows it. -/
theorem reads_named {body name rest : Text} {indirect : Bool}
    (hbody : body = bang indirect ++ (name ++ rest)) (hname : isName name = true)
    (hrest : ∀ c ∈ rest.head?, isNameRest c = false) (h : ¬IsSubstring body) :
    Reads body (parse body) := by
  rw [parse_name hbody hname hrest]
  subst hbody
  by_cases hne : rest = []
  · rw [if_pos hne, hne, List.append_nil]
    exact .bare indirect hname
  rw [if_neg hne]
  cases hs : splitSymbol rest with
  | none => exact .noSymbol indirect hname hne hrest (splitSymbol_eq_none_iff.mp hs)
  | some split =>
    obtain ⟨kind, operand⟩ := split
    obtain ⟨hkind, rfl, hlongest⟩ := splitSymbol_eq_some_iff.mp hs
    have hsubstring : kind ≠ .substring := by
      rintro rfl
      have hends := (longest_iff_ends hkind).mp hlongest
      exact h ⟨indirect, name, operand, rfl, hname, ends_substring_iff.mp hends⟩
    exact .symbol indirect hname hkind hlongest
      (reads_operand _ operand (Kind.mem_introduced.mp hkind) hsubstring)

/-- Some rule fits every body, and tells what it is read as. -/
theorem reads_parse {body : Text} (h : ¬IsSubstring body) : Reads body (parse body) := by
  by_cases hne : body = []
  · rw [hne]
    exact .empty
  cases hi : splitIndirect body with
  | mk indirect t =>
    obtain rfl := body_of_splitIndirect hi
    cases hn : splitName t with
    | none =>
      have hstart := splitName_eq_none_iff.mp hn
      have hmark := mark_of_splitIndirect hi
      rw [parse_unnamed hne hmark hstart]
      exact .unnamed hne hmark hstart
    | some split =>
      obtain ⟨name, rest⟩ := split
      obtain ⟨hname, rfl, hrest⟩ := splitName_eq_some_iff.mp hn
      exact reads_named rfl hname hrest h

/-- Only one rule fits a body. -/
theorem parse_of_reads {body : Text} {outcome : Except Error Expansion} (h : Reads body outcome) :
    parse body = outcome := by
  cases h with
  | empty => rfl
  | unnamed hne hmark hstart => exact parse_unnamed hne hmark hstart
  | @bare indirect name hname =>
    have hbody : bang indirect ++ name = bang indirect ++ (name ++ []) := by rw [List.append_nil]
    have hend : ∀ c ∈ ([] : Text).head?, isNameRest c = false := fun _ hc => nomatch hc
    rw [parse_name hbody hname hend, if_pos rfl]
  | noSymbol indirect hname hne hrest hnone =>
    rw [parse_name rfl hname hrest, if_neg hne, splitSymbol_eq_none_iff.mpr hnone]
  | @symbol indirect name operand kind outcome hname hkind hlongest h =>
    have hne : kind.symbol ++ operand ≠ [] := by
      intro hnil
      have hlength := (Kind.length_symbol kind hkind).1
      rw [(List.append_eq_nil_iff.mp hnil).1] at hlength
      exact absurd hlength (by decide)
    have hs := splitSymbol_eq_some_iff.mpr ⟨hkind, rfl, hlongest⟩
    rw [parse_name rfl hname (isNameRest_symbol_append hkind operand), if_neg hne, hs,
      ← readOperator_of_reads h]

theorem error_of_operandReads {body operand : Text} {kind : Kind} {err : Error}
    (h : OperandReads body kind operand (.error err)) :
    (∃ why, err = .malformed why) ∨ err = .unsupported body := by
  cases h with
  | unsplit => exact .inl ⟨_, rfl⟩
  | excess => exact .inr rfl
  | unknown => exact .inl ⟨_, rfl⟩

theorem error_of_reads {body : Text} {err : Error} {outcome : Except Error Expansion}
    (h : Reads body outcome) (he : outcome = .error err) :
    (∃ why, err = .malformed why) ∨ err = .invalidName ∨ err = .unsupported body := by
  cases h with
  | empty =>
    cases he
    exact .inl ⟨_, rfl⟩
  | unnamed =>
    cases he
    exact .inr (.inl rfl)
  | bare => cases he
  | noSymbol =>
    cases he
    exact .inr (.inr rfl)
  | symbol indirect hname hkind hlongest h =>
    exact (error_of_operandReads (map_eq_error_iff.mp he ▸ h)).imp_right .inr

/-- A body that is not that of a substring operator is read as its one rule says. Where it is
refused, the expression is malformed, and of no narrower class, or it has no valid name, or it is
not supported and given as a whole. -/
theorem parse_eq_iff_reads {body : Text} (h : ¬IsSubstring body) :
    (∀ outcome, parse body = outcome ↔ Reads body outcome) ∧
      ∀ err, parse body = .error err →
        (∃ why, err = .malformed why ∧ err.category = .malformed) ∨
          (err = .invalidName ∧ err.category = .invalidName) ∨
            (err = .unsupported body ∧ err.category = .unsupported) := by
  refine ⟨fun outcome => ⟨?_, parse_of_reads⟩, fun err he => ?_⟩
  · rintro rfl
    exact reads_parse h
  · rcases error_of_reads (reads_parse h) he with ⟨why, rfl⟩ | rfl | rfl
    · exact .inl ⟨why, rfl, rfl⟩
    · exact .inr (.inl ⟨rfl, rfl⟩)
    · exact .inr (.inr ⟨rfl, rfl⟩)

theorem IsSubstring.colon_mem {body : Text} (h : IsSubstring body) : ':' ∈ body := by
  obtain ⟨indirect, name, t, rfl, -⟩ := h
  simp

/-- The longest symbol wins, only the first slash without a backslash splits, and a letter is
followed by nothing. -/
theorem parse_eq_iff_reads_slashes :
    ¬IsSubstring "!x//\\/a/\\\\/b/c".toList ∧
    parse "!x//\\/a/\\\\/b/c".toList =
      .ok ⟨⟨['x'], true⟩, .replace .all "/a".toList "\\/b/c".toList⟩ ∧
    ¬IsSubstring "x/%\\/".toList ∧
    parse "x/%\\/".toList = .error (.malformed (.missingSlash "\\/".toList)) ∧
    ¬IsSubstring "x@UU".toList ∧ parse "x@UU".toList = .error (.unsupported "x@UU".toList) := by
  have hall : ¬IsSubstring "!x//\\/a/\\\\/b/c".toList := fun h => absurd h.colon_mem (by decide)
  have hend : ¬IsSubstring "x/%\\/".toList := fun h => absurd h.colon_mem (by decide)
  have hletter : ¬IsSubstring "x@UU".toList := fun h => absurd h.colon_mem (by decide)
  have hescaped : ∀ {t : Text}, splitSlash false t = none → AllEscaped t := fun hs =>
    guarded_false_iff.mp (splitSlash_eq_none_iff.mp hs)
  have hx : isName ['x'] = true := rfl
  refine ⟨hall, ((parse_eq_iff_reads hall).1 _).mpr ?_, hend,
    ((parse_eq_iff_reads hend).1 _).mpr ?_, hletter, ((parse_eq_iff_reads hletter).1 _).mpr ?_⟩
  · have hreads : ∀ body, OperandReads body (.replace .all) "\\/a/\\\\/b/c".toList
        (.ok (.replace .all "/a".toList "\\/b/c".toList)) := fun _ =>
      .split .all "\\\\/b/c".toList (hescaped (t := "\\/a".toList) (by decide)) (by decide)
    exact .symbol true hx (by decide) (by decide) (hreads _)
  · have hreads : ∀ body, OperandReads body (.replace .atEnd) "\\/".toList
        (.error (.malformed (.missingSlash "\\/".toList))) := fun _ =>
      .unsplit .atEnd (hescaped (by decide))
    exact .symbol false hx (by decide) (by decide) (hreads _)
  · have hreads : ∀ body, OperandReads body .transformation ['U', 'U']
        (.error (.unsupported body)) := fun _ =>
      .excess (by decide) (List.cons_ne_nil 'U' [])
    exact .symbol false hx (by decide) (by decide) (hreads _)

end ParameterExpansion.Expansion
