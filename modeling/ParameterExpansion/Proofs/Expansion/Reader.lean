import Mathlib.Data.List.Basic
import ParameterExpansion.Expansion.Reader
import ParameterExpansion.Proofs.Text.Lexeme

/-!
What the reader of expansions accepts, one function at a time. A symbol is split off where no
longer one begins the text, every operand reader is inverted, and `parse_eq_ok_iff` puts them
together for a whole body.
-/
namespace ParameterExpansion

namespace Operator.Kind

theorem symbol_injective : ∀ a ∈ introduced, ∀ b ∈ introduced, a.symbol = b.symbol → a = b := by
  decide

/-- No symbol begins one that is tried after it. -/
theorem pairwise_introduced : introduced.Pairwise fun a b => ¬a.symbol <+: b.symbol := by
  decide

theorem length_symbol : ∀ kind ∈ introduced, 1 ≤ kind.symbol.length ∧ kind.symbol.length ≤ 2 := by
  decide

theorem mem_introduced {kind : Kind} : kind ∈ introduced ↔ kind ≠ .bare := by
  constructor
  · rintro h rfl
    exact absurd h (by decide)
  · intro h
    cases kind with
    | bare => exact absurd rfl h
    | remove side reach => cases side <;> cases reach <;> decide
    | replace scope => cases scope <;> decide
    | recase target which => cases target <;> cases which <;> decide
    | _ => decide

end Operator.Kind

namespace Expansion

open Operator (Kind)
open Operator.Kind (introduced)

/-! ### Symbols -/

/-- What is tried on a text for one kind. -/
theorem map_isPrefixOf?_eq_some_iff {k kind : Kind} {t operand : Text} :
    ((k.symbol.isPrefixOf? t).map fun operand => (k, operand)) = some (kind, operand) ↔
      k = kind ∧ t = k.symbol ++ operand := by
  simp only [Option.map_eq_some_iff, List.isPrefixOf?_eq_some_iff_append_eq, Prod.mk.injEq]
  constructor
  · rintro ⟨o, ht, rfl, rfl⟩
    exact ⟨rfl, ht.symm⟩
  · rintro ⟨rfl, ht⟩
    exact ⟨operand, ht.symm, rfl, rfl⟩

theorem symbol_of_splitSymbol {t operand : Text} {kind : Kind}
    (h : splitSymbol t = some (kind, operand)) :
    kind ∈ introduced ∧ t = kind.symbol ++ operand ∧
      ∀ k ∈ introduced, k.symbol <+: t → k.symbol.length ≤ kind.symbol.length := by
  obtain ⟨front, kind', back, hlist, hk, hfront⟩ := List.findSome?_eq_some_iff.mp h
  obtain ⟨rfl, ht⟩ := map_isPrefixOf?_eq_some_iff.mp hk
  have hpair := Kind.pairwise_introduced
  rw [hlist, List.pairwise_append, List.pairwise_cons] at hpair
  refine ⟨hlist ▸ List.mem_append_right front (List.mem_cons_self ..), ht, fun k hmem hpre => ?_⟩
  rw [hlist, List.mem_append, List.mem_cons] at hmem
  rcases hmem with hmem | rfl | hmem
  · -- a kind that was tried before did not fit
    obtain ⟨more, hmore⟩ := hpre
    have := hfront k hmem
    rw [map_isPrefixOf?_eq_some_iff.mpr ⟨rfl, hmore.symm⟩] at this
    cases this
  · exact Nat.le_refl _
  · refine Nat.le_of_not_lt fun hlt => hpair.2.1.1 k hmem ?_
    exact List.prefix_of_prefix_length_le ⟨operand, ht.symm⟩ hpre (Nat.le_of_lt hlt)

/-- The symbol that is split off is the longest that begins the text. -/
theorem splitSymbol_eq_some_iff {t operand : Text} {kind : Kind} :
    splitSymbol t = some (kind, operand) ↔
      kind ∈ introduced ∧ t = kind.symbol ++ operand ∧
        ∀ k ∈ introduced, k.symbol <+: t → k.symbol.length ≤ kind.symbol.length := by
  refine ⟨symbol_of_splitSymbol, fun ⟨hmem, ht, hlong⟩ => ?_⟩
  have hsome : (splitSymbol t).isSome = true := by
    rw [splitSymbol, List.isSome_findSome?, List.any_eq_true]
    refine ⟨kind, hmem, ?_⟩
    rw [map_isPrefixOf?_eq_some_iff.mpr ⟨rfl, ht⟩, Option.isSome_some]
  obtain ⟨⟨kind', operand'⟩, hs⟩ := Option.isSome_iff_exists.mp hsome
  obtain ⟨hmem', ht', hlong'⟩ := symbol_of_splitSymbol hs
  have hlen : kind'.symbol.length = kind.symbol.length :=
    Nat.le_antisymm (hlong kind' hmem' ⟨operand', ht'.symm⟩)
      (hlong' kind hmem ⟨operand, ht.symm⟩)
  obtain ⟨hsymbol, hoperand⟩ := List.append_inj (ht'.symm.trans ht) hlen
  rw [hs, Kind.symbol_injective kind' hmem' kind hmem hsymbol, hoperand]

/-- The code points that make the symbol of a kind a longer one. -/
def continuations (kind : Kind) : List Char :=
  introduced.filterMap fun k => (kind.symbol.isPrefixOf? k.symbol).bind List.head?

theorem mem_continuations_iff {kind : Kind} {c : Char} :
    c ∈ continuations kind ↔ ∃ k ∈ introduced, ∃ rest, k.symbol = kind.symbol ++ c :: rest := by
  simp only [continuations, List.mem_filterMap, Option.bind_eq_some_iff,
    List.isPrefixOf?_eq_some_iff_append_eq, List.head?_eq_some_iff]
  constructor
  · rintro ⟨k, hk, operand, hsymbol, rest, rfl⟩
    exact ⟨k, hk, rest, hsymbol.symm⟩
  · rintro ⟨k, hk, rest, hsymbol⟩
    exact ⟨k, hk, c :: rest, hsymbol.symm, rest, rfl⟩

/-- The operand does not make the symbol before it a longer one. -/
def Ends (kind : Kind) (operand : Text) : Prop :=
  ∀ c ∈ continuations kind, operand.head? ≠ some c

/-- A symbol is the longest one if the text does not go on with another. -/
theorem longest_iff_ends {kind : Kind} {operand : Text} (hkind : kind ∈ introduced) :
    (∀ k ∈ introduced, k.symbol <+: kind.symbol ++ operand →
      k.symbol.length ≤ kind.symbol.length) ↔ Ends kind operand := by
  constructor
  · intro h c hmem hc
    obtain ⟨rest, rfl⟩ := List.head?_eq_some_iff.mp hc
    obtain ⟨k, hk, more, hsymbol⟩ := mem_continuations_iff.mp hmem
    -- symbols have one or two code points, so this one goes on with just one
    have hlen := congrArg List.length hsymbol
    rw [List.length_append, List.length_cons] at hlen
    have hbounds := Kind.length_symbol kind hkind
    have hbounds' := Kind.length_symbol k hk
    obtain rfl : more = [] := List.eq_nil_of_length_eq_zero (by omega)
    have hpre : k.symbol <+: kind.symbol ++ c :: rest :=
      ⟨rest, by rw [hsymbol, List.append_assoc, List.singleton_append]⟩
    have hle := h k hk hpre
    omega
  · intro h k hk hpre
    refine Nat.le_of_not_lt fun hlt => ?_
    obtain ⟨more, hmore⟩ := List.prefix_of_prefix_length_le (List.prefix_append ..) hpre
      (Nat.le_of_lt hlt)
    rw [← hmore, List.prefix_append_right_inj] at hpre
    cases more with
    | nil =>
      rw [← hmore, List.append_nil] at hlt
      exact Nat.lt_irrefl _ hlt
    | cons c more =>
      obtain ⟨rest, rfl⟩ := hpre
      exact h c (mem_continuations_iff.mpr ⟨k, hk, more, hmore.symm⟩) rfl

theorem splitSymbol_append_iff {kind : Kind} {operand : Text} :
    splitSymbol (kind.symbol ++ operand) = some (kind, operand) ↔
      kind ∈ introduced ∧ Ends kind operand := by
  rw [splitSymbol_eq_some_iff]
  constructor
  · rintro ⟨hkind, -, hlong⟩
    exact ⟨hkind, (longest_iff_ends hkind).mp hlong⟩
  · rintro ⟨hkind, hends⟩
    exact ⟨hkind, rfl, (longest_iff_ends hkind).mpr hends⟩

/-! ### Operands -/

/-- A number is read if the field that begins the text has a value, and it is in bounds. -/
theorem readBound_eq_ok_iff {bound : Bound} {t rest : Text} {n : Int} :
    readBound bound t = .ok (n, rest) ↔
      ∃ field, splitInteger t = (field, rest) ∧ field.value? = some n ∧ InBounds n := by
  unfold readBound
  cases splitInteger t with
  | mk field after =>
    dsimp only
    constructor
    · intro h
      split at h
      · cases h
      · rename_i m hvalue
        by_cases hm : InBounds m
        · rw [if_pos hm] at h
          cases h
          exact ⟨field, rfl, hvalue, hm⟩
        · rw [if_neg hm] at h
          cases h
    · rintro ⟨_, hsplit, hvalue, hn⟩
      cases hsplit
      simp only [hvalue, if_pos hn]

/-- A substring operator is an offset, or an offset, a colon and a length. -/
theorem readSubstring_eq_ok_iff {body t : Text} {op : Operator} :
    readSubstring body t = .ok op ↔
      (∃ offset, readBound .offset t = .ok (offset, []) ∧ op = .substring offset none) ∨
        ∃ offset rest length, readBound .offset t = .ok (offset, ':' :: rest) ∧
          readBound .length rest = .ok (length, []) ∧ op = .substring offset (some length) := by
  constructor
  · intro h
    unfold readSubstring at h
    split at h
    · cases h
    · rename_i offset ho
      cases h
      exact .inl ⟨offset, ho, rfl⟩
    · rename_i offset c rest ho
      by_cases hc : c = ':'
      · rw [if_pos hc] at h
        subst c
        split at h
        · cases h
        · rename_i length hl
          cases h
          exact .inr ⟨offset, rest, length, ho, hl, rfl⟩
        · cases h
      · rw [if_neg hc] at h
        cases h
  · rintro (⟨offset, ho, rfl⟩ | ⟨offset, rest, length, ho, hl, rfl⟩)
    · simp only [readSubstring, ho]
    · simp only [readSubstring, ho, if_true, hl]

theorem readReplacement_eq_ok_iff {scope : Scope} {operand : Text} {op : Operator} :
    readReplacement scope operand = .ok op ↔
      ∃ p r, splitSlash false operand = some (p, r) ∧
        op = .replace scope (unescapeSlash p) (unescapeSlash r) := by
  constructor
  · intro h
    unfold readReplacement at h
    split at h
    · cases h
    · rename_i p r hs
      cases h
      exact ⟨p, r, hs, rfl⟩
  · rintro ⟨p, r, hs, rfl⟩
    simp only [readReplacement, hs]

theorem readTransformation_eq_ok_iff {body t : Text} {op : Operator} :
    readTransformation body t = .ok op ↔
      ∃ c ∈ transformationLetters, t = [c] ∧ op = .transformation [c] := by
  constructor
  · intro h
    cases t with
    | nil => cases h
    | cons c rest =>
      by_cases hc : c ∈ transformationLetters
      · rw [readTransformation, if_pos hc] at h
        split at h
        · cases h
          subst rest
          exact ⟨c, hc, rfl, rfl⟩
        · cases h
      · rw [readTransformation, if_neg hc] at h
        cases h
  · rintro ⟨c, hc, rfl, rfl⟩
    rw [readTransformation, if_pos hc, if_pos rfl]

/-- Whatever is read for a kind is an operator of that kind. -/
theorem kind_of_readOperator {body operand : Text} {kind : Kind} {op : Operator}
    (h : readOperator body operand kind = .ok op) : op.kind = kind := by
  cases kind with
  | substring =>
    rcases readSubstring_eq_ok_iff.mp h with ⟨o, -, rfl⟩ | ⟨o, rest, l, -, -, rfl⟩
    · rfl
    · rfl
  | replace scope =>
    obtain ⟨p, r, -, rfl⟩ := readReplacement_eq_ok_iff.mp h
    rfl
  | transformation =>
    obtain ⟨c, -, -, rfl⟩ := readTransformation_eq_ok_iff.mp h
    rfl
  | _ =>
    cases h
    rfl

/-! ### Bodies -/

/-- The exclamation mark of an indirect reference. -/
def bang (indirect : Bool) : Text :=
  if indirect then ['!'] else []

theorem splitIndirect_of_head {t : Text} (h : t.head? ≠ some '!') :
    splitIndirect t = (false, t) := by
  rw [splitIndirect]
  rintro rest rfl
  exact h rfl

theorem body_of_splitIndirect {body t : Text} {indirect : Bool}
    (h : splitIndirect body = (indirect, t)) : body = bang indirect ++ t := by
  unfold splitIndirect at h
  split at h
  · cases h
    rfl
  · cases h
    rfl

/-- No name begins with an exclamation mark, so the one before a name is always split off. -/
theorem splitIndirect_bang {name : Text} (hname : isName name = true) (rest : Text)
    (indirect : Bool) : splitIndirect (bang indirect ++ (name ++ rest)) =
      (indirect, name ++ rest) := by
  cases indirect with
  | true => rfl
  | false =>
    refine splitIndirect_of_head fun hhead => ?_
    cases name with
    | nil => cases hname
    | cons c name =>
      cases hhead
      exact absurd (isName_cons_iff.mp hname).1 (by decide)

/-- Nothing is read but a name, and what may stand before and after it. -/
theorem exists_name_of_parse {body : Text} {e : Expansion} (h : parse body = .ok e) :
    ∃ indirect name rest, body = bang indirect ++ (name ++ rest) ∧ isName name = true ∧
      ∀ c ∈ rest.head?, isNameRest c = false := by
  unfold parse at h
  split at h
  · cases h
  · cases hi : splitIndirect body with
    | mk indirect t =>
      cases hn : splitName t with
      | none =>
        simp only [hi, hn] at h
        cases h
      | some split =>
        obtain ⟨name, rest⟩ := split
        obtain ⟨hname, rfl, hrest⟩ := splitName_eq_some_iff.mp hn
        exact ⟨indirect, name, rest, body_of_splitIndirect hi, hname, hrest⟩

theorem map_eq_error_iff {x : Except ε α} {f : α → β} {e : ε} :
    x.map f = .error e ↔ x = .error e := by
  cases x with
  | error e' => simp [Except.map]
  | ok a => simp [Except.map]

/-- What a body with a name is read as depends on what follows the name. -/
theorem parse_name {body name rest : Text} {indirect : Bool}
    (hbody : body = bang indirect ++ (name ++ rest)) (hname : isName name = true)
    (hrest : ∀ c ∈ rest.head?, isNameRest c = false) :
    parse body =
      if rest = [] then .ok ⟨⟨name, indirect⟩, .bare⟩
      else match splitSymbol rest with
        | none => .error (.unsupported body)
        | some (kind, operand) =>
          (readOperator body operand kind).map fun op => ⟨⟨name, indirect⟩, op⟩ := by
  have hi : splitIndirect body = (indirect, name ++ rest) :=
    hbody ▸ splitIndirect_bang hname rest indirect
  have hn : splitName (name ++ rest) = some (name, rest) :=
    splitName_eq_some_iff.mpr ⟨hname, rfl, hrest⟩
  have hne : body ≠ [] := by
    rintro rfl
    have hnil := (List.append_eq_nil_iff.mp hbody.symm).2
    rw [(List.append_eq_nil_iff.mp hnil).1] at hname
    cases hname
  simp only [parse, if_neg hne, hi, hn]
  cases rest with
  | nil => rfl
  | cons c rest => rfl

/-- A body is a mark for an indirect reference, the longest name, and nothing, or the longest
symbol and an operand that can be read. -/
theorem parse_eq_ok_iff {body : Text} {e : Expansion} :
    parse body = .ok e ↔
      ∃ rest, body = bang e.ref.indirect ++ (e.ref.name ++ rest) ∧
        isName e.ref.name = true ∧ (∀ c ∈ rest.head?, isNameRest c = false) ∧
        (rest = [] ∧ e.op = .bare ∨ ∃ kind operand,
          splitSymbol rest = some (kind, operand) ∧ readOperator body operand kind = .ok e.op) := by
  constructor
  · intro h
    obtain ⟨indirect, name, rest, hbody, hname, hrest⟩ := exists_name_of_parse h
    rw [parse_name hbody hname hrest] at h
    split at h
    · rename_i hnil
      cases h
      exact ⟨rest, hbody, hname, hrest, .inl ⟨hnil, rfl⟩⟩
    · split at h
      · cases h
      · rename_i kind operand hs
        cases hop : readOperator body operand kind with
        | error err => rw [hop] at h; cases h
        | ok op =>
          rw [hop] at h
          cases h
          exact ⟨rest, hbody, hname, hrest, .inr ⟨kind, operand, hs, hop⟩⟩
  · rintro ⟨rest, hbody, hname, hrest, hop⟩
    obtain ⟨⟨name, indirect⟩, op⟩ := e
    rw [parse_name hbody hname hrest]
    rcases hop with ⟨rfl, rfl⟩ | ⟨kind, operand, hs, hop⟩
    · rw [if_pos rfl]
    · have hne : rest ≠ [] := by
        rintro rfl
        cases hs
      simp only [if_neg hne, hs, hop]
      rfl

end Expansion

end ParameterExpansion
