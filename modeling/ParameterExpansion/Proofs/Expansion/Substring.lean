import ParameterExpansion.Proofs.Expansion.RoundTrip

/-!
The numbers of a substring operator. Each is read as far as a sign, digits and the blanks around
them go, and what has been read is then a number or an error; only behind good numbers does the text
that is left over count. `readBound_of_heads` has the whole of reading one number, and what is said
of the operator and of the body follows from it from left to right.
-/
namespace ParameterExpansion

/-- The field is a number, and the number is in bounds. -/
structure IntegerField.Valid (f : IntegerField) : Prop where
  shaped : f.WellShaped
  numeric : f.Numeric
  inBounds : InBounds f.number

instance (f : IntegerField) : Decidable f.Valid :=
  decidable_of_iff (f.WellShaped ∧ f.Numeric ∧ InBounds f.number)
    ⟨fun ⟨hshaped, hnumeric, hbounds⟩ => ⟨hshaped, hnumeric, hbounds⟩,
    fun h => ⟨h.shaped, h.numeric, h.inBounds⟩⟩

theorem IntegerField.Valid.digits_ne_nil {f : IntegerField} (hf : f.Valid) : f.digits ≠ [] :=
  List.ne_nil_of_length_pos hf.numeric.1

namespace Expansion

open Operator (Kind)
open Operator.Kind (introduced)

/-- An offset, or an offset, a colon and a length, and what they are. -/
inductive SubstringOperand : Text → Int → Option Int → Prop where
  | offset {f : IntegerField} (hf : f.Valid) : SubstringOperand f.written f.number none
  | offsetLength {f g : IntegerField} (hf : f.Valid) (hg : g.Valid) :
      SubstringOperand (f.written ++ ':' :: g.written) f.number (some g.number)

/-- What is wrong with the number that begins a text. -/
inductive BoundError (bound : Bound) (t : Text) : Error → Prop where
  | nonNumeric {f : IntegerField} {rest : Text} (read : f.Heads t rest) (h : ¬f.Numeric) :
      BoundError bound t (.malformed (.nonNumeric bound))
  | outOfRange {f : IntegerField} {rest : Text} (read : f.Heads t rest) (h : f.Numeric)
      (out : ¬InBounds f.number) : BoundError bound t (.malformed (.outOfRange bound f.numeral))

/-- What is wrong with the operand of a substring operator: with the offset, with a length behind a
good offset, or with what is left over behind good numbers. -/
inductive SubstringError (body t : Text) : Error → Prop where
  | offset {err : Error} (h : BoundError .offset t err) : SubstringError body t err
  | length {f : IntegerField} {t' : Text} {err : Error} (read : f.Heads t (':' :: t'))
      (good : f.Valid) (h : BoundError .length t' err) : SubstringError body t err
  | behindOffset {f : IntegerField} {rest : Text} (read : f.Heads t rest) (good : f.Valid)
      (hne : rest ≠ []) (hcolon : rest.head? ≠ some ':') :
      SubstringError body t (.unsupported body)
  | behindLength {f g : IntegerField} {t' rest : Text} (read : f.Heads t (':' :: t'))
      (good : f.Valid) (read' : g.Heads t' rest) (good' : g.Valid) (hne : rest ≠ []) :
      SubstringError body t (.unsupported body)

/-! ### One number -/

section Bound

variable {bound : Bound} {f : IntegerField} {t rest : Text} {n : Int} {err : Error}

/-- The field that begins a text, read as far as it goes, decides about the number. -/
theorem readBound_of_heads (bound : Bound) (h : f.Heads t rest) :
    readBound bound t =
      if f.Numeric then
        if InBounds f.number then .ok (f.number, rest)
        else .error (.malformed (.outOfRange bound f.numeral))
      else .error (.malformed (.nonNumeric bound)) := by
  have hread := heads_splitInteger t
  rw [readBound]
  cases hs : splitInteger t with
  | mk g after =>
    rw [hs] at hread
    obtain ⟨hsign, hdigits, rfl⟩ := hread.unique h
    have hnumber : g.number = f.number := by
      rw [IntegerField.number, IntegerField.number, hsign, hdigits]
    have hnumeral : g.numeral = f.numeral := by
      rw [IntegerField.numeral, IntegerField.numeral, hsign, hdigits]
    have hnumeric : g.Numeric ↔ f.Numeric := by
      rw [IntegerField.Numeric, IntegerField.Numeric, hdigits]
    by_cases hf : f.Numeric
    · simp only [IntegerField.value?_eq, if_pos hf, if_pos (hnumeric.mpr hf), hnumber, hnumeral]
    · simp only [IntegerField.value?_eq, if_neg hf, if_neg (mt hnumeric.mp hf)]

theorem readBound_eq_ok_iff_heads :
    readBound bound t = .ok (n, rest) ↔
      ∃ f : IntegerField, f.Heads t rest ∧ f.Valid ∧ f.number = n := by
  constructor
  · intro h
    have hread := heads_splitInteger t
    rw [readBound_of_heads bound hread] at h
    split at h
    · rename_i hnumeric
      split at h
      · rename_i hbounds
        cases h
        exact ⟨_, hread, ⟨hread.shaped, hnumeric, hbounds⟩, rfl⟩
      · cases h
    · cases h
  · rintro ⟨f, hread, hvalid, rfl⟩
    rw [readBound_of_heads bound hread, if_pos hvalid.numeric, if_pos hvalid.inBounds]

theorem readBound_eq_error_iff : readBound bound t = .error err ↔ BoundError bound t err := by
  constructor
  · intro h
    have hread := heads_splitInteger t
    rw [readBound_of_heads bound hread] at h
    split at h
    · rename_i hnumeric
      split at h
      · cases h
      · rename_i hbounds
        cases h
        exact .outOfRange hread hnumeric hbounds
    · rename_i hnumeric
      cases h
      exact .nonNumeric hread hnumeric
  · intro h
    cases h with
    | nonNumeric hread hnumeric => rw [readBound_of_heads bound hread, if_neg hnumeric]
    | outOfRange hread hnumeric hbounds =>
      rw [readBound_of_heads bound hread, if_pos hnumeric, if_neg hbounds]

end Bound

/-! ### The operator -/

section Operator

variable {body t : Text} {err : Error}

/-- A substring operator is read from an offset alone, or from both numbers, and nothing else. -/
theorem readSubstring_eq_ok_iff_operand {op : Operator} :
    readSubstring body t = .ok op ↔
      ∃ offset length, op = .substring offset length ∧ SubstringOperand t offset length := by
  rw [readSubstring_eq_ok_iff]
  constructor
  · rintro (⟨offset, ho, rfl⟩ | ⟨offset, rest, length, ho, hl, rfl⟩)
    · obtain ⟨f, hread, hf, rfl⟩ := readBound_eq_ok_iff_heads.mp ho
      obtain rfl : t = f.written := hread.text.trans (List.append_nil _)
      exact ⟨_, _, rfl, .offset hf⟩
    · obtain ⟨f, hread, hf, rfl⟩ := readBound_eq_ok_iff_heads.mp ho
      obtain ⟨g, hread', hg, rfl⟩ := readBound_eq_ok_iff_heads.mp hl
      obtain rfl : rest = g.written := hread'.text.trans (List.append_nil _)
      obtain rfl := hread.text
      exact ⟨_, _, rfl, .offsetLength hf hg⟩
  · rintro ⟨offset, length, rfl, hoperand⟩
    cases hoperand with
    | @offset f hf =>
      have hread := hf.shaped.heads_end hf.digits_ne_nil
      exact .inl ⟨_, readBound_eq_ok_iff_heads.mpr ⟨f, hread, hf, rfl⟩, rfl⟩
    | @offsetLength f g hf hg =>
      have hread := hf.shaped.heads_cons hf.digits_ne_nil (c := ':') (by decide) g.written
      have hread' := hg.shaped.heads_end hg.digits_ne_nil
      exact .inr ⟨_, g.written, _, readBound_eq_ok_iff_heads.mpr ⟨f, hread, hf, rfl⟩,
        readBound_eq_ok_iff_heads.mpr ⟨g, hread', hg, rfl⟩, rfl⟩

/-- The first thing that is wrong, from left to right, decides about the error. -/
theorem readSubstring_eq_error_iff :
    readSubstring body t = .error err ↔ SubstringError body t err := by
  constructor
  · intro h
    unfold readSubstring at h
    split at h
    · rename_i e ho
      cases h
      exact .offset (readBound_eq_error_iff.mp ho)
    · cases h
    · rename_i offset c rest ho
      obtain ⟨f, hread, hf, -⟩ := readBound_eq_ok_iff_heads.mp ho
      by_cases hc : c = ':'
      · subst c
        rw [if_pos rfl] at h
        split at h
        · rename_i e hl
          cases h
          exact .length hread hf (readBound_eq_error_iff.mp hl)
        · cases h
        · rename_i length d more hl
          cases h
          obtain ⟨g, hread', hg, -⟩ := readBound_eq_ok_iff_heads.mp hl
          exact .behindLength hread hf hread' hg (List.cons_ne_nil d more)
      · rw [if_neg hc] at h
        cases h
        have hcolon : (c :: rest).head? ≠ some ':' := fun hhead => hc (Option.some.inj hhead)
        exact .behindOffset hread hf (List.cons_ne_nil c rest) hcolon
  · intro h
    cases h with
    | offset h => simp only [readSubstring, readBound_eq_error_iff.mpr h]
    | @length f t' _ hread hf h =>
      have ho : readBound .offset t = .ok (f.number, ':' :: t') :=
        readBound_eq_ok_iff_heads.mpr ⟨f, hread, hf, rfl⟩
      simp only [readSubstring, ho, if_true, readBound_eq_error_iff.mpr h]
    | @behindOffset f rest hread hf hne hcolon =>
      have ho : readBound .offset t = .ok (f.number, rest) :=
        readBound_eq_ok_iff_heads.mpr ⟨f, hread, hf, rfl⟩
      obtain ⟨c, more, rfl⟩ := List.exists_cons_of_ne_nil hne
      have hc : c ≠ ':' := fun he => hcolon (by rw [he]; rfl)
      simp only [readSubstring, ho, if_neg hc]
    | @behindLength f g t' rest hread hf hread' hg hne =>
      have ho : readBound .offset t = .ok (f.number, ':' :: t') :=
        readBound_eq_ok_iff_heads.mpr ⟨f, hread, hf, rfl⟩
      have hl : readBound .length t' = .ok (g.number, rest) :=
        readBound_eq_ok_iff_heads.mpr ⟨g, hread', hg, rfl⟩
      obtain ⟨c, more, rfl⟩ := List.exists_cons_of_ne_nil hne
      simp only [readSubstring, ho, if_true, hl]

end Operator

/-! ### The body -/

/-- A colon that is a symbol by itself makes a substring operator of what follows it. -/
theorem parse_colon {name t : Text} (hname : isName name = true)
    (ht : t.head? ≠ some '-' ∧ t.head? ≠ some '+' ∧ t.head? ≠ some '?') (indirect : Bool) :
    parse (bang indirect ++ (name ++ ':' :: t)) =
      (readSubstring (bang indirect ++ (name ++ ':' :: t)) t).map
        fun op => ⟨⟨name, indirect⟩, op⟩ := by
  have hkind : Kind.substring ∈ introduced := by decide
  have hrest : ∀ c ∈ (':' :: t).head?, isNameRest c = false := isNameRest_symbol_append hkind t
  have hs : splitSymbol (':' :: t) = some (.substring, t) :=
    splitSymbol_append_iff.mpr ⟨hkind, ends_substring_iff.mpr ht⟩
  rw [parse_name rfl hname hrest, if_neg (List.cons_ne_nil _ _), hs]
  rfl

/-- A name, a colon and numbers, where the colon is no part of a longer symbol. Success means that
the operand is an offset, or both numbers, and tells them; otherwise the error is that of the first
thing that is wrong. No other body leads to a substring operator with a number out of bounds. -/
theorem parse_substring {name t : Text} (hname : isName name = true)
    (ht : t.head? ≠ some '-' ∧ t.head? ≠ some '+' ∧ t.head? ≠ some '?') (indirect : Bool) :
    (∀ e, parse (bang indirect ++ (name ++ ':' :: t)) = .ok e ↔
      ∃ offset length, e = ⟨⟨name, indirect⟩, .substring offset length⟩ ∧
        SubstringOperand t offset length) ∧
    (∀ err, parse (bang indirect ++ (name ++ ':' :: t)) = .error err ↔
      SubstringError (bang indirect ++ (name ++ ':' :: t)) t err) ∧
    (∀ bound, (Malformation.nonNumeric bound).message =
        "non-numeric substring ".toList ++ bound.label ∧
      ∀ numeral, (Malformation.outOfRange bound numeral).message =
        "substring ".toList ++ bound.label ++ " out of range: ".toList ++ numeral) ∧
    ∀ body e, parse body = .ok e → ∀ offset length, e.op = .substring offset length →
      InBounds offset ∧ ∀ n ∈ length, InBounds n := by
  rw [parse_colon hname ht]
  refine ⟨fun e => ?_, fun err => ?_, fun bound => ⟨rfl, fun numeral => rfl⟩, ?_⟩
  · constructor
    · intro h
      cases hread : readSubstring (bang indirect ++ (name ++ ':' :: t)) t with
      | error err =>
        rw [hread] at h
        cases h
      | ok op =>
        rw [hread] at h
        cases h
        obtain ⟨offset, length, rfl, hoperand⟩ := readSubstring_eq_ok_iff_operand.mp hread
        exact ⟨offset, length, rfl, hoperand⟩
    · rintro ⟨offset, length, rfl, hoperand⟩
      rw [readSubstring_eq_ok_iff_operand.mpr ⟨offset, length, rfl, hoperand⟩]
      rfl
  · rw [map_eq_error_iff, readSubstring_eq_error_iff]
  · intro body e h offset length hop
    have hwell := (wellFormed_of_parse h).2
    rwa [hop] at hwell

/-- Both ends of the range, written with blanks, zeros and a sign, and a length that is one below it
in front of text that would be left over. -/
theorem parse_substring_limits :
    isName ['x'] = true ∧
    parse "!x: +02147483647 :-2147483648\t".toList =
      .ok ⟨⟨['x'], true⟩, .substring 2147483647 (some (-2147483648))⟩ ∧
    parse "x:7:-2147483649z".toList =
      .error (.malformed (.outOfRange .length "-2147483649".toList)) := by
  have hname : isName ['x'] = true := rfl
  have hf : IntegerField.Valid ⟨[' '], ['+'], "02147483647".toList, [' ']⟩ := by decide +kernel
  have hg : IntegerField.Valid ⟨[], ['-'], "2147483648".toList, ['\t']⟩ := by decide +kernel
  have hseven : IntegerField.Valid ⟨[], [], ['7'], []⟩ := by decide +kernel
  have hlow : IntegerField.WellShaped ⟨[], ['-'], "2147483649".toList, []⟩ := by decide +kernel
  refine ⟨hname, ?_, ?_⟩
  · have hread := parse_substring hname (t := " +02147483647 :-2147483648\t".toList)
      (by decide) true
    exact (hread.1 _).mpr ⟨_, _, rfl, .offsetLength hf hg⟩
  · have hread := parse_substring hname (t := "7:-2147483649z".toList) (by decide) false
    have hcolon := hseven.shaped.heads_cons (c := ':') hseven.digits_ne_nil (by decide)
    have hletter := hlow.heads_cons (c := 'z') (by decide) (by decide) []
    exact (hread.2.1 _).mpr (.length (hcolon "-2147483649z".toList) hseven
      (.outOfRange hletter (by decide) (by decide +kernel)))

end Expansion

end ParameterExpansion
