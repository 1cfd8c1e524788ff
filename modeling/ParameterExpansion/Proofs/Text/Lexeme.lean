import ParameterExpansion.Text.Lexeme

/-!
What the splitters of lexemes take and what they leave: the longest name, the integer between
blanks, and the text before the first slash that no backslash precedes. Escaping the slashes of a
text guards all of them, and unescaping gives the text back.
-/
namespace ParameterExpansion

section Span

variable {p : Char → Bool} {front rest : Text}

theorem takeWhile_span (hall : ∀ c ∈ front, p c = true) (hhead : ∀ c ∈ rest.head?, p c = false) :
    (front ++ rest).takeWhile p = front := by
  rw [List.takeWhile_append_of_pos hall]
  cases rest with
  | nil => rw [List.takeWhile_nil, List.append_nil]
  | cons c rest =>
    have hc : ¬p c = true := by simp [hhead c rfl]
    rw [List.takeWhile_cons_of_neg hc, List.append_nil]

theorem dropWhile_span (hall : ∀ c ∈ front, p c = true) (hhead : ∀ c ∈ rest.head?, p c = false) :
    (front ++ rest).dropWhile p = rest := by
  rw [List.dropWhile_append_of_pos hall]
  cases rest with
  | nil => rfl
  | cons c rest =>
    have hc : ¬p c = true := by simp [hhead c rfl]
    rw [List.dropWhile_cons_of_neg hc]

theorem head?_dropWhile_eq_false (t : Text) : ∀ c ∈ (t.dropWhile p).head?, p c = false := by
  intro c hc
  have h := List.head?_dropWhile_not p t
  rw [Option.mem_def.mp hc] at h
  simpa using h

end Span

/-! ### Names -/

theorem isName_cons_iff {c : Char} {t : Text} :
    isName (c :: t) = true ↔ isNameStart c = true ∧ ∀ d ∈ t, isNameRest d = true := by
  simp [isName]

/-- A name is split off where no longer one begins the text. -/
theorem splitName_eq_some_iff {t name rest : Text} :
    splitName t = some (name, rest) ↔
      isName name = true ∧ t = name ++ rest ∧ ∀ c ∈ rest.head?, isNameRest c = false := by
  constructor
  · intro h
    cases t with
    | nil => cases h
    | cons c t =>
      by_cases hc : isNameStart c = true
      · rw [splitName, if_pos hc] at h
        cases h
        refine ⟨isName_cons_iff.mpr ⟨hc, fun d hd => ?_⟩, ?_, head?_dropWhile_eq_false t⟩
        · exact List.all_eq_true.mp List.all_takeWhile d hd
        · rw [List.cons_append, List.takeWhile_append_dropWhile]
      · rw [splitName, if_neg hc] at h
        cases h
  · rintro ⟨hname, rfl, hrest⟩
    cases name with
    | nil => cases hname
    | cons c name =>
      obtain ⟨hc, hall⟩ := isName_cons_iff.mp hname
      rw [List.cons_append, splitName, if_pos hc, takeWhile_span hall hrest,
        dropWhile_span hall hrest]

/-! ### Integers -/

namespace IntegerField

/-- Blanks on both sides, at most one sign, and nothing but digits after it. -/
structure WellShaped (f : IntegerField) : Prop where
  lead : ∀ c ∈ f.lead, isBlank c = true
  sign : f.sign = [] ∨ f.sign = ['+'] ∨ f.sign = ['-']
  digits : ∀ c ∈ f.digits, c.isDigit = true
  trail : ∀ c ∈ f.trail, isBlank c = true

end IntegerField

theorem isBlank_of_isDigit {c : Char} (h : c.isDigit = true) : isBlank c = false := by
  cases hb : isBlank c with
  | false => rfl
  | true =>
    rcases (Bool.or_eq_true _ _).mp hb with hc | hc
    all_goals
      rw [beq_iff_eq.mp hc] at h
      revert h
      decide

theorem isDigit_of_isBlank {c : Char} (h : isBlank c = true) : c.isDigit = false := by
  cases hd : c.isDigit with
  | false => rfl
  | true => rw [isBlank_of_isDigit hd] at h; cases h

theorem splitSign_append {sign digits : Text} (hs : sign = [] ∨ sign = ['+'] ∨ sign = ['-'])
    (hd : ∀ c ∈ digits.head?, c.isDigit = true) : splitSign (sign ++ digits) = (sign, digits) := by
  rcases hs with rfl | rfl | rfl
  · cases digits with
    | nil => rfl
    | cons c digits =>
      have hc : ¬(c = '+' ∨ c = '-') := by
        rintro (rfl | rfl) <;> exact absurd (hd _ rfl) (by decide)
      rw [List.nil_append, splitSign, if_neg hc]
  · rfl
  · rfl

/-- A field with a digit is split off in front of anything that does not go on with it. -/
theorem splitInteger_written {f : IntegerField} {rest : Text} (hf : f.WellShaped)
    (hd : f.digits ≠ []) (hr : ∀ c ∈ rest.head?, isBlank c = false ∧ c.isDigit = false) :
    splitInteger (f.written ++ rest) = (f, rest) := by
  obtain ⟨lead, sign, digits, trail⟩ := f
  obtain ⟨hlead, hsign, hdigits, htrail⟩ := hf
  obtain ⟨d, ds, rfl⟩ := List.exists_cons_of_ne_nil hd
  have hd0 : d.isDigit = true := hdigits d (List.mem_cons_self ..)
  have htext : IntegerField.written ⟨lead, sign, d :: ds, trail⟩ ++ rest =
      lead ++ (sign ++ (d :: ds ++ (trail ++ rest))) := by
    simp only [IntegerField.written, List.append_assoc]
  have hsigned : ∀ c ∈ (sign ++ (d :: ds ++ (trail ++ rest))).head?, isBlank c = false := by
    intro c hc
    rcases hsign with rfl | rfl | rfl
    · cases hc
      exact isBlank_of_isDigit hd0
    · cases hc
      decide
    · cases hc
      decide
  have hsplit : splitSign (sign ++ (d :: ds ++ (trail ++ rest))) =
      (sign, d :: ds ++ (trail ++ rest)) :=
    splitSign_append hsign fun c hc => by cases hc; exact hd0
  have hstop : ∀ c ∈ (trail ++ rest).head?, c.isDigit = false := by
    intro c hc
    cases trail with
    | nil => exact (hr c hc).2
    | cons b trail =>
      cases hc
      exact isDigit_of_isBlank (htrail c (List.mem_cons_self ..))
  have hblank : ∀ c ∈ rest.head?, isBlank c = false := fun c hc => (hr c hc).1
  simp only [splitInteger, htext, takeWhile_span hlead hsigned, dropWhile_span hlead hsigned,
    hsplit, takeWhile_span hdigits hstop, dropWhile_span hdigits hstop,
    takeWhile_span htrail hblank, dropWhile_span htrail hblank]

namespace Text

theorem isDigit_of_mem_decimal {n : Nat} {c : Char} (h : c ∈ decimal n) : c.isDigit = true :=
  Nat.isDigit_of_mem_toDigits (by decide) (by decide) h

/-- The field that holds an integer after some blanks, as it is printed. -/
def decimalField (lead : Text) : Int → IntegerField
  | .ofNat n => ⟨lead, [], decimal n, []⟩
  | .negSucc n => ⟨lead, ['-'], decimal (n + 1), []⟩

theorem decimalField_written (lead : Text) (n : Int) :
    (decimalField lead n).written = lead ++ decimalInt n := by
  cases n <;> simp [decimalField, decimalInt, IntegerField.written]

theorem decimalField_wellShaped {lead : Text} (h : ∀ c ∈ lead, isBlank c = true) (n : Int) :
    (decimalField lead n).WellShaped := by
  cases n with
  | ofNat n =>
    exact ⟨h, .inl rfl, fun _ => isDigit_of_mem_decimal, fun _ hc => nomatch hc⟩
  | negSucc n =>
    exact ⟨h, .inr (.inr rfl), fun _ => isDigit_of_mem_decimal, fun _ hc => nomatch hc⟩

theorem decimalField_digits (lead : Text) (n : Int) :
    (decimalField lead n).digits = decimal n.natAbs := by
  cases n <;> rfl

/-- A number that is not too long has the value that it was printed from. -/
theorem value?_decimalField {lead : Text} {n : Int}
    (h : (decimal n.natAbs).length ≤ IntegerField.maxDigits) :
    (decimalField lead n).value? = some n := by
  have hne : (decimalField lead n).digits ≠ [] := by
    rw [decimalField_digits]
    exact Nat.toDigits_ne_nil
  have hlen : (decimalField lead n).digits.length ≤ IntegerField.maxDigits := by
    rw [decimalField_digits]
    exact h
  rw [IntegerField.value?, if_neg (not_or.mpr ⟨hne, Nat.not_lt.mpr hlen⟩)]
  cases n with
  | ofNat n =>
    simp only [decimalField, decimal, Nat.ofDigitChars_ten_toDigits]
    rfl
  | negSucc n =>
    simp only [decimalField, decimal, Nat.ofDigitChars_ten_toDigits]
    rfl

end Text

/-! ### Integers as far as they go -/

namespace IntegerField

/-- There is a digit, and there are not too many for a number. -/
def Numeric (f : IntegerField) : Prop :=
  1 ≤ f.digits.length ∧ f.digits.length ≤ 4300

instance (f : IntegerField) : Decidable f.Numeric :=
  inferInstanceAs (Decidable (_ ∧ _))

instance (f : IntegerField) : Decidable f.WellShaped :=
  decidable_of_iff
    (f.lead.all isBlank = true ∧ (f.sign = [] ∨ f.sign = ['+'] ∨ f.sign = ['-']) ∧
      f.digits.all Char.isDigit = true ∧ f.trail.all isBlank = true)
    ⟨fun ⟨hlead, hsign, hdigits, htrail⟩ =>
      ⟨List.all_eq_true.mp hlead, hsign, List.all_eq_true.mp hdigits, List.all_eq_true.mp htrail⟩,
    fun h => ⟨List.all_eq_true.mpr h.lead, h.sign, List.all_eq_true.mpr h.digits,
      List.all_eq_true.mpr h.trail⟩⟩

/-- The number that the sign and the digits make. -/
def number (f : IntegerField) : Int :=
  if f.sign = ['-'] then -(Nat.ofDigitChars 10 f.digits 0 : Int) else Nat.ofDigitChars 10 f.digits 0

/-- The field begins the text, and no field that begins it goes further. -/
structure Heads (f : IntegerField) (t rest : Text) : Prop where
  shaped : f.WellShaped
  text : t = f.written ++ rest
  longest : ∀ (g : IntegerField) (more : Text), g.WellShaped → t = g.written ++ more →
    g.written.length ≤ f.written.length

theorem value?_eq (f : IntegerField) : f.value? = if f.Numeric then some f.number else none := by
  have hiff : (f.digits = [] ∨ maxDigits < f.digits.length) ↔ ¬f.Numeric := by
    rw [Numeric, ← List.length_eq_zero_iff, maxDigits]
    omega
  by_cases hf : f.Numeric
  · rw [value?, if_neg (mt hiff.mp (not_not_intro hf)), if_pos hf, number]
    exact (apply_ite some _ _ _).symm
  · rw [value?, if_pos (hiff.mpr hf), if_neg hf]

section WellShaped

variable {f g : IntegerField} (hf : f.WellShaped)

include hf

theorem WellShaped.not_isBlank_of_mem_sign : ∀ c ∈ f.sign, isBlank c = false := by
  rcases hf.sign with h | h | h <;> simp [h, isBlank]

/-- What is written between the blanks. -/
theorem WellShaped.filter_written : f.written.filter (fun c => !isBlank c) = f.numeral := by
  have hlead : f.lead.filter (fun c => !isBlank c) = [] :=
    List.filter_eq_nil_iff.mpr fun c hc => by simp [hf.lead c hc]
  have htrail : f.trail.filter (fun c => !isBlank c) = [] :=
    List.filter_eq_nil_iff.mpr fun c hc => by simp [hf.trail c hc]
  have hsign : f.sign.filter (fun c => !isBlank c) = f.sign :=
    List.filter_eq_self.mpr fun c hc => by simp [hf.not_isBlank_of_mem_sign c hc]
  have hdigits : f.digits.filter (fun c => !isBlank c) = f.digits :=
    List.filter_eq_self.mpr fun c hc => by simp [isBlank_of_isDigit (hf.digits c hc)]
  simp only [written, numeral, List.filter_append, hlead, htrail, hsign, hdigits,
    List.nil_append, List.append_nil]

theorem WellShaped.splitSign_numeral : splitSign f.numeral = (f.sign, f.digits) :=
  splitSign_append hf.sign fun c hc => hf.digits c (List.mem_of_mem_head? hc)

/-- A written field leaves open only which of its blanks are in front. -/
theorem WellShaped.eq_of_written (hg : g.WellShaped) (h : f.written = g.written) :
    f.sign = g.sign ∧ f.digits = g.digits := by
  rw [← Prod.mk.injEq, ← hf.splitSign_numeral, ← hg.splitSign_numeral, ← hf.filter_written,
    ← hg.filter_written, h]

end WellShaped

theorem Heads.unique {f g : IntegerField} {t rest rest' : Text} (hf : f.Heads t rest)
    (hg : g.Heads t rest') : f.sign = g.sign ∧ f.digits = g.digits ∧ rest = rest' := by
  have hlength : f.written.length = g.written.length :=
    Nat.le_antisymm (hg.longest f rest hf.shaped hf.text) (hf.longest g rest' hg.shaped hg.text)
  obtain ⟨hwritten, hrest⟩ := List.append_inj (hf.text.symm.trans hg.text) hlength
  obtain ⟨hsign, hdigits⟩ := hf.shaped.eq_of_written hg.shaped hwritten
  exact ⟨hsign, hdigits, hrest⟩

end IntegerField

theorem splitSign_eq (t : Text) : (splitSign t).1 ++ (splitSign t).2 = t := by
  cases t with
  | nil => rfl
  | cons c t =>
    rw [splitSign]
    split <;> rfl

theorem splitSign_fst (t : Text) :
    (splitSign t).1 = [] ∨ (splitSign t).1 = ['+'] ∨ (splitSign t).1 = ['-'] := by
  cases t with
  | nil => exact .inl rfl
  | cons c t =>
    rw [splitSign]
    split
    · rename_i hc
      rcases hc with rfl | rfl
      · exact .inr (.inl rfl)
      · exact .inr (.inr rfl)
    · exact .inl rfl

theorem wellShaped_splitInteger (t : Text) : (splitInteger t).1.WellShaped where
  lead _ := List.all_eq_true.mp List.all_takeWhile _
  sign := splitSign_fst _
  digits _ := List.all_eq_true.mp List.all_takeWhile _
  trail _ := List.all_eq_true.mp List.all_takeWhile _

theorem splitInteger_eq (t : Text) : (splitInteger t).1.written ++ (splitInteger t).2 = t := by
  simp only [splitInteger, IntegerField.written, List.append_assoc,
    List.takeWhile_append_dropWhile, splitSign_eq]

/-- Blanks in front do not show in what is left. -/
theorem splitInteger_blanks {blanks : Text} (h : ∀ c ∈ blanks, isBlank c = true) (t : Text) :
    (splitInteger (blanks ++ t)).2 = (splitInteger t).2 := by
  simp only [splitInteger, List.dropWhile_append_of_pos h]

/-- Behind digits and blanks nothing is left of them. -/
theorem length_dropWhile_digits {digits trail : Text} (hd : ∀ c ∈ digits, c.isDigit = true)
    (ht : ∀ c ∈ trail, isBlank c = true) (more : Text) :
    (((digits ++ (trail ++ more)).dropWhile Char.isDigit).dropWhile isBlank).length ≤
      more.length := by
  rw [List.dropWhile_append_of_pos hd]
  cases trail with
  | nil =>
    exact Nat.le_trans (List.dropWhile_suffix _).length_le (List.dropWhile_suffix _).length_le
  | cons c trail =>
    have hc : ¬c.isDigit = true := by simp [isDigit_of_isBlank (ht c List.mem_cons_self)]
    rw [List.cons_append, List.dropWhile_cons_of_neg hc, ← List.cons_append,
      List.dropWhile_append_of_pos ht]
    exact (List.dropWhile_suffix _).length_le

/-- A field is read as far as any field goes. -/
theorem length_splitInteger_le {g : IntegerField} (hg : g.WellShaped) (more : Text) :
    (splitInteger (g.written ++ more)).2.length ≤ more.length := by
  obtain ⟨lead, sign, digits, trail⟩ := g
  obtain ⟨hlead, hsign, hdigits, htrail⟩ := hg
  have htext : IntegerField.written ⟨lead, sign, digits, trail⟩ ++ more =
      lead ++ (sign ++ (digits ++ (trail ++ more))) := by
    simp only [IntegerField.written, List.append_assoc]
  rw [htext, splitInteger_blanks hlead]
  rcases hsign with rfl | rfl | rfl
  · cases digits with
    | nil =>
      -- nothing but blanks, and then whatever is read behind them
      rw [List.nil_append, List.nil_append, splitInteger_blanks htrail]
      have hmore := congrArg List.length (splitInteger_eq more)
      rw [List.length_append] at hmore
      omega
    | cons d digits =>
      have hd : d.isDigit = true := hdigits d List.mem_cons_self
      have hblank : ¬isBlank d = true := by simp [isBlank_of_isDigit hd]
      have hs : splitSign (d :: digits ++ (trail ++ more)) =
          ([], d :: digits ++ (trail ++ more)) :=
        splitSign_append (.inl rfl) fun c hc => by cases hc; exact hd
      have hw : (d :: digits ++ (trail ++ more)).dropWhile isBlank =
          d :: digits ++ (trail ++ more) := List.dropWhile_cons_of_neg hblank
      simp only [splitInteger, List.nil_append, hw, hs]
      exact length_dropWhile_digits hdigits htrail more
  · exact length_dropWhile_digits hdigits htrail more
  · exact length_dropWhile_digits hdigits htrail more

theorem heads_splitInteger (t : Text) : (splitInteger t).1.Heads t (splitInteger t).2 where
  shaped := wellShaped_splitInteger t
  text := (splitInteger_eq t).symm
  longest := by
    rintro g more hg rfl
    have hlength := congrArg List.length (splitInteger_eq (g.written ++ more))
    have hle := length_splitInteger_le hg more
    simp only [List.length_append] at hlength
    omega

/-- A field with a digit is read as it is written, where nothing behind it goes on with it. -/
theorem IntegerField.WellShaped.heads {f : IntegerField} {rest : Text} (hf : f.WellShaped)
    (hd : f.digits ≠ []) (hrest : ∀ c ∈ rest.head?, isBlank c = false ∧ c.isDigit = false) :
    f.Heads (f.written ++ rest) rest := by
  have h := heads_splitInteger (f.written ++ rest)
  rwa [splitInteger_written hf hd hrest] at h

theorem IntegerField.WellShaped.heads_cons {f : IntegerField} {c : Char} (hf : f.WellShaped)
    (hd : f.digits ≠ []) (hc : isBlank c = false ∧ c.isDigit = false) (rest : Text) :
    f.Heads (f.written ++ c :: rest) (c :: rest) :=
  hf.heads hd fun _ h => Option.some.inj h ▸ hc

theorem IntegerField.WellShaped.heads_end {f : IntegerField} (hf : f.WellShaped)
    (hd : f.digits ≠ []) : f.Heads f.written [] := by
  have h := hf.heads hd (fun _ hc => nomatch hc : ∀ c ∈ ([] : Text).head?, _)
  rwa [List.append_nil] at h

/-! ### Slashes -/

/-- Whether a backslash precedes what follows the text; `escaped` tells it for the text itself. -/
def escapedAfter (escaped : Bool) (t : Text) : Bool :=
  t.foldl (fun _ c => c == '\\') escaped

/-- A backslash precedes every slash of the text. -/
def Guarded (escaped : Bool) (t : Text) : Prop :=
  ∀ front, front ++ ['/'] <+: t → escapedAfter escaped front = true

theorem escapedAfter_cons (escaped : Bool) (c : Char) (t : Text) :
    escapedAfter escaped (c :: t) = escapedAfter (c == '\\') t := rfl

theorem escapedAfter_append (escaped : Bool) (front back : Text) :
    escapedAfter escaped (front ++ back) = escapedAfter (escapedAfter escaped front) back := by
  rw [escapedAfter, List.foldl_append, ← escapedAfter, ← escapedAfter]

/-- Only the last code point of a text decides what precedes the code point after it. -/
theorem escapedAfter_false_iff {t : Text} :
    escapedAfter false t = false ↔ t.getLast? ≠ some '\\' := by
  rcases List.eq_nil_or_concat t with rfl | ⟨front, c, rfl⟩
  · simp [escapedAfter]
  · simp [escapedAfter]

theorem guarded_nil (escaped : Bool) : Guarded escaped [] := by
  intro front h
  exact absurd (List.prefix_nil.mp h) (by simp)

theorem guarded_cons_iff {escaped : Bool} {c : Char} {t : Text} :
    Guarded escaped (c :: t) ↔ (c = '/' → escaped = true) ∧ Guarded (c == '\\') t := by
  constructor
  · intro h
    refine ⟨?_, fun front hf => h (c :: front) ((List.prefix_cons_inj c).mpr hf)⟩
    rintro rfl
    exact h [] ⟨t, rfl⟩
  · rintro ⟨hc, ht⟩ front hf
    cases front with
    | nil =>
      obtain ⟨back, hback⟩ := hf
      cases hback
      exact hc rfl
    | cons d front =>
      obtain ⟨rfl, hmore⟩ := List.cons_prefix_cons.mp hf
      exact ht front hmore

/-- A text is split at its first slash that no backslash precedes. -/
theorem splitSlash_eq_some_iff {escaped : Bool} {t before after : Text} :
    splitSlash escaped t = some (before, after) ↔
      t = before ++ '/' :: after ∧ escapedAfter escaped before = false ∧
        Guarded escaped before := by
  induction t generalizing escaped before with
  | nil => simp [splitSlash]
  | cons c t ih =>
    by_cases hc : c = '/' ∧ escaped = false
    · rw [splitSlash, if_pos hc]
      obtain ⟨rfl, rfl⟩ := hc
      constructor
      · intro h
        cases h
        exact ⟨rfl, rfl, guarded_nil false⟩
      · rintro ⟨ht, -, hg⟩
        cases before with
        | nil => rw [List.tail_eq_of_cons_eq ht]
        | cons d before =>
          cases ht
          exact absurd ((guarded_cons_iff.mp hg).1 rfl) (by decide)
    · rw [splitSlash, if_neg hc]
      constructor
      · intro h
        obtain ⟨⟨b, a⟩, hs, he⟩ := Option.map_eq_some_iff.mp h
        cases he
        obtain ⟨rfl, hb, hg⟩ := ih.mp hs
        refine ⟨rfl, hb, guarded_cons_iff.mpr ⟨fun hslash => ?_, hg⟩⟩
        exact eq_true_of_ne_false fun he => hc ⟨hslash, he⟩
      · rintro ⟨ht, hb, hg⟩
        cases before with
        | nil =>
          cases ht
          exact absurd ⟨rfl, hb⟩ hc
        | cons d before =>
          cases ht
          have hs := ih.mpr ⟨rfl, hb, (guarded_cons_iff.mp hg).2⟩
          rw [hs, Option.map_some]

/-- A text without a split has a backslash before each of its slashes. -/
theorem splitSlash_eq_none_iff {escaped : Bool} {t : Text} :
    splitSlash escaped t = none ↔ Guarded escaped t := by
  induction t generalizing escaped with
  | nil => exact iff_of_true rfl (guarded_nil escaped)
  | cons c t ih =>
    rw [guarded_cons_iff]
    by_cases hc : c = '/' ∧ escaped = false
    · obtain ⟨rfl, rfl⟩ := hc
      simp [splitSlash]
    · rw [splitSlash, if_neg hc, Option.map_eq_none_iff, ih]
      refine (and_iff_right fun hslash => ?_).symm
      exact eq_true_of_ne_false fun he => hc ⟨hslash, he⟩

/-- At the start of a text nothing precedes a slash. -/
theorem guarded_false_iff {t : Text} :
    Guarded false t ↔ ∀ front back, t = front ++ '/' :: back → front.getLast? = some '\\' := by
  have hlast : ∀ front, escapedAfter false front = true ↔ front.getLast? = some '\\' := by
    intro front
    rw [← Bool.not_eq_false, escapedAfter_false_iff, Classical.not_not]
  constructor
  · rintro h front back rfl
    exact (hlast front).mp (h front ⟨back, by rw [List.append_assoc, List.singleton_append]⟩)
  · rintro h front ⟨back, hback⟩
    refine (hlast front).mpr (h front back ?_)
    rw [← hback, List.append_assoc, List.singleton_append]

theorem escapeSlash_cons (c : Char) (t : Text) :
    escapeSlash (c :: t) = (if c = '/' then ['\\', '/'] else [c]) ++ escapeSlash t := rfl

/-- An escaped text can stand before a slash or after one. -/
theorem guarded_escapeSlash (escaped : Bool) (t : Text) : Guarded escaped (escapeSlash t) := by
  induction t generalizing escaped with
  | nil => exact guarded_nil escaped
  | cons c t ih =>
    rw [escapeSlash_cons]
    split
    · exact guarded_cons_iff.mpr ⟨fun h => absurd h (by decide),
        guarded_cons_iff.mpr ⟨fun _ => rfl, ih _⟩⟩
    · rename_i hc
      exact guarded_cons_iff.mpr ⟨fun h => absurd h hc, ih _⟩

theorem escapedAfter_escapeSlash (escaped : Bool) (t : Text) :
    escapedAfter escaped (escapeSlash t) = escapedAfter escaped t := by
  induction t generalizing escaped with
  | nil => rfl
  | cons c t ih =>
    rw [escapeSlash_cons, escapedAfter_append, ih, escapedAfter_cons]
    split
    · subst c
      rfl
    · rfl

theorem unescapeSlash_cons {c : Char} {t : Text} (h : c = '\\' → t.head? ≠ some '/') :
    unescapeSlash (c :: t) = c :: unescapeSlash t := by
  rw [unescapeSlash]
  rintro rest rfl rfl
  exact h rfl rfl

theorem head?_escapeSlash_ne (t : Text) : (escapeSlash t).head? ≠ some '/' := by
  cases t with
  | nil => simp [escapeSlash]
  | cons c t =>
    rw [escapeSlash_cons]
    split
    · simp
    · rename_i hc
      simpa using hc

/-- The first code point stays, or it is a slash and a backslash comes before it. -/
theorem head?_escapeSlash (t : Text) :
    (escapeSlash t).head? = t.head? ∨ (escapeSlash t).head? = some '\\' := by
  cases t with
  | nil => exact .inl rfl
  | cons c t =>
    rw [escapeSlash_cons]
    split
    · exact .inr rfl
    · exact .inl rfl

theorem unescapeSlash_escapeSlash (t : Text) : unescapeSlash (escapeSlash t) = t := by
  induction t with
  | nil => rfl
  | cons c t ih =>
    rw [escapeSlash_cons]
    split
    · rename_i hc
      rw [hc]
      exact congrArg ('/' :: ·) ih
    · rw [List.singleton_append, unescapeSlash_cons fun _ => head?_escapeSlash_ne t, ih]

/-- Unescaping takes nothing from the end of a text. -/
theorem escapedAfter_unescapeSlash (escaped : Bool) (t : Text) :
    escapedAfter escaped (unescapeSlash t) = escapedAfter escaped t := by
  induction t using unescapeSlash.induct generalizing escaped with
  | case1 => rfl
  | case2 rest ih => exact ih _
  | case3 c rest h ih =>
    rw [unescapeSlash_cons]
    · exact ih _
    · rintro rfl hhead
      obtain ⟨more, rfl⟩ := List.head?_eq_some_iff.mp hhead
      exact h more rfl rfl

/-- The first code point stays, or it was the backslash of a slash. -/
theorem head?_unescapeSlash (t : Text) :
    (unescapeSlash t).head? = t.head? ∨ (unescapeSlash t).head? = some '/' := by
  cases t using unescapeSlash.fun_cases with
  | case1 => exact .inl rfl
  | case2 rest => exact .inr rfl
  | case3 c rest h =>
    rw [unescapeSlash]
    · exact .inl rfl
    · exact h

end ParameterExpansion
