import ParameterExpansion.Proofs.Session.Run

/-!
Asking an evaluator leaves no trace. The reply depends on what the evaluator is made of at that
moment, and not on how it came to be so: one that has just been constructed from the same replies
the same. Whatever is asked in a run can be left out of it without a difference to the session or
to any other reply.
-/
namespace ParameterExpansion

/-- What an evaluator can be asked: to work, to describe itself, or to let a part of it be written
that is read-only. -/
inductive Inquiry where
  | substitute (text : Option Text)
  | expand (body : Text)
  | evaluate (op : Operator) (ref : Reference)
  | describe
  | writeValue (name : Text) (value : Value)
  | writeStrict (strict : Bool)
  deriving DecidableEq, Repr

/-- The command that asks the evaluator with a name. -/
def Inquiry.ask (id : Text) : Inquiry → Command
  | .substitute text => .substitute id text
  | .expand body => .expand id body
  | .evaluate op ref => .evaluate id op ref
  | .describe => .describe id
  | .writeValue name value => .writeValue id name value
  | .writeStrict strict => .writeStrict id strict

def Command.isInquiry : Command → Bool
  | .substitute _ _ => true
  | .expand _ _ => true
  | .evaluate _ _ _ => true
  | .describe _ => true
  | .writeValue _ _ _ => true
  | .writeStrict _ _ => true
  | _ => false

namespace Session

/-- A session of its own, with the values that a profile stands for as its mapping, in which nothing
has been done but to construct an evaluator over that mapping with the attributes of the profile. -/
def fresh (s : Session) (p : Profile) (environment : Store) (id : Text) : Session :=
  (initial (s.valuesOf p) environment).after
    [.create id false p.strict p.raises p.channel p.disabled]

theorem profile?_fresh (s : Session) (p : Profile) (environment : Store) (id : Text) :
    (s.fresh p environment id).profile? id = some { p with source := .shared } := by
  simp [fresh, initial, after, perform, profile?_keep]

/-- Replies depend on what an evaluator is made of, and on its channel. -/
theorem reply_congr {s s' : Session} {id id' : Text} {p p' : Profile}
    (hp : s.profile? id = some p) (hp' : s'.profile? id' = some p')
    (he : s.evaluator p = s'.evaluator p') (hc : p.channel = p'.channel) (q : Inquiry) :
    (s.perform (q.ask id)).2 = (s'.perform (q.ask id')).2 := by
  have hconsult : ∀ f f', f p = f' p' → s.consult id f = s'.consult id' f' := by
    intro f f' hf
    rw [consult_of_some hp, consult_of_some hp', hf]
  have hrun : ∀ f, s.runOn id f = s'.runOn id' f := by
    intro f
    refine hconsult _ _ ?_
    rw [he, hc]
  cases q with
  | substitute text => exact hrun (·.substituteGiven text)
  | expand body => exact hrun (·.expand body)
  | evaluate op ref => exact hrun (·.evaluate op ref)
  | describe =>
    obtain ⟨hvalues, hstrict, hraises, -⟩ := Evaluator.mk.inj he
    refine hconsult _ _ ?_
    rw [hvalues, hstrict, hraises, hc]
  | writeValue name value => exact hconsult _ _ rfl
  | writeStrict strict => exact hconsult _ _ rfl

theorem reply_fresh {s : Session} {id : Text} {p : Profile} (hp : s.profile? id = some p)
    (q : Inquiry) (environment : Store) (other : Text) :
    (s.perform (q.ask id)).2 = ((s.fresh p environment other).perform (q.ask other)).2 :=
  reply_congr hp (s.profile?_fresh p environment other) rfl rfl q

theorem perform_of_isInquiry {command : Command} (h : command.isInquiry = true) (s : Session) :
    (s.perform command).1 = s := by
  cases command with
  | substitute | expand | evaluate | describe | writeValue | writeStrict => rfl
  | _ => cases h

theorem isInquiry_ask (q : Inquiry) (id : Text) : (q.ask id).isInquiry = true := by
  cases q <;> rfl

theorem after_filter_not_isInquiry (s : Session) (commands : List Command) :
    s.after (commands.filter (!·.isInquiry)) = s.after commands := by
  induction commands generalizing s with
  | nil => rfl
  | cons command commands ih =>
    rw [after_cons]
    cases h : command.isInquiry with
    | true => rw [List.filter_cons_of_neg (by simp [h]), perform_of_isInquiry h, ih]
    | false => rw [List.filter_cons_of_pos (by simp [h]), after_cons, ih]

/-- The replies to all other commands are those of a run in which nothing is asked. -/
theorem performAll_filter_not_isInquiry (s : Session) (commands : List Command) :
    s.performAll (commands.filter (!·.isInquiry)) =
      ((commands.zip (s.performAll commands)).filter (!·.1.isInquiry)).map Prod.snd := by
  induction commands generalizing s with
  | nil => rfl
  | cons command commands ih =>
    rw [performAll_cons, List.zip_cons_cons]
    cases h : command.isInquiry with
    | true =>
      rw [List.filter_cons_of_neg (by simp [h]), List.filter_cons_of_neg (by simp [h]),
        perform_of_isInquiry h, ih]
    | false =>
      rw [List.filter_cons_of_pos (by simp [h]), List.filter_cons_of_pos (by simp [h]),
        performAll_cons, ih, List.map_cons]

/-- In every run, what an evaluator is asked it replies to as one does that has just been
constructed over the values that it has at that moment, with its strictness, raise flag, channel and
disabled operators, in any environment and under any name; and whether it succeeds or fails, the
session is left as it was. So everything that is asked can be left out of a run, which ends in the
same session and has the same replies to all other commands. -/
theorem inquiry_leaves_no_trace (s : Session) (commands : List Command) :
    (∀ id p, (s.after commands).profile? id = some p →
      ∀ (q : Inquiry) (environment : Store) (other : Text) (rest : List Command),
        s.performAll (commands ++ q.ask id :: rest) =
          s.performAll commands ++
            (((s.after commands).fresh p environment other).perform (q.ask other)).2 ::
              (s.after commands).performAll rest) ∧
    (∀ (q : Inquiry) (id : Text), s.after (commands ++ [q.ask id]) = s.after commands) ∧
    s.after (commands.filter (!·.isInquiry)) = s.after commands ∧
    s.performAll (commands.filter (!·.isInquiry)) =
      ((commands.zip (s.performAll commands)).filter (!·.1.isInquiry)).map Prod.snd := by
  refine ⟨fun id p hp q environment other rest => ?_, fun q id => ?_,
    s.after_filter_not_isInquiry commands, s.performAll_filter_not_isInquiry commands⟩
  · rw [performAll_append, ← reply_fresh hp, performAll_cons,
      perform_of_isInquiry (isInquiry_ask q id)]
  · rw [after_concat, perform_of_isInquiry (isInquiry_ask q id)]

/-- A text with a required value that is missing, which is reported, and after it a name that a
strict evaluator refuses. The one that is asked is derived from another, and the mapping has changed
since. -/
theorem inquiry_leaves_no_trace_failing :
    (initial .empty .empty).performAll
      ([.create ['a'] false false false .collector [.bare], .withStrict ['a'] ['b'] true,
        .setValue ['X'] (some ['v'])] ++
        .substitute ['b'] (some "$\x7bX\x7d$\x7bY:?m\x7d$\x7bZ\x7d".toList) ::
        [.expand ['b'] ['X']]) =
      [⟨.done, []⟩, ⟨.done, []⟩, ⟨.done, []⟩, ⟨.failed (.unbound ['Z']), [['m']]⟩,
        ⟨.text ['v'], []⟩] := by
  obtain ⟨hreply, -⟩ := inquiry_leaves_no_trace (initial .empty .empty)
    [.create ['a'] false false false .collector [.bare], .withStrict ['a'] ['b'] true,
      .setValue ['X'] (some ['v'])]
  exact (hreply ['b'] ⟨.shared, true, false, .collector, []⟩ (by decide)
    (.substitute (some "$\x7bX\x7d$\x7bY:?m\x7d$\x7bZ\x7d".toList)) .empty ['c'] _).trans
    (by decide +kernel)

end Session

end ParameterExpansion
