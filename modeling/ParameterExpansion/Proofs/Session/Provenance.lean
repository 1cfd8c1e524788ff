import Mathlib.Data.List.Induction
import ParameterExpansion.Proofs.Session.Run

/-!
Where the evaluators of a session have what they have. Each goes back through a chain of
derivations to one that was constructed. That settles its values: those of the session as they are
now, or the environment as it was when the first of the chain was constructed. Its mode is the one
it was made with, and its raise flag and its channel are the last ones assigned to it, or else those
it was made with.
-/
namespace ParameterExpansion

/-- The last value that commands give, or the one from before them. -/
def lastGiven (given : Command → Option α) (first : α) (commands : List Command) : α :=
  (commands.reverse.findSome? given).getD first

theorem lastGiven_cons (given : Command → Option α) (first : α) (command : Command)
    (commands : List Command) :
    lastGiven given first (command :: commands) =
      lastGiven given ((given command).getD first) commands := by
  simp only [lastGiven, List.reverse_cons, List.findSome?_append, List.findSome?_cons,
    List.findSome?_nil]
  cases commands.reverse.findSome? given <;> cases given command <;> rfl

namespace Session

variable {s : Session} {commands before since root : List Command} {id : Text}
  {making command : Command} {fromEnvironment : Bool}

/-- The evaluator that has the name after the commands was made by one of them, and no later one has
made another under that name. -/
structure MadeBy (s : Session) (commands : List Command) (id : Text) (before : List Command)
    (making : Command) (since : List Command) : Prop where
  split : commands = before ++ making :: since
  makes : (s.after before).Makes id making
  kept : (s.after (before ++ [making])).NoneMakes id since

/-- The evaluator that has the name after the commands goes back to one that was constructed after
the commands `root`, over the mapping of the session or over a copy of the environment. -/
inductive Origin (s : Session) :
    (commands : List Command) → (id : Text) → (root : List Command) → (fromEnvironment : Bool) →
      Prop where
  | constructed {commands before since : List Command} {id : Text}
      {fromEnvironment strict raises : Bool} {channel : Channel} {disabled : List Operator.Kind}
      (h : s.MadeBy commands id before
        (.create id fromEnvironment strict raises channel disabled) since) :
    s.Origin commands id before fromEnvironment
  | derived {commands before since root : List Command} {id source : Text}
      {fromEnvironment strict : Bool}
      (h : s.MadeBy commands id before (.withStrict source id strict) since)
      (hsource : s.Origin before source root fromEnvironment) :
    s.Origin commands id root fromEnvironment

/-! ### What one command, and what many, leave of an evaluator -/

theorem MadeBy.of_makes (h : (s.after commands).Makes id command) :
    s.MadeBy (commands ++ [command]) id commands command [] :=
  ⟨rfl, h, trivial⟩

theorem MadeBy.concat (h : s.MadeBy commands id before making since)
    (hc : ¬(s.after commands).Makes id command) :
    s.MadeBy (commands ++ [command]) id before making (since ++ [command]) := by
  obtain ⟨rfl, hmakes, hkept⟩ := h
  refine ⟨by simp, hmakes, noneMakes_concat_iff.mpr ⟨hkept, ?_⟩⟩
  rwa [← after_append, List.append_assoc]

theorem Origin.concat (h : s.Origin commands id root fromEnvironment)
    (hc : ¬(s.after commands).Makes id command) :
    s.Origin (commands ++ [command]) id root fromEnvironment := by
  cases h with
  | constructed h => exact .constructed (h.concat hc)
  | derived h hsource => exact .derived (h.concat hc) hsource

/-- Commands that do not make an evaluator under a name leave the one that is there with the last
attributes that they assign. -/
theorem profile?_after_of_noneMakes {p : Profile} (hp : s.profile? id = some p)
    (h : s.NoneMakes id since) :
    (s.after since).profile? id =
      some { p with
        raises := lastGiven (Command.raisesFor? id) p.raises since
        channel := lastGiven (Command.channelFor? id) p.channel since } := by
  induction since generalizing s p with
  | nil => exact hp
  | cons command since ih =>
    obtain ⟨hc, hkept⟩ := h
    have hnext : (s.perform command).1.profile? id = some (p.assigned id command) := by
      rw [profile?_perform_of_not_makes hc, hp]
      rfl
    rw [after_cons, ih hnext hkept, lastGiven_cons, lastGiven_cons]
    rfl

theorem MadeBy.profile? {p : Profile} (h : s.MadeBy commands id before making since)
    (hp : (s.after (before ++ [making])).profile? id = some p) :
    (s.after commands).profile? id =
      some { p with
        raises := lastGiven (Command.raisesFor? id) p.raises since
        channel := lastGiven (Command.channelFor? id) p.channel since } := by
  obtain ⟨rfl, -, hkept⟩ := h
  rw [← profile?_after_of_noneMakes hp hkept, ← after_append, List.append_assoc]
  rfl

theorem profile?_of_constructed {strict raises : Bool} {channel : Channel}
    {disabled : List Operator.Kind}
    (h : s.MadeBy commands id before
      (.create id fromEnvironment strict raises channel disabled) since) :
    (s.after commands).profile? id =
      some ⟨if fromEnvironment then .snapshot (s.after before).environment else .shared, strict,
        lastGiven (Command.raisesFor? id) raises since,
        lastGiven (Command.channelFor? id) channel since, disabled⟩ := by
  have hnew : (s.after (before ++
      [.create id fromEnvironment strict raises channel disabled])).profile? id =
        some ⟨if fromEnvironment then .snapshot (s.after before).environment else .shared, strict,
          raises, channel, disabled⟩ := by
    rw [after_concat, perform]
    exact (profile?_keep _ _ _ _).trans (if_pos rfl)
  exact h.profile? hnew

theorem profile?_of_derived {source : Text} {strict : Bool}
    (h : s.MadeBy commands id before (.withStrict source id strict) since) :
    ∃ parent, (s.after before).profile? source = some parent ∧
      (s.after commands).profile? id =
        some ⟨parent.source, strict, lastGiven (Command.raisesFor? id) parent.raises since,
          lastGiven (Command.channelFor? id) parent.channel since, []⟩ := by
  obtain ⟨parent, hparent⟩ := Option.isSome_iff_exists.mp h.makes.2
  have hnew : (s.after (before ++ [.withStrict source id strict])).profile? id =
      some { parent with strict := strict, disabled := [] } := by
    rw [after_concat, perform_withStrict hparent, profile?_keep, if_pos rfl]
  exact ⟨parent, hparent, h.profile? hnew⟩

/-! ### Origins -/

/-- Every evaluator of a session that began without any has an origin. -/
theorem exists_origin (hs : s.profiles = []) {p : Profile}
    (hp : (s.after commands).profile? id = some p) :
    ∃ root fromEnvironment, s.Origin commands id root fromEnvironment := by
  -- from the end: the last command has made the evaluator, or was given one with an origin
  induction commands using List.reverseRecOn generalizing id p with
  | nil =>
    rw [after, List.foldl_nil, profile?, hs] at hp
    cases hp
  | append_singleton commands command ih =>
    by_cases hmakes : (s.after commands).Makes id command
    · cases command with
      | create target fromEnvironment strict raises channel disabled =>
        have htarget : target = id := hmakes
        subst htarget
        exact ⟨_, _, .constructed (.of_makes hmakes)⟩
      | withStrict source target strict =>
        obtain ⟨rfl, hsource⟩ := hmakes
        obtain ⟨parent, hparent⟩ := Option.isSome_iff_exists.mp hsource
        obtain ⟨root, fromEnvironment, horigin⟩ := ih hparent
        exact ⟨root, fromEnvironment, .derived (.of_makes ⟨rfl, hsource⟩) horigin⟩
      | _ => cases hmakes
    · rw [after_concat, profile?_perform_of_not_makes hmakes] at hp
      obtain ⟨p, hbefore, -⟩ := Option.map_eq_some_iff.mp hp
      obtain ⟨root, fromEnvironment, horigin⟩ := ih hbefore
      exact ⟨root, fromEnvironment, horigin.concat hmakes⟩

/-- An origin settles where the values are from. -/
theorem source_of_origin (h : s.Origin commands id root fromEnvironment) :
    ∃ p, (s.after commands).profile? id = some p ∧
      p.source = if fromEnvironment then .snapshot (s.after root).environment else .shared := by
  induction h with
  | constructed h => exact ⟨_, profile?_of_constructed h, rfl⟩
  | derived h hsource ih =>
    obtain ⟨parent, hparent, hp⟩ := profile?_of_derived h
    obtain ⟨parent', hparent', hsource⟩ := ih
    cases hparent.symm.trans hparent'
    exact ⟨_, hp, hsource⟩

theorem valuesOf_of_origin {p : Profile} (hp : (s.after commands).profile? id = some p)
    (h : s.Origin commands id root fromEnvironment) :
    (s.after commands).valuesOf p =
      if fromEnvironment then (s.after root).environment else (s.after commands).values := by
  obtain ⟨p', hp', hsource⟩ := source_of_origin h
  cases hp.symm.trans hp'
  rw [valuesOf, hsource]
  cases fromEnvironment <;> rfl

/-- After every run of a session that begins without evaluators, an evaluator goes back to one that
was constructed. If that was over the mapping of the session, its values are those of the mapping
now, and otherwise those that the environment had then. It has the strictness that it was
constructed or derived with; its raise flag and its channel are the last ones assigned to it since
then, or those that it was constructed with, or that the one it was derived from had then. -/
theorem profile_provenance (hs : s.profiles = []) (commands : List Command) (id : Text)
    (p : Profile) (hp : (s.after commands).profile? id = some p) :
    (∃ root fromEnvironment, s.Origin commands id root fromEnvironment) ∧
    (∀ root, s.Origin commands id root false →
      (s.after commands).valuesOf p = (s.after commands).values) ∧
    (∀ root, s.Origin commands id root true →
      (s.after commands).valuesOf p = (s.after root).environment) ∧
    (∀ before since fromEnvironment strict raises channel disabled,
      s.MadeBy commands id before
        (.create id fromEnvironment strict raises channel disabled) since →
      p.strict = strict ∧ p.raises = lastGiven (Command.raisesFor? id) raises since ∧
        p.channel = lastGiven (Command.channelFor? id) channel since) ∧
    ∀ before since source strict,
      s.MadeBy commands id before (.withStrict source id strict) since →
      ∃ parent, (s.after before).profile? source = some parent ∧ p.strict = strict ∧
        p.raises = lastGiven (Command.raisesFor? id) parent.raises since ∧
        p.channel = lastGiven (Command.channelFor? id) parent.channel since := by
  refine ⟨exists_origin hs hp, fun root h => valuesOf_of_origin hp h,
    fun root h => valuesOf_of_origin hp h, ?_, ?_⟩
  · intro before since fromEnvironment strict raises channel disabled h
    cases hp.symm.trans (profile?_of_constructed h)
    exact ⟨rfl, rfl, rfl⟩
  · intro before since source strict h
    obtain ⟨parent, hparent, hp'⟩ := profile?_of_derived h
    cases hp.symm.trans hp'
    exact ⟨parent, hparent, rfl, rfl, rfl⟩

/-- An evaluator over the environment, another one derived from it after the environment has changed,
and attributes assigned to both. -/
theorem profile_provenance_derived :
    ∃ last p, last = (initial .empty ⟨[(['X'], some ['1'])]⟩).after
        [.create ['a'] true false true .collector [], .setEnvironment ['X'] (some ['2']),
          .withStrict ['a'] ['b'] true, .setRaises ['a'] false, .setChannel ['b'] .silent,
          .setValue ['X'] (some ['3'])] ∧
      last.environment = ⟨[(['X'], some ['2'])]⟩ ∧ last.values = ⟨[(['X'], some ['3'])]⟩ ∧
      last.profile? ['b'] = some p ∧ last.valuesOf p = ⟨[(['X'], some ['1'])]⟩ ∧
      p.strict = true ∧ p.raises = true ∧ p.channel = .silent := by
  have hroot : (initial .empty ⟨[(['X'], some ['1'])]⟩).MadeBy
      [.create ['a'] true false true .collector [], .setEnvironment ['X'] (some ['2'])] ['a'] []
      (.create ['a'] true false true .collector []) [.setEnvironment ['X'] (some ['2'])] :=
    ⟨rfl, rfl, by simp [NoneMakes, Makes]⟩
  have hmade : (initial .empty ⟨[(['X'], some ['1'])]⟩).MadeBy
      [.create ['a'] true false true .collector [], .setEnvironment ['X'] (some ['2']),
        .withStrict ['a'] ['b'] true, .setRaises ['a'] false, .setChannel ['b'] .silent,
        .setValue ['X'] (some ['3'])] ['b']
      [.create ['a'] true false true .collector [], .setEnvironment ['X'] (some ['2'])]
      (.withStrict ['a'] ['b'] true)
      [.setRaises ['a'] false, .setChannel ['b'] .silent, .setValue ['X'] (some ['3'])] :=
    ⟨rfl, ⟨rfl, rfl⟩, by simp [NoneMakes, Makes]⟩
  obtain ⟨-, -, hvalues, -, hderived⟩ := profile_provenance
    (s := initial .empty ⟨[(['X'], some ['1'])]⟩) rfl
    [.create ['a'] true false true .collector [], .setEnvironment ['X'] (some ['2']),
      .withStrict ['a'] ['b'] true, .setRaises ['a'] false, .setChannel ['b'] .silent,
      .setValue ['X'] (some ['3'])] ['b'] ⟨.snapshot ⟨[(['X'], some ['1'])]⟩, true, true, .silent, []⟩
    (by decide)
  obtain ⟨parent, hparent, hstrict, hraises, hchannel⟩ := hderived _ _ _ _ hmade
  cases hparent
  exact ⟨_, _, rfl, by decide, by decide, by decide,
    hvalues [] (.derived hmade (.constructed hroot)), hstrict, hraises, hchannel⟩

end Session

end ParameterExpansion
