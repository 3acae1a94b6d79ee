import Mathlib.Data.List.Induction
import PathTemplates.Proofs.Glob.Braces
import PathTemplates.Proofs.Listing.Policy

namespace PathTemplates

namespace Crumb

variable {fs : FileSystem} {c d e : Crumb} {t : Target} {ts before after : List Target}
  {failure : Failure CrumbError} {shown : Text}

/-- How a call ends because of a target that is no argument, or else has a pattern that cannot be
read in the mode of the crumb. Nothing is said about a glob that is nested too deeply: the program
is over. -/
inductive Refuses (c : Crumb) (shown : Text) (t : Target) : Failure CrumbError → Prop
  | unknown (missing : c.mentions t.name = false) :
      Refuses c shown t (.returned (.unknownArgument t.name shown))
  | pattern {text : Text} {fault : PatternError} (mentions : c.mentions t.name = true)
      (given : t.pattern = some text)
      (fails : Pattern.compile c.mode text = .error (.returned fault)) :
      Refuses c shown t (.returned (.pattern fault))
  | nested {text : Text} {g : Glob} (mentions : c.mentions t.name = true)
      (given : t.pattern = some text) (glob : c.mode = .glob) (reads : Glob.read text = .ok g)
      (deep : g.isTooDeep = true) : Refuses c shown t .panicked

/-- A target is refused, those before it are accepted, and the path that is shown has their
patterns. -/
def FirstRefusal (c : Crumb) (ts : List Target) (failure : Failure CrumbError) : Prop :=
  ∃ before t after d, ts = before ++ t :: after ∧ (∀ s ∈ before, c.Accepts s) ∧
    c.setPatterns before = .ok d ∧ c.Refuses d.path t failure

/-- In every mode, what does not compile is refused. -/
theorem refuses_of_compile {text : Text} {fault : Failure PatternError}
    (hmentions : c.mentions t.name = true) (hpattern : t.pattern = some text)
    (h : Pattern.compile c.mode text = .error fault) :
    c.Refuses shown t (fault.map .pattern) := by
  cases fault with
  | returned fault => exact .pattern hmentions hpattern h
  | panicked =>
    obtain ⟨hmode, g, hread, hdeep⟩ := Pattern.compile_eq_panicked_iff.1 h
    exact .nested hmentions hpattern hmode hread hdeep

/-- What is refused is no argument or does not compile. -/
theorem Refuses.cases (h : c.Refuses shown t failure) :
    (c.mentions t.name = false ∧ failure = .returned (.unknownArgument t.name shown)) ∨
      c.mentions t.name = true ∧ ∃ text fault, t.pattern = some text ∧
        Pattern.compile c.mode text = .error fault ∧ failure = fault.map .pattern := by
  cases h with
  | unknown missing => exact .inl ⟨missing, rfl⟩
  | @pattern text fault mentions given fails =>
    exact .inr ⟨mentions, text, .returned fault, given, fails, rfl⟩
  | @nested text g mentions given glob reads deep =>
    refine .inr ⟨mentions, text, .panicked, given, ?_, rfl⟩
    exact Pattern.compile_eq_panicked_iff.2 ⟨glob, g, reads, deep⟩

theorem not_accepts_of_refuses (h : c.Refuses shown t failure) : ¬c.Accepts t := by
  intro haccepts
  obtain ⟨missing, _⟩ | ⟨_, text, fault, given, fails, _⟩ := h.cases
  · simp [haccepts.mentions] at missing
  · obtain ⟨q, hq⟩ := haccepts.compiles _ given
    simp [hq] at fails

theorem accepts_or_refuses (c : Crumb) (shown : Text) (t : Target) :
    c.Accepts t ∨ ∃ failure, c.Refuses shown t failure := by
  cases hmentions : c.mentions t.name with
  | false => exact .inr ⟨_, .unknown hmentions⟩
  | true =>
    cases hpattern : t.pattern with
    | none => exact .inl (accepts_of_plain hmentions hpattern)
    | some text =>
      cases hcompile : Pattern.compile c.mode text with
      | error fault => exact .inr ⟨_, refuses_of_compile hmentions hpattern hcompile⟩
      | ok q =>
        refine .inl ⟨hmentions, fun text' h => ⟨q, ?_⟩⟩
        cases hpattern.symm.trans h
        exact hcompile

theorem SameFrame.refuses (hframe : SameFrame c d) (h : c.Refuses shown t failure) :
    d.Refuses shown t failure := by
  obtain ⟨missing, rfl⟩ | ⟨mentions, text, fault, given, fails, rfl⟩ := h.cases
  · exact .unknown ((hframe.mentions _).trans missing)
  · exact refuses_of_compile ((hframe.mentions _).trans mentions) given (hframe.mode ▸ fails)

theorem withTargets_of_refuses (h : c.Refuses c.path t failure) (after : List Target) :
    c.withTargets (t :: after) = .error failure := by
  obtain ⟨missing, rfl⟩ | ⟨mentions, text, fault, given, fails, rfl⟩ := h.cases
  · rw [withTargets, checkName, missing]
    rfl
  · have hset : c.patterns.set t.name text = .error fault := by
      rw [PatternTable.set, show c.patterns.mode = c.mode from rfl, fails]
    rw [withTargets, checkName, if_pos mentions, given]
    dsimp only
    rw [setPattern, checkName, if_pos mentions, hset]
    rfl

theorem FirstRefusal.withTargets (h : c.FirstRefusal ts failure) :
    c.withTargets ts = .error failure := by
  obtain ⟨before, t, after, d, rfl, haccepts, hset, hrefuses⟩ := h
  obtain ⟨e, hset', hframe, hwith⟩ := withTargets_append haccepts
  cases hset.symm.trans hset'
  rw [hwith]
  exact withTargets_of_refuses (hframe.refuses hrefuses) after

/-- By induction from the last target on: it is reached only if all before it are accepted. -/
theorem accepts_or_firstRefusal (c : Crumb) (ts : List Target) :
    (∀ t ∈ ts, c.Accepts t) ∨ ∃ failure, c.FirstRefusal ts failure := by
  induction ts using List.reverseRecOn with
  | nil => exact .inl nofun
  | append_singleton ts t ih =>
    rcases ih with haccepts | ⟨failure, before, s, after, d, rfl, hbefore, hset, hrefuses⟩
    · obtain ⟨e, hset, _⟩ := withTargets_append haccepts
      rcases accepts_or_refuses c e.path t with ht | ⟨failure, ht⟩
      · exact .inl (List.forall_mem_append.2 ⟨haccepts, List.forall_mem_singleton.2 ht⟩)
      · exact .inr ⟨failure, ts, t, [], e, rfl, haccepts, hset, ht⟩
    · refine .inr ⟨failure, before, s, after ++ [t], d, ?_, hbefore, hset, hrefuses⟩
      rw [List.append_assoc, List.cons_append]

theorem exists_firstRefusal_iff :
    (∃ failure, c.FirstRefusal ts failure) ↔ ∃ t ∈ ts, ¬c.Accepts t := by
  constructor
  · rintro ⟨failure, before, t, after, d, rfl, _, _, hrefuses⟩
    exact ⟨t, by simp, not_accepts_of_refuses hrefuses⟩
  · intro ⟨t, ht, hnot⟩
    exact (accepts_or_firstRefusal c ts).resolve_left fun haccepts => hnot (haccepts t ht)

theorem withTargets_eq_error_iff :
    c.withTargets ts = .error failure ↔ c.FirstRefusal ts failure := by
  refine ⟨fun h => ?_, FirstRefusal.withTargets⟩
  rcases accepts_or_firstRefusal c ts with haccepts | ⟨other, hrefusal⟩
  · obtain ⟨e, _, hwith, _⟩ := withTargets_eq_setPatterns haccepts
    cases h.symm.trans hwith
  · cases h.symm.trans hrefusal.withTargets
    exact hrefusal

theorem sameFrame_of_withTargets (h : c.withTargets ts = .ok e) : SameFrame c e := by
  rcases accepts_or_firstRefusal c ts with haccepts | ⟨failure, hrefusal⟩
  · obtain ⟨_, _, hwith, hframe⟩ := withTargets_eq_setPatterns haccepts
    cases h.symm.trans hwith
    exact hframe
  · cases h.symm.trans hrefusal.withTargets

theorem find_eq_error_iff {targets : List Text} :
    c.find fs targets = .error failure ↔ c.FirstRefusal (targets.map Target.read) failure := by
  by_cases hne : targets = []
  · subst hne
    rw [find_nil, ← withTargets_eq_error_iff]
    simp [Crumb.withTargets]
  · rw [find_eq_map fs c hne, map_eq_error_iff, withTargets_eq_error_iff]

/-- What a listing finds can be bound. -/
theorem opens_of_find {targets names : List Text} {found : List Assignment}
    (h : c.find fs targets = .ok (names, found)) : ∀ u ∈ found, c.Opens u := by
  by_cases hne : targets = []
  · rw [hne, find_nil] at h
    cases h
    exact fun u => opens_of_mem_unfoldValues
  · cases hwith : c.withTargets (targets.map Target.read) with
    | error failure =>
      rw [find_eq_map fs c hne, hwith] at h
      cases h
    | ok e =>
      rw [find_eq hne hwith] at h
      cases h
      intro u hu
      split at hu
      · cases hu
      · exact (sameFrame_of_withTargets hwith).opens (opens_of_mem_completions hu)

theorem listValues_eq_map (fs : FileSystem) (c : Crumb) (targets : List Text) :
    c.listValues fs targets = (c.find fs targets).map fun r => c.selectAll r.2 r.1 := by
  rw [listValues]
  cases c.find fs targets <;> rfl

theorem listCrumbs_eq_map_find (fs : FileSystem) (c : Crumb) (target : Text) :
    c.listCrumbs fs target = (c.find fs [target]).map fun r => r.2.map c.bindAll := by
  rw [listCrumbs]
  cases hfind : c.find fs [target] with
  | error failure => rfl
  | ok r => exact congrArg Failure.returning (replaceEach_eq (opens_of_find hfind))

section

variable {n : Nat} (fs : FileSystem) (c : Crumb) (hmentions : c.mentions ['a'] = true)
  (hcompile : Pattern.compile c.mode (Glob.nested n) = .error .panicked)
include hmentions hcompile

end

end Crumb

end PathTemplates
