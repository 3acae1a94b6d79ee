import PathTemplates.Proofs.State.Rewriting

namespace PathTemplates

namespace Crumb

variable {c d : Crumb} {n : Text}

/-- The calls that change a crumb in place. -/
inductive Edit where
  | bind (name value : Text)
  | unbind (name : Text)
  | setPattern (name text : Text)
  | clearPattern (name : Text)
  deriving DecidableEq, Repr

namespace Edit

def name : Edit → Text
  | bind n _ | unbind n | setPattern n _ | clearPattern n => n

/-- What the call makes the value of `n`, if it is about that. -/
def value? (n : Text) : Edit → Option (Option Text)
  | bind m v => if m = n then some (some v) else none
  | unbind m => if m = n then some none else none
  | setPattern .. | clearPattern _ => none

/-- What the call makes the pattern of `n`, if it is about that. -/
def pattern? (n : Text) : Edit → Option (Option Text)
  | setPattern m text => if m = n then some (some text) else none
  | clearPattern m => if m = n then some none else none
  | bind .. | unbind _ => none

/-- The answer, and the crumb afterwards. Only to open an argument is answered with something, the
value that it had. -/
def run (c : Crumb) : Edit → Except (Failure CrumbError) (Option Text × Crumb)
  | bind n v => Failure.returning ((c.bind n v).map fun d => (none, d))
  | unbind n => Failure.returning (c.unbind n)
  | setPattern n text => (c.setPattern n text).map fun d => (none, d)
  | clearPattern n => Failure.returning ((c.clearPattern n).map fun d => (none, d))

def answer (c : Crumb) (e : Edit) : Except (Failure CrumbError) (Option Text) :=
  (e.run c).map Prod.fst

/-- A call that fails leaves the crumb as it is, and so does one that panics. -/
def apply (c : Crumb) (e : Edit) : Crumb :=
  match e.run c with
  | .ok r => r.2
  | .error _ => c

theorem value?_of_ne (e : Edit) (h : e.name ≠ n) : e.value? n = none := by
  cases e with
  | bind m v => exact if_neg h
  | unbind m => exact if_neg h
  | setPattern m text => rfl
  | clearPattern m => rfl

theorem pattern?_of_ne (e : Edit) (h : e.name ≠ n) : e.pattern? n = none := by
  cases e with
  | bind m v => rfl
  | unbind m => rfl
  | setPattern m text => exact if_neg h
  | clearPattern m => exact if_neg h

/-- What a call does if it succeeds. -/
theorem rewrites_of_run {e : Edit} {r : Option Text × Crumb} (h : e.run c = .ok r) :
    c.mentions e.name = true ∧ Rewrites e.value? e.pattern? c r.2 := by
  cases e with
  | bind m v =>
    obtain ⟨d, hd, rfl⟩ := exists_of_map_eq_ok (Failure.returning_eq_ok_iff.1 h)
    obtain ⟨hname, rfl⟩ := bind_eq_ok hd
    refine ⟨hname, .of_values fun n => ?_⟩
    rw [NameMap.get?_insert, value?]
    split <;> rfl
  | unbind m =>
    have h := Failure.returning_eq_ok_iff.1 h
    obtain ⟨_, hname, _⟩ := exists_of_bind_eq_ok h
    rw [unbind_eq_ok h]
    refine ⟨checkName_eq_ok_iff.1 hname, .of_values fun n => ?_⟩
    rw [NameMap.get?_erase, value?]
    split <;> rfl
  | setPattern m text =>
    obtain ⟨d, hd, rfl⟩ := exists_of_map_eq_ok h
    obtain ⟨hname, table, htable, rfl⟩ := setPattern_eq_ok hd
    obtain ⟨_, _, hget⟩ := PatternTable.get?_of_set htable
    refine ⟨hname, .of_pattern (mode_of_set htable) (PatternTable.holds_of_set htable) ?_⟩
    intro n hn
    rw [hget, if_neg hn]
  | clearPattern m =>
    obtain ⟨d, hd, rfl⟩ := exists_of_map_eq_ok (Failure.returning_eq_ok_iff.1 h)
    obtain ⟨hname, rfl⟩ := clearPattern_eq_ok hd
    refine ⟨hname, .of_pattern rfl ?_ fun n hn => ?_⟩
    · exact (PatternTable.get?_clear ..).trans (if_pos rfl)
    · exact (PatternTable.get?_clear ..).trans (if_neg hn)

/-- What a call about an argument is answered with hangs on no other argument. -/
theorem answer_eq (c : Crumb) (e : Edit) :
    e.answer c = Failure.returning (c.checkName e.name) >>= fun _ =>
      match e with
      | bind .. | clearPattern _ => .ok none
      | unbind n => .ok (c.values.get? n)
      | setPattern _ text =>
        ((Pattern.compile c.mode text).map fun _ => none).mapError (.map .pattern) := by
  cases e with
  | bind m v =>
    rw [answer, run, Crumb.bind, name]
    cases c.checkName m <;> rfl
  | unbind m =>
    rw [answer, run, Crumb.unbind, name]
    cases c.checkName m <;> rfl
  | setPattern m text =>
    rw [answer, run, Crumb.setPattern, PatternTable.set, name,
      show c.patterns.mode = c.mode from rfl]
    cases c.checkName m with
    | error fault => rfl
    | ok _ =>
      show _ = ((Pattern.compile c.mode text).map _).mapError _
      rcases Pattern.compile c.mode text with _ | _ | _ <;> rfl
  | clearPattern m =>
    rw [answer, run, Crumb.clearPattern, name]
    cases c.checkName m <;> rfl

theorem answer_of_unknown {e : Edit} (h : c.mentions e.name = false) :
    e.answer c = .error (.returned (.unknownArgument e.name c.path)) := by
  rw [answer_eq, checkName, h]
  rfl

end Edit

/-- A call and what it has been answered with. -/
structure Answered where
  edit : Edit
  answer : Except (Failure CrumbError) (Option Text)

namespace Answered

def name (a : Answered) : Text := a.edit.name

def succeeded (a : Answered) : Bool := a.answer.isOk

/-- The calls that have succeeded. -/
def done (log : List Answered) : List Edit := (log.filter succeeded).map edit

/-- What the last call has done that has succeeded and does something of a kind. -/
def last (does : Edit → Option (Option Text)) (log : List Answered) : Option (Option Text) :=
  ((log.filter succeeded).filterMap fun a => does a.edit).getLast?

end Answered

/-- The crumb after some calls. -/
def edited (c : Crumb) (es : List Edit) : Crumb := es.foldl Edit.apply c

/-- The calls with their answers. -/
def history : Crumb → List Edit → List Answered
  | _, [] => []
  | c, e :: es => ⟨e, e.answer c⟩ :: history (e.apply c) es

theorem edited_cons (c : Crumb) (e : Edit) (es : List Edit) :
    c.edited (e :: es) = (e.apply c).edited es := rfl

theorem history_cons (c : Crumb) (e : Edit) (es : List Edit) :
    c.history (e :: es) = ⟨e, e.answer c⟩ :: (e.apply c).history es := rfl

namespace Answered

variable {does : Edit → Option (Option Text)}

theorem last_append (does : Edit → Option (Option Text)) (log later : List Answered) :
    last does (log ++ later) = (last does later).or (last does log) := by
  rw [last, List.filter_append, List.filterMap_append, List.getLast?_append]
  rfl

theorem last_of_failed {a : Answered} (h : a.succeeded = false) : last does [a] = none := by
  rw [last, List.filter_cons_of_neg (by simp [h])]
  rfl

theorem last_of_succeeded {a : Answered} (h : a.succeeded = true) :
    last does [a] = does a.edit := by
  rw [last, List.filter_cons_of_pos h, List.filter_nil, List.filterMap_cons]
  cases does a.edit <;> rfl

theorem done_cons_of_failed {a : Answered} (h : a.succeeded = false) (log : List Answered) :
    done (a :: log) = done log := by
  rw [done, List.filter_cons_of_neg (by simp [h])]
  rfl

theorem done_cons_of_succeeded {a : Answered} (h : a.succeeded = true) (log : List Answered) :
    done (a :: log) = a.edit :: done log := by
  rw [done, List.filter_cons_of_pos h]
  rfl

/-- Only calls with the right name count. -/
theorem last_filter (h : ∀ e : Edit, e.name ≠ n → does e = none) (log : List Answered) :
    last does (log.filter fun a => a.name = n) = last does log := by
  rw [last, last, List.filter_filter, List.filterMap_filter, List.filterMap_filter]
  refine congrArg List.getLast? (List.filterMap_congr fun a _ => ?_)
  by_cases hname : a.name = n
  · simp [hname]
  · simp [hname, h a.edit hname]

end Answered

/-- A call that fails does nothing, and one that succeeds is about an argument. -/
theorem Edit.apply_cases (c : Crumb) (e : Edit) :
    Answered.succeeded ⟨e, e.answer c⟩ = false ∧ e.apply c = c ∨
      Answered.succeeded ⟨e, e.answer c⟩ = true ∧ c.mentions e.name = true ∧
        Rewrites e.value? e.pattern? c (e.apply c) := by
  cases hrun : e.run c with
  | error fault =>
    refine .inl ⟨?_, by rw [apply, hrun]⟩
    rw [Answered.succeeded, answer, hrun]
    rfl
  | ok r =>
    obtain ⟨hname, hrewrites⟩ := rewrites_of_run hrun
    refine .inr ⟨?_, hname, by rwa [apply, hrun]⟩
    rw [Answered.succeeded, answer, hrun]
    rfl

theorem rewrites_apply (c : Crumb) (e : Edit) :
    Rewrites (fun n => Answered.last (Edit.value? n) [⟨e, e.answer c⟩])
      (fun n => Answered.last (Edit.pattern? n) [⟨e, e.answer c⟩]) c (e.apply c) := by
  obtain ⟨hfailed, happly⟩ | ⟨hsucceeded, _, hrewrites⟩ := e.apply_cases c
  · simp only [Answered.last_of_failed hfailed, happly]
    exact .refl c
  · simpa only [Answered.last_of_succeeded hsucceeded] using hrewrites

/-- By induction over the calls: what one call does is overlaid with what the others do. -/
theorem rewrites_edited (c : Crumb) (es : List Edit) :
    Rewrites (fun n => Answered.last (Edit.value? n) (c.history es))
      (fun n => Answered.last (Edit.pattern? n) (c.history es)) c (c.edited es) := by
  induction es generalizing c with
  | nil => exact .refl c
  | cons e es ih =>
    have hcons : c.history (e :: es) = [⟨e, e.answer c⟩] ++ (e.apply c).history es := rfl
    simp only [hcons, Answered.last_append]
    exact (rewrites_apply c e).trans (ih (e.apply c))

theorem history_succeeded (c : Crumb) (es : List Edit) :
    c.history (Answered.done (c.history es)) = (c.history es).filter Answered.succeeded ∧
      c.edited (Answered.done (c.history es)) = c.edited es := by
  induction es generalizing c with
  | nil => exact ⟨rfl, rfl⟩
  | cons e es ih =>
    rw [history_cons, edited_cons]
    obtain ⟨hfailed, happly⟩ | ⟨hsucceeded, _⟩ := e.apply_cases c
    · rw [Answered.done_cons_of_failed hfailed, List.filter_cons_of_neg (by simp [hfailed]), happly]
      exact ih c
    · obtain ⟨hhistory, hedited⟩ := ih (e.apply c)
      rw [Answered.done_cons_of_succeeded hsucceeded, List.filter_cons_of_pos hsucceeded,
        history_cons, edited_cons, hhistory, hedited]
      exact ⟨rfl, rfl⟩

theorem answer_of_mem_history {es : List Edit} {a : Answered} (h : a ∈ c.history es)
    (hname : a.name ∉ c.names) :
    ∃ shown, a.answer = .error (.returned (.unknownArgument a.name shown)) := by
  induction es generalizing c with
  | nil => cases h
  | cons e es ih =>
    obtain rfl | h := List.mem_cons.1 h
    · have hunknown : c.mentions e.name = false := by
        simpa [mem_names] using show e.name ∉ c.names from hname
      exact ⟨_, Edit.answer_of_unknown hunknown⟩
    · exact ih h ((rewrites_apply c e).names ▸ hname)

/-- Nothing is done about a name that is no argument. -/
theorem last_history_of_unknown (does : Edit → Option (Option Text))
    (hdoes : ∀ e : Edit, e.name ≠ n → does e = none) (hn : n ∉ c.names) (es : List Edit) :
    Answered.last does (c.history es) = none := by
  rw [Answered.last, List.filterMap_eq_nil_iff.2, List.getLast?_nil]
  intro a ha
  obtain ⟨ha, hsucceeded⟩ := List.mem_filter.1 ha
  refine hdoes _ fun hname => ?_
  obtain rfl : a.name = n := hname
  obtain ⟨shown, hshown⟩ := answer_of_mem_history ha hn
  rw [Answered.succeeded, hshown] at hsucceeded
  cases hsucceeded

/-- The crumbs do not differ in anything that a call about the argument `n` is answered from. -/
structure LikeAt (n : Text) (c d : Crumb) : Prop where
  left : n ∈ c.names
  right : n ∈ d.names
  mode : d.mode = c.mode
  value : d.values.get? n = c.values.get? n

namespace LikeAt

theorem answer (h : LikeAt n c d) {e : Edit} (he : e.name = n) : e.answer d = e.answer c := by
  subst he
  rw [Edit.answer_eq, Edit.answer_eq, checkName_eq_ok_iff.2 (mem_names.1 h.left),
    checkName_eq_ok_iff.2 (mem_names.1 h.right)]
  cases e with
  | bind m v => rfl
  | unbind m => exact congrArg Except.ok h.value
  | setPattern m text => rw [h.mode]
  | clearPattern m => rfl

theorem rewrites {values patterns values' patterns' : Text → Option (Option Text)}
    (h : LikeAt n c d) {c' d' : Crumb} (hc : Rewrites values patterns c c')
    (hd : Rewrites values' patterns' d d') (hvalues : values' n = values n) : LikeAt n c' d' where
  left := hc.names ▸ h.left
  right := hd.names ▸ h.right
  mode := by rw [hc.mode, hd.mode, h.mode]
  value := by rw [hc.value, hd.value, hvalues, h.value]

theorem apply (h : LikeAt n c d) {e : Edit} (he : e.name = n) :
    LikeAt n (e.apply c) (e.apply d) :=
  h.rewrites (rewrites_apply c e) (rewrites_apply d e) (by rw [h.answer he])

/-- Calls about other names make no difference. -/
theorem skip (h : LikeAt n c d) {e : Edit} (he : e.name ≠ n) : LikeAt n (e.apply c) d := by
  refine h.rewrites (rewrites_apply c e) (.refl d) ?_
  have hname : Answered.name ⟨e, e.answer c⟩ ≠ n := he
  rw [← Answered.last_filter Edit.value?_of_ne, List.filter_cons_of_neg (by simpa using hname)]
  rfl

end LikeAt

/-- By induction over the calls: those about an argument are answered as if there were no others. -/
theorem LikeAt.filter_history (h : LikeAt n c d) (es : List Edit) :
    (c.history es).filter (fun a => a.name = n) = d.history (es.filter fun e => e.name = n) := by
  induction es generalizing c d with
  | nil => rfl
  | cons e es ih =>
    rw [history_cons]
    by_cases he : e.name = n
    · have hname : Answered.name ⟨e, e.answer c⟩ = n := he
      rw [List.filter_cons_of_pos (by simpa using hname),
        List.filter_cons_of_pos (by simpa using he),
        history_cons, h.answer he, ih (h.apply he)]
    · have hname : Answered.name ⟨e, e.answer c⟩ ≠ n := he
      rw [List.filter_cons_of_neg (by simpa using hname),
        List.filter_cons_of_neg (by simpa using he),
        ih (h.skip he)]

theorem filter_history_congr {es others : List Edit} (hn : n ∈ c.names)
    (h : others.filter (fun e => e.name = n) = es.filter fun e => e.name = n) :
    (c.history others).filter (fun a => a.name = n) =
      (c.history es).filter fun a => a.name = n := by
  have hlike : LikeAt n c c := ⟨hn, hn, rfl, rfl⟩
  rw [hlike.filter_history, hlike.filter_history, h]

theorem last_history_congr {es others : List Edit} (does : Edit → Option (Option Text))
    (hdoes : ∀ e : Edit, e.name ≠ n → does e = none)
    (h : n ∈ c.names → others.filter (fun e => e.name = n) = es.filter fun e => e.name = n) :
    Answered.last does (c.history others) = Answered.last does (c.history es) := by
  by_cases hn : n ∈ c.names
  · rw [← Answered.last_filter hdoes, filter_history_congr hn (h hn), Answered.last_filter hdoes]
  · rw [last_history_of_unknown does hdoes hn, last_history_of_unknown does hdoes hn]

theorem edited_congr {es others : List Edit} (h : ∀ n ∈ c.names,
    others.filter (fun e => e.name = n) = es.filter fun e => e.name = n) :
    c.edited others = c.edited es := by
  have hothers := rewrites_edited c others
  have hvalue (n : Text) := last_history_congr (Edit.value? n) Edit.value?_of_ne (h n)
  have hpattern (n : Text) :=
    last_history_congr (Edit.pattern? n) Edit.pattern?_of_ne (h n)
  simp only [hvalue, hpattern] at hothers
  exact hothers.unique (rewrites_edited c es)

theorem rewrites_replace {t : Assignment} (h : c.replace t = .ok d) :
    Rewrites (fun n => (Assignment.get? t.reverse n).map some) (fun _ => none) c d := by
  obtain ⟨_, rfl⟩ := replace_eq_ok h
  refine .of_values fun n => ?_
  rw [NameMap.get?_insertAll_eq_or]
  cases Assignment.get? t.reverse n <;> rfl

/-- After some calls, each argument has the value and the pattern of the last call about it that has
succeeded, and nothing else has changed. So the calls that fail might as well not have been made.
The calls about an argument are answered, and have effects, as if there were none about others: in
whatever way they are mixed the crumb is the same in the end. Calls about other names fail. To
replace values is to bind the last value of each name. -/
theorem edited_lastWins (c : Crumb) (es : List Edit) :
    Rewrites (fun n => Answered.last (Edit.value? n) (c.history es))
      (fun n => Answered.last (Edit.pattern? n) (c.history es)) c (c.edited es) ∧
    c.history (Answered.done (c.history es)) = (c.history es).filter Answered.succeeded ∧
    c.edited (Answered.done (c.history es)) = c.edited es ∧
    (∀ others : List Edit, (∀ n ∈ c.names,
        others.filter (fun e => e.name = n) = es.filter fun e => e.name = n) →
      c.edited others = c.edited es ∧ ∀ n ∈ c.names,
        (c.history others).filter (fun a => a.name = n) =
          (c.history es).filter fun a => a.name = n) ∧
    (∀ a ∈ c.history es, a.name ∉ c.names →
      ∃ shown, a.answer = .error (.returned (.unknownArgument a.name shown))) ∧
    ∀ t : Assignment, ((∃ d, c.replace t = .ok d) ↔ ∀ b ∈ t, b.name ∈ c.names) ∧
      ∀ d, c.replace t = .ok d →
        Rewrites (fun n => (Assignment.get? t.reverse n).map some) (fun _ => none) c d := by
  obtain ⟨hhistory, hedited⟩ := history_succeeded c es
  refine ⟨rewrites_edited c es, hhistory, hedited, fun others h => ?_,
    fun a => answer_of_mem_history, fun t => ?_⟩
  · exact ⟨edited_congr h, fun n hn => filter_history_congr hn (h n hn)⟩
  · refine ⟨⟨fun ⟨d, hd⟩ b hb => ?_, fun h => ?_⟩, fun d => rewrites_replace⟩
    · exact mem_names.2 ((replace_eq_ok hd).1 b hb)
    · exact ⟨_, replace_eq_bindAll fun b hb => mem_names.1 (h b hb)⟩

/-- Calls for `{a}/{b}`, first mixed and then one argument after the other. One is about a name that
is no argument, and one gives a pattern that cannot be read. -/
theorem edited_lastWins_sample : ∃ (c : Crumb) (es others : List Edit),
    read ['{', 'a', '}', '/', '{', 'b', '}'] {} = .ok c ∧
    es = [.bind ['a'] ['1'], .setPattern ['b'] ['x', '*'], .bind ['z'] ['2'], .unbind ['a'],
      .setPattern ['b'] ['[']] ∧
    others = [.setPattern ['b'] ['x', '*'], .setPattern ['b'] ['['], .bind ['a'] ['1'],
      .unbind ['a']] ∧
    (∀ n ∈ c.names, others.filter (fun e => e.name = n) = es.filter fun e => e.name = n) ∧
    c.edited others = c.edited es ∧ (c.edited es).values.get? ['a'] = none ∧
    (c.history others).filter (fun a => a.name = ['a']) =
      [⟨.bind ['a'] ['1'], .ok none⟩, ⟨.unbind ['a'], .ok (some ['1'])⟩] := by
  let es : List Edit := [.bind ['a'] ['1'], .setPattern ['b'] ['x', '*'], .bind ['z'] ['2'],
    .unbind ['a'], .setPattern ['b'] ['[']]
  let others : List Edit := [.setPattern ['b'] ['x', '*'], .setPattern ['b'] ['['],
    .bind ['a'] ['1'], .unbind ['a']]
  obtain ⟨c, hread, hnames, hlast, hlog⟩ : ∃ c : Crumb,
      read ['{', 'a', '}', '/', '{', 'b', '}'] {} = .ok c ∧ c.names = [['a'], ['b']] ∧
      Answered.last (Edit.value? ['a']) (c.history es) = some none ∧
      (c.history es).filter (fun a => a.name = ['a']) =
        [⟨.bind ['a'] ['1'], .ok none⟩, ⟨.unbind ['a'], .ok (some ['1'])⟩] :=
    ⟨_, rfl, rfl, rfl, rfl⟩
  have hmixed : ∀ n ∈ c.names,
      others.filter (fun e => e.name = n) = es.filter fun e => e.name = n := by
    rw [hnames]
    decide
  obtain ⟨hrewrites, _, _, hcongr, _⟩ := edited_lastWins c es
  obtain ⟨hedited, hhistory⟩ := hcongr others hmixed
  have ha : ['a'] ∈ c.names := hnames ▸ List.mem_cons_self ..
  refine ⟨c, es, others, hread, rfl, rfl, hmixed, hedited, ?_, (hhistory _ ha).trans hlog⟩
  rw [hrewrites.value, hlast]
  rfl

end Crumb

end PathTemplates
