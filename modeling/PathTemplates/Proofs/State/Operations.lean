import PathTemplates.Proofs.Join.Tuples
import PathTemplates.Proofs.Listing.Grouping
import PathTemplates.Proofs.Listing.Pruning

namespace PathTemplates

namespace Crumb

variable {fs : FileSystem} {c d : Crumb} {t : Assignment} {name text value : Text}
  {permitted : Operation → Prop}

/-- The operations that change a crumb or make others of it. -/
inductive Operation where
  | withIgnore (globs : List Text)
  | withMode (mode : PatternMode)
  | withCheckExists (on : Bool)
  | bind (name value : Text)
  | unbind (name : Text)
  | replace (t : Assignment)
  | setPattern (name text : Text)
  | clearPattern (name : Text)
  | rootedAt (folder : List UInt8)
  | absolute
  | listCrumbs (target : Text)
  | unfold
  | build (ts : List Assignment)
  | groupBy (name : Text) (groups : List (Text × Text))

namespace Operation

/-- The crumbs that an operation answers with. Rows that cannot be bound have none. -/
def run (fs : FileSystem) (c : Crumb) : Operation → Except (Failure CrumbError) (List Crumb)
  | withIgnore globs => Failure.returning ((c.withIgnore globs).map fun d => [d])
  | withMode mode => (c.withMode mode).map fun d => [d]
  | withCheckExists on => .ok [c.withCheckExists on]
  | bind name value => Failure.returning ((c.bind name value).map fun d => [d])
  | unbind name => Failure.returning ((c.unbind name).map fun r => [r.2])
  | replace t => Failure.returning ((c.replace t).map fun d => [d])
  | setPattern name text => (c.setPattern name text).map fun d => [d]
  | clearPattern name => Failure.returning ((c.clearPattern name).map fun d => [d])
  | rootedAt folder => Failure.returning ((c.rootedAtBytes folder).map fun d => [d])
  | absolute => Failure.returning ((c.absolute fs).map fun d => [d])
  | listCrumbs target => c.listCrumbs fs target
  | unfold => Failure.returning (c.unfold fs)
  | build ts => .ok ((c.build ts).filterMap Except.toOption)
  | groupBy name groups =>
    (c.groupBy fs name groups).map fun found => found.entries.flatMap fun group => group.2

/-- The crumbs that there are after an operation. One that fails leaves the crumb as it is, and so
does one that panics. -/
def results (fs : FileSystem) (c : Crumb) (op : Operation) : List Crumb :=
  match op.run fs c with
  | .ok ds => ds
  | .error _ => [c]

/-- Values are given to arguments or taken away from them. -/
def IsBinding : Operation → Prop
  | bind .. | unbind .. | replace .. => True
  | _ => False

end Operation

/-- The crumbs that come from reading a template and applying operations of some kind, whatever is
on disk at each step. -/
inductive Reachable (permitted : Operation → Prop) : Crumb → Prop
  | start (text : Text) (options : CrumbSettings) {c : Crumb} (reads : read text options = .ok c) :
      Reachable permitted c
  | step (fs : FileSystem) (op : Operation) {c d : Crumb} (source : Reachable permitted c)
      (kind : permitted op) (result : d ∈ op.results fs c) : Reachable permitted d

/-- What an operation can do to a crumb. -/
inductive Change (c : Crumb) : Crumb → Prop
  | ignore {globs : List Text} {ignore : Exclusions}
      (compiled : Exclusions.read globs = .ok ignore) : Change c { c with ignore }
  | mode {mode : PatternMode} {patterns : PatternTable}
      (compiled : readPatterns mode c.template.placeholders = .ok patterns) :
      Change c { c with patterns }
  | checkExists (on : Bool) : Change c (c.withCheckExists on)
  | bind {t : Assignment} (known : ∀ b ∈ t, c.mentions b.name = true) : Change c (c.bindAll t)
  | unbind (name : Text) : Change c { c with values := c.values.erase name }
  | setPattern {name text : Text} {table : PatternTable} (known : c.mentions name = true)
      (compiled : c.patterns.set name text = .ok table) :
      Change c (withTemplate { c with patterns := table } (c.template.setPattern name (some text))
        (c.template.names_setPattern ..))
  | clearPattern {name : Text} (known : c.mentions name = true) :
      Change c (withTemplate { c with patterns := c.patterns.clear name }
        (c.template.setPattern name none) (c.template.names_setPattern ..))
  | rootedAt (folder : Text) : Change c (c.rootedAt folder)

theorem read_of_readIgnore {globs : List Text} {ignore : Exclusions}
    (h : readIgnore globs = .ok ignore) : Exclusions.read globs = .ok ignore := by
  rw [readIgnore] at h
  cases hread : Exclusions.read globs with
  | error e =>
    rw [hread] at h
    cases h
  | ok ignore' =>
    rw [hread] at h
    cases h
    rfl

theorem bind_eq_ok (h : c.bind name value = .ok d) :
    c.mentions name = true ∧ d = { c with values := c.values.insert name value } := by
  obtain ⟨_, hname, hd⟩ := exists_of_bind_eq_ok h
  exact ⟨checkName_eq_ok_iff.1 hname, (Except.ok.inj hd).symm⟩

theorem unbind_eq_ok {r : Option Text × Crumb} (h : c.unbind name = .ok r) :
    r.2 = { c with values := c.values.erase name } := by
  obtain ⟨_, _, hr⟩ := exists_of_bind_eq_ok h
  rw [← Except.ok.inj hr]

theorem replace_eq_ok (h : c.replace t = .ok d) :
    (∀ b ∈ t, c.mentions b.name = true) ∧ d = c.bindAll t := by
  induction t generalizing c with
  | nil =>
    cases h
    exact ⟨nofun, rfl⟩
  | cons b t ih =>
    rw [replace, List.foldlM_cons] at h
    obtain ⟨c', hb, ht⟩ := exists_of_bind_eq_ok h
    obtain ⟨hname, rfl⟩ := bind_eq_ok hb
    obtain ⟨hnames, rfl⟩ := ih ht
    exact ⟨List.forall_mem_cons.2 ⟨hname, hnames⟩, rfl⟩

theorem clearPattern_eq_ok (h : c.clearPattern name = .ok d) :
    c.mentions name = true ∧ d = withTemplate { c with patterns := c.patterns.clear name }
      (c.template.setPattern name none) (c.template.names_setPattern ..) := by
  obtain ⟨_, hname, hd⟩ := exists_of_bind_eq_ok h
  exact ⟨checkName_eq_ok_iff.1 hname, (Except.ok.inj hd).symm⟩

theorem rootedAtBytes_eq_ok {folder : List UInt8} (h : c.rootedAtBytes folder = .ok d) :
    ∃ text, d = c.rootedAt text := by
  unfold rootedAtBytes at h
  split at h
  · exact ⟨_, (Except.ok.inj h).symm⟩
  · cases h

theorem absolute_eq_ok (h : c.absolute fs = .ok d) : d = c ∨ ∃ text, d = c.rootedAt text := by
  unfold absolute at h
  split at h
  · exact .inl (Except.ok.inj h).symm
  · split at h
    · exact .inr (rootedAtBytes_eq_ok h)
    · cases h

theorem exists_replace_of_replaceEach {ts : List Assignment} {ds : List Crumb}
    (h : c.replaceEach ts = .ok ds) (hd : d ∈ ds) : ∃ t, c.replace t = .ok d := by
  induction ts generalizing ds with
  | nil =>
    cases h
    cases hd
  | cons t ts ih =>
    rw [replaceEach, List.mapM_cons] at h
    obtain ⟨d', ht, h⟩ := exists_of_bind_eq_ok h
    obtain ⟨rest, hrest, h⟩ := exists_of_bind_eq_ok h
    cases h
    obtain rfl | hd := List.mem_cons.1 hd
    · exact ⟨t, ht⟩
    · exact ih hrest hd

theorem exists_replace_of_listCrumbs {target : Text} {ds : List Crumb}
    (h : c.listCrumbs fs target = .ok ds) (hd : d ∈ ds) : ∃ t, c.replace t = .ok d := by
  obtain ⟨_, _, h⟩ := exists_of_bind_eq_ok h
  exact exists_replace_of_replaceEach (Failure.returning_eq_ok_iff.1 h) hd

/-- An operation leaves the crumb as it is or changes it in one of a few ways. -/
theorem change_of_mem_results {op : Operation} (h : d ∈ op.results fs c) : d = c ∨ Change c d := by
  have hsingle {α ε : Type} {x : Except ε α} {f : α → Crumb} {ds : List Crumb}
      (h : x.map (fun a => [f a]) = .ok ds) (hd : d ∈ ds) : ∃ a, x = .ok a ∧ d = f a := by
    obtain ⟨a, ha, rfl⟩ := exists_of_map_eq_ok h
    exact ⟨a, ha, List.mem_singleton.1 hd⟩
  have hreturned {α : Type} {x : Except CrumbError α} {f : α → Crumb} {ds : List Crumb}
      (h : Failure.returning (x.map fun a => [f a]) = .ok ds) (hd : d ∈ ds) :
      ∃ a, x = .ok a ∧ d = f a :=
    hsingle (Failure.returning_eq_ok_iff.1 h) hd
  have hreplace {t : Assignment} (h : c.replace t = .ok d) : Change c d := by
    obtain ⟨known, rfl⟩ := replace_eq_ok h
    exact .bind known
  unfold Operation.results at h
  split at h
  · next ds hrun =>
    cases op with
    | withIgnore globs =>
      obtain ⟨d, hd, rfl⟩ := hreturned hrun h
      obtain ⟨ignore, compiled, rfl⟩ := exists_of_map_eq_ok hd
      exact .inr (.ignore (read_of_readIgnore compiled))
    | withMode mode =>
      obtain ⟨d, hd, rfl⟩ := hsingle hrun h
      obtain ⟨patterns, compiled, rfl⟩ := exists_of_map_eq_ok hd
      exact .inr (.mode compiled)
    | withCheckExists on =>
      cases hrun
      rw [List.mem_singleton.1 h]
      exact .inr (.checkExists on)
    | bind name value =>
      obtain ⟨d, hd, rfl⟩ := hreturned hrun h
      exact .inr (hreplace (t := [⟨name, value⟩]) (by rw [replace, List.foldlM_cons, hd]; rfl))
    | unbind name =>
      obtain ⟨r, hr, rfl⟩ := hreturned hrun h
      rw [unbind_eq_ok hr]
      exact .inr (.unbind name)
    | replace t =>
      obtain ⟨d, hd, rfl⟩ := hreturned hrun h
      exact .inr (hreplace hd)
    | setPattern name text =>
      obtain ⟨d, hd, rfl⟩ := hsingle hrun h
      obtain ⟨known, table, compiled, rfl⟩ := setPattern_eq_ok hd
      exact .inr (.setPattern known compiled)
    | clearPattern name =>
      obtain ⟨d, hd, rfl⟩ := hreturned hrun h
      obtain ⟨known, rfl⟩ := clearPattern_eq_ok hd
      exact .inr (.clearPattern known)
    | rootedAt folder =>
      obtain ⟨d, hd, rfl⟩ := hreturned hrun h
      obtain ⟨text, rfl⟩ := rootedAtBytes_eq_ok hd
      exact .inr (.rootedAt text)
    | absolute =>
      obtain ⟨d, hd, rfl⟩ := hreturned hrun h
      obtain rfl | ⟨text, rfl⟩ := absolute_eq_ok hd
      · exact .inl rfl
      · exact .inr (.rootedAt text)
    | listCrumbs target =>
      obtain ⟨t, ht⟩ := exists_replace_of_listCrumbs hrun h
      exact .inr (hreplace ht)
    | unfold =>
      obtain ⟨_, hds, hrun⟩ := exists_of_bind_eq_ok (Failure.returning_eq_ok_iff.1 hrun)
      obtain ⟨t, ht⟩ := exists_replace_of_replaceEach hrun h
      exact .inr (hreplace ht)
    | build ts =>
      cases hrun
      obtain ⟨r, hr, hd⟩ := List.mem_filterMap.1 h
      obtain ⟨t, _, rfl⟩ := List.mem_map.1 hr
      cases ht : c.replace t with
      | error e =>
        rw [ht] at hd
        cases hd
      | ok d' =>
        rw [ht] at hd
        cases hd
        exact .inr (hreplace ht)
    | groupBy name groups =>
      obtain ⟨found, hfound, rfl⟩ := exists_of_map_eq_ok hrun
      obtain ⟨group, hgroup, hd⟩ := List.mem_flatMap.1 h
      obtain ⟨pattern, _, hlist⟩ := selects_of_groupBy hfound group hgroup
      obtain ⟨t, ht⟩ := exists_replace_of_listCrumbs hlist hd
      exact .inr (hreplace ht)
  · exact .inl (List.mem_singleton.1 h)

/-- What holds of a crumb that is read, and is kept by every change, holds of every crumb that is
reached. -/
theorem Reachable.invariant {holds : Crumb → Prop} (h : Reachable permitted c)
    (start : ∀ text options c, read text options = .ok c → holds c)
    (change : ∀ c d, holds c → Change c d → holds d) : holds c := by
  induction h with
  | start text options reads => exact start _ _ _ reads
  | step fs op source kind result ih =>
    obtain rfl | hchange := change_of_mem_results result
    · exact ih
    · exact change _ _ ih hchange

/-- Giving values to arguments and taking them away changes nothing else. -/
theorem exists_values_of_isBinding {op : Operation} (kind : op.IsBinding)
    (h : d ∈ op.results fs c) : ∃ values, d = { c with values } := by
  unfold Operation.results at h
  split at h
  · next ds hrun =>
    cases op with
    | bind name value =>
      obtain ⟨d', hd, rfl⟩ := exists_of_map_eq_ok (Failure.returning_eq_ok_iff.1 hrun)
      rw [List.mem_singleton.1 h]
      exact ⟨_, (bind_eq_ok hd).2⟩
    | unbind name =>
      obtain ⟨r, hr, rfl⟩ := exists_of_map_eq_ok (Failure.returning_eq_ok_iff.1 hrun)
      rw [List.mem_singleton.1 h]
      exact ⟨_, unbind_eq_ok hr⟩
    | replace t =>
      obtain ⟨d', hd, rfl⟩ := exists_of_map_eq_ok (Failure.returning_eq_ok_iff.1 hrun)
      rw [List.mem_singleton.1 h]
      exact ⟨_, (replace_eq_ok hd).2⟩
    | _ => cases kind
  · rw [List.mem_singleton.1 h]
    exact ⟨c.values, rfl⟩

end Crumb

end PathTemplates
