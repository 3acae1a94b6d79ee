import PathTemplates.Proofs.Crumb.Matching
import PathTemplates.Proofs.FileSystem.Paths
import PathTemplates.Proofs.Listing.Enumeration

namespace PathTemplates

namespace Path

variable {p q : Text} {pieces ts : List Text}

theorem Follows.foldl_push (h : Follows p pieces) (hts : ∀ t ∈ ts, '/' ∉ t)
    (hne : pieces ≠ [] ∨ ts.head? ≠ some []) : Follows (ts.foldl Path.push p) (pieces ++ ts) := by
  induction ts generalizing p pieces with
  | nil => simpa using h
  | cons t ts ih =>
    obtain ⟨ht, hts⟩ := List.forall_mem_cons.1 hts
    rw [List.foldl_cons, List.append_cons]
    exact ih (h.push ht (by simpa using hne)) hts (.inl (by simp))

theorem length_le_foldl_push (hts : ∀ t ∈ ts, '/' ∉ t) :
    p.utf8Length ≤ (ts.foldl Path.push p).utf8Length := by
  induction ts generalizing p with
  | nil => exact Nat.le_refl _
  | cons t ts ih =>
    obtain ⟨ht, hts⟩ := List.forall_mem_cons.1 hts
    have hpush := length_push (p := p) ht
    exact Nat.le_trans (by omega) (ih hts)

theorem Follows.length_foldl_push_le (hp : Follows p pieces) (hq : Follows q pieces)
    (hts : ∀ t ∈ ts, '/' ∉ t) (hne : pieces ≠ [] ∨ ts.head? ≠ some [])
    (h : p.utf8Length ≤ q.utf8Length) :
    (ts.foldl Path.push p).utf8Length ≤ (ts.foldl Path.push q).utf8Length := by
  induction ts generalizing p q pieces with
  | nil => exact h
  | cons t ts ih =>
    obtain ⟨ht, hts⟩ := List.forall_mem_cons.1 hts
    have hne' : pieces ≠ [] ∨ t ≠ [] := by simpa using hne
    exact ih (hp.push ht hne') (hq.push ht hne') hts (.inl (by simp))
      (hp.length_push_le hq ht h)

end Path

namespace Crumb

open PathTemplates.Path (Follows)

variable {fs : FileSystem} {c : Crumb} {more : Prop} {folder stop p q : Text}
  {ks literals : List Component} {u u' : Assignment} {ts pieces : List Text}
  {value : Text → Option Text}

/-- A text for each component: its own where nothing is open, and else the name of an entry that
gives the arguments values that fit. -/
inductive Fills (c : Crumb) : List Component → Assignment → List Text → Prop
  | nil : Fills c [] [] []
  | literal {k ks u ts} (closed : k.isOpen = false) (rest : Fills c ks u ts) :
      Fills c (k :: ks) u (k.text :: ts)
  | entry {k ks e bindings u ts} (isOpen : k.isOpen = true) (name : FileName e)
      (fits : c.bindingsFor k e = some bindings) (rest : Fills c ks u ts) :
      Fills c (k :: ks) (bindings ++ u) (e :: ts)

theorem Fills.names_eq (h : Fills c ks u ts) : u.names = ks.flatMap Component.names := by
  induction h with
  | nil => rfl
  | literal closed rest ih =>
    rw [List.flatMap_cons, Component.isOpen_eq_false_iff.1 closed, ih, List.nil_append]
  | entry isOpen name fits rest ih =>
    rw [List.flatMap_cons, ← ih,
      ← Component.names_of_matchEntry (bindingsFor_eq_some.1 fits).2.1]
    exact List.map_append

theorem Fills.no_slash (h : Fills c ks u ts) (hks : ∀ k ∈ ks, k.Unslashed) : ∀ t ∈ ts, '/' ∉ t := by
  induction h with
  | nil => simp
  | literal closed rest ih =>
    obtain ⟨hk, hks⟩ := List.forall_mem_cons.1 hks
    exact List.forall_mem_cons.2 ⟨hk.text closed, ih hks⟩
  | entry isOpen name fits rest ih =>
    exact List.forall_mem_cons.2 ⟨name.no_slash, ih (List.forall_mem_cons.1 hks).2⟩

/-- The texts are the components with the values filled in. -/
theorem Fills.eq_map_fill (h : Fills c ks u ts)
    (hvalue : ∀ b ∈ u, value b.name = some b.value) : ts = ks.map (Component.fill value) := by
  induction h with
  | nil => rfl
  | literal closed rest ih => rw [List.map_cons, Component.fill_of_closed closed, ← ih hvalue]
  | entry isOpen name fits rest ih =>
    obtain ⟨hb, hu⟩ := List.forall_mem_append.1 hvalue
    rw [List.map_cons, Component.fill_of_matchEntry (bindingsFor_eq_some.1 fits).2.1 hb, ← ih hu]

theorem Fills.unique (h : Fills c ks u ts) (h' : Fills c ks u' ts) : u = u' := by
  induction h generalizing u' with
  | nil => cases h'; rfl
  | literal closed rest ih =>
    cases h' with
    | literal _ rest' => exact ih rest'
    | entry isOpen' => simp [closed] at isOpen'
  | entry isOpen name fits rest ih =>
    cases h' with
    | literal closed' => simp [isOpen] at closed'
    | entry _ _ fits' rest' =>
      cases fits.symm.trans fits'
      rw [ih rest']

theorem Fills.of_mem (h : Fills c ks u ts) :
    ∀ b ∈ u, b.value ≠ [] ∧ '/' ∉ b.value ∧ c.patterns.allows b.name b.value = true := by
  induction h with
  | nil => simp
  | literal closed rest ih => exact ih
  | entry isOpen name fits rest ih =>
    obtain ⟨_, hmatch, hallowed⟩ := bindingsFor_eq_some.1 fits
    refine List.forall_mem_append.2 ⟨fun b hb => ?_, ih⟩
    obtain ⟨hne, hmem⟩ := Component.value_of_matchEntry name.ne_nil hmatch b hb
    exact ⟨hne, fun hc => name.no_slash (hmem _ hc), hallowed b hb⟩

theorem Fills.ne_nil (h : Fills c ks u ts) (hopen : ks.any Component.isOpen = true) : ts ≠ [] := by
  cases h with
  | nil => simp at hopen
  | literal => simp
  | entry => simp

/-- Only a crumb without open arguments has a single empty text. -/
theorem Fills.ne_singleton_nil (h : Fills c ks u ts) (hopen : ks.any Component.isOpen = true) :
    ts ≠ [[]] := by
  intro e
  cases h with
  | nil => simp at hopen
  | literal closed rest =>
    cases rest with
    | nil => simp [closed] at hopen
    | literal => simp at e
    | entry => simp at e
  | entry _ name => exact name.ne_nil (List.cons.inj e).1

theorem fills_cons_iff {k : Component} :
    Fills c (k :: ks) u ts ↔ ∃ b t u' ts', Fills c [k] b [t] ∧ Fills c ks u' ts' ∧ u = b ++ u' ∧
      ts = t :: ts' := by
  constructor
  · intro h
    cases h with
    | literal closed rest => exact ⟨[], _, _, _, .literal closed .nil, rest, rfl, rfl⟩
    | @entry _ _ e bindings _ _ isOpen name fits rest =>
      have hone : Fills c [k] (bindings ++ []) [e] := .entry isOpen name fits .nil
      rw [List.append_nil] at hone
      exact ⟨bindings, e, _, _, hone, rest, rfl, rfl⟩
  · intro ⟨b, t, u', ts', hone, hrest, hu, hts⟩
    subst hu
    subst hts
    cases hone with
    | literal closed rest =>
      cases rest
      exact .literal closed hrest
    | entry isOpen name fits rest =>
      cases rest
      rw [List.append_nil]
      exact .entry isOpen name fits hrest

theorem fills_singleton_of_closed {k : Component} {t : Text} (h : k.isOpen = false) :
    Fills c [k] u [t] ↔ u = [] ∧ t = k.text := by
  constructor
  · intro hone
    cases hone with
    | literal closed rest =>
      cases rest
      exact ⟨rfl, rfl⟩
    | entry isOpen => simp [h] at isOpen
  · intro ⟨hu, ht⟩
    subst hu
    subst ht
    exact .literal h .nil

theorem Fills.names_singleton {k : Component} {t : Text} (h : Fills c [k] u [t]) :
    u.names = k.names :=
  h.names_eq.trans (List.flatMap_singleton ..)

theorem fills_append_iff (hclosed : ∀ k ∈ literals, k.isOpen = false) :
    Fills c (literals ++ ks) u ts ↔
      ∃ ts', ts = literals.map Component.text ++ ts' ∧ Fills c ks u ts' := by
  induction literals generalizing ts with
  | nil => simp
  | cons k literals ih =>
    obtain ⟨hk, hclosed⟩ := List.forall_mem_cons.1 hclosed
    constructor
    · intro h
      cases h with
      | literal closed rest =>
        obtain ⟨ts', rfl, h'⟩ := (ih hclosed).1 rest
        exact ⟨ts', rfl, h'⟩
      | entry isOpen => simp [hk] at isOpen
    · intro ⟨ts', e, h'⟩
      subst e
      exact .literal hk ((ih hclosed).2 ⟨ts', rfl, h'⟩)

theorem fills_of_descends (h : Descends fs c more folder ks u stop) :
    ∃ ts, Fills c ks u ts ∧ stop = ts.foldl Path.push folder := by
  induction h with
  | stop => exact ⟨[], .nil, rfl⟩
  | literal closed rest ih =>
    obtain ⟨ts, hts, rfl⟩ := ih
    exact ⟨_, .literal closed hts, rfl⟩
  | entry isOpen there inside kept fits allowed rest ih =>
    obtain ⟨ts, hts, rfl⟩ := ih
    exact ⟨_, .entry isOpen (there.fileName)
      (bindingsFor_eq_some.2 ⟨kept, fits, allowed⟩) hts, rfl⟩

/-- A path that is there has all the entries on the way to it. -/
theorem descends_of_pathExists (hp : Follows p pieces) (h : Fills c ks u ts)
    (hks : ∀ k ∈ ks, k.Unslashed) (hne : pieces ≠ [] ∨ ts.head? ≠ some [])
    (hexists : fs.pathExists (ts.foldl Path.push p) = true) :
    Descends fs c False p ks u (ts.foldl Path.push p) := by
  induction h generalizing p pieces with
  | nil => exact .stop
  | literal closed rest ih =>
    obtain ⟨hk, hks⟩ := List.forall_mem_cons.1 hks
    exact .literal closed
      (ih (hp.push (hk.text closed) (by simpa using hne)) hks (.inl (by simp)) hexists)
  | @entry k ks e bindings u ts isOpen name fits rest ih =>
    obtain ⟨hk, hks⟩ := List.forall_mem_cons.1 hks
    obtain ⟨kept, hmatch, allowed⟩ := bindingsFor_eq_some.1 fits
    have hpush : Follows (Path.push p e) (pieces ++ [e]) := hp.push name.no_slash (.inr name.ne_nil)
    have hts := rest.no_slash hks
    have hend : Follows (ts.foldl Path.push (Path.push p e)) (pieces ++ e :: ts) := by
      rw [List.append_cons]
      exact hpush.foldl_push hts (.inl (by simp))
    -- The paths on the way are not longer than the one at the end, which could be asked for.
    have hlength : (Path.push p e).utf8Length ≤
        (ts.foldl Path.push (Path.push p e)).utf8Length := Path.length_le_foldl_push hts
    have hshort : p.utf8Length ≤ (Path.push p e).utf8Length := by
      rw [Path.length_push name.no_slash]
      omega
    exact .entry isOpen
      (FileSystem.hasEntry_of_pathExists hp hend name (Nat.le_trans hshort hlength) hexists)
      (fun hopen => FileSystem.hasFolder_of_pathExists hp hend name
        (rest.ne_nil (hopen.resolve_left id)) hlength hexists)
      kept hmatch allowed (ih hpush hks (.inl (by simp)) hexists)

theorem unslashed_components : ∀ k ∈ c.components, k.Unslashed := fun _ =>
  Component.unslashed_of_mem_splitBy

/-- The components in front of the first open one. -/
def front (c : Crumb) : List Component := c.components.takeWhile fun k => !k.isOpen

/-- The components from the first open one on. -/
def back (c : Crumb) : List Component := c.components.dropWhile fun k => !k.isOpen

theorem front_append_back (c : Crumb) : c.front ++ c.back = c.components :=
  List.takeWhile_append_dropWhile

theorem closed_of_mem_front : ∀ k ∈ c.front, k.isOpen = false := fun k hk => by
  simpa using List.mem_takeWhile_imp hk

theorem mem_components_of_mem_back {k : Component} (h : k ∈ c.back) : k ∈ c.components :=
  List.dropWhile_subset _ h

theorem unslashed_back : ∀ k ∈ c.back, k.Unslashed := fun k hk =>
  unslashed_components k (mem_components_of_mem_back hk)

theorem isOpen_of_back_eq_cons {k : Component} (h : c.back = k :: ks) : k.isOpen = true := by
  have hhead := List.head?_dropWhile_not (fun k : Component => !k.isOpen) c.components
  rw [show c.components.dropWhile (fun k => !k.isOpen) = k :: ks from h] at hhead
  simpa using hhead

theorem back_eq_nil_iff : c.back = [] ↔ ∀ k ∈ c.components, k.isOpen = false := by
  simp [back, List.dropWhile_eq_nil_iff]

theorem front_of_back_eq_nil (h : c.back = []) : c.front = c.components := by
  rw [← front_append_back c, h, List.append_nil]

theorem joined_eq_ofPieces (ks : List Component) :
    Component.joined ks = Path.ofPieces (ks.map Component.text) := by
  simp [Component.joined, Path.ofPieces]

theorem split_of_back_ne_nil (h : c.back ≠ []) :
    c.split.1 = Path.ofPieces (c.front.map Component.text) := by
  obtain ⟨k, ks, hback⟩ := List.exists_cons_of_ne_nil h
  have hk : k ∈ c.components := mem_components_of_mem_back (hback ▸ List.mem_cons_self ..)
  rw [split_of_open hk (isOpen_of_back_eq_cons hback), joined_eq_ofPieces]
  rfl

theorem split_of_back_eq_nil (h : c.back = []) :
    c.split.1 = Text.join ['/'] (c.components.map Component.text) := by
  rw [split_of_closed (back_eq_nil_iff.1 h), path_eq_join]

/-- The path that a walk comes to with some texts for all components: those in front of the first
open one are joined, and the others are pushed. -/
def reached (c : Crumb) (ts : List Text) : Text :=
  (ts.drop c.front.length).foldl Path.push c.split.1

theorem exists_reached_eq (h : Fills c c.components u ts) :
    ∃ ts', ts = c.front.map Component.text ++ ts' ∧ Fills c c.back u ts' ∧
      c.reached ts = ts'.foldl Path.push c.split.1 := by
  rw [← front_append_back, fills_append_iff closed_of_mem_front] at h
  obtain ⟨ts', rfl, h'⟩ := h
  refine ⟨ts', rfl, h', ?_⟩
  rw [reached, List.drop_left' (List.length_map _)]

/-- The first text that is pushed is the name of an entry. -/
theorem Fills.head?_ne (h : Fills c ks u ts) (hks : ∀ k ∈ ks.head?, k.isOpen = true) :
    ts.head? ≠ some [] := by
  cases h with
  | nil => simp
  | literal closed rest => simp [closed] at hks
  | entry isOpen name => simpa using name.ne_nil

theorem isOpen_of_mem_head?_back : ∀ k ∈ c.back.head?, k.isOpen = true := by
  intro k hk
  obtain ⟨ks, hks⟩ := List.head?_eq_some_iff.1 hk
  exact isOpen_of_back_eq_cons hks

theorem Fills.head?_back_ne (h : Fills c c.back u ts) : ts.head? ≠ some [] :=
  h.head?_ne isOpen_of_mem_head?_back

theorem slashless_front : ∀ t ∈ c.front.map Component.text, '/' ∉ t := by
  intro t ht
  obtain ⟨k, hk, rfl⟩ := List.mem_map.1 ht
  have hmem : k ∈ c.components := List.takeWhile_subset _ hk
  exact (unslashed_components k hmem).text (closed_of_mem_front k hk)

theorem follows_split (h : c.back ≠ []) : Follows c.split.1 (c.front.map Component.text) := by
  rw [split_of_back_ne_nil h]
  exact Path.follows_ofPieces slashless_front

theorem follows_reached (h : Fills c c.components u ts) (hjoin : Text.join ['/'] ts ≠ []) :
    Follows (c.reached ts) ts := by
  obtain ⟨ts', rfl, h', hreached⟩ := exists_reached_eq h
  have hts := h.no_slash unslashed_components
  rw [hreached]
  by_cases hback : c.back = []
  · rw [hback] at h'
    cases h'
    rw [front_of_back_eq_nil hback, List.append_nil] at hjoin hts ⊢
    rw [List.foldl_nil, split_of_back_eq_nil hback, ← Path.ofPieces_eq_join hjoin]
    exact Path.follows_ofPieces hts
  · exact (follows_split hback).foldl_push (List.forall_mem_append.1 hts).2 (.inr h'.head?_back_ne)

theorem Completes.fills (h : c.Completes fs u) :
    ∃ ts, Fills c c.components u ts ∧
      (c.checkExists = true → fs.pathExists (c.reached ts) = true) := by
  obtain ⟨stop, hdescends, hexists⟩ := h
  obtain ⟨ts, hts, rfl⟩ := fills_of_descends hdescends
  have hall : Fills c (c.front ++ c.back) u (c.front.map Component.text ++ ts) :=
    (fills_append_iff closed_of_mem_front).2 ⟨ts, rfl, hts⟩
  rw [front_append_back] at hall
  obtain ⟨ts', e, _, hreached⟩ := exists_reached_eq hall
  refine ⟨_, hall, ?_⟩
  rwa [hreached, ← List.append_cancel_left e]

/-- Where paths have to be there, a listing of all open arguments holds the values of the texts that
fill the components and whose path is there. -/
theorem mem_unfoldValues_iff_fills (hexists : c.checkExists = true) :
    u ∈ c.unfoldValues fs ↔
      ∃ ts, Fills c c.components u ts ∧ fs.pathExists (c.reached ts) = true := by
  rw [mem_unfoldValues]
  constructor
  · intro h
    obtain ⟨ts, hts, hthere⟩ := h.fills
    exact ⟨ts, hts, hthere hexists⟩
  · intro ⟨ts, hts, hthere⟩
    obtain ⟨ts', rfl, hts', hreached⟩ := exists_reached_eq hts
    rw [hreached] at hthere
    refine ⟨_, ?_, fun _ => hthere⟩
    show Descends fs c False c.split.1 c.back u _
    by_cases hback : c.back = []
    · rw [hback] at hts' ⊢
      cases hts'
      exact .stop
    · exact descends_of_pathExists (follows_split hback) hts' unslashed_back
        (.inr hts'.head?_back_ne) hthere

end Crumb

end PathTemplates
