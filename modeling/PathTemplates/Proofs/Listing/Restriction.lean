import PathTemplates.Proofs.Listing.Completeness
import PathTemplates.Proofs.Listing.Targets

namespace PathTemplates

namespace Crumb

open FileSystem (maxPathBytes)

variable {fs : FileSystem} {c d : Crumb} {u u' w : Assignment} {k : Component}
  {ks : List Component} {t t' : Text} {ts ts' : List Text} {value : Text → Option Text}

/-- What the bindings have values for, they have those values for. -/
def Agrees (value : Text → Option Text) (u : Assignment) : Prop :=
  ∀ b ∈ u, ∀ v, value b.name = some v → v = b.value

/-- The bindings of names without a value. -/
def remaining (value : Text → Option Text) (u : Assignment) : Assignment :=
  u.filter fun b => (value b.name).isNone

theorem remaining_append (value : Text → Option Text) (u u' : Assignment) :
    remaining value (u ++ u') = remaining value u ++ remaining value u' := List.filter_append ..

theorem names_remaining (value : Text → Option Text) (u : Assignment) :
    (remaining value u).names = u.names.filter fun n => (value n).isNone := by
  rw [remaining, Assignment.names, Assignment.names, List.filter_map]
  rfl

theorem remaining_eq_self (h : ∀ n ∈ u.names, value n = none) : remaining value u = u :=
  List.filter_eq_self.2 fun b hb => by rw [h _ (List.mem_map_of_mem hb)]; rfl

theorem Agrees.of_isNone (h : ∀ n ∈ u.names, value n = none) : Agrees value u := fun b hb v hv => by
  rw [h _ (List.mem_map_of_mem hb)] at hv
  cases hv

theorem Agrees.eq_some (h : Agrees value u) (hsome : ∀ n ∈ u.names, value n ≠ none) :
    ∀ b ∈ u, value b.name = some b.value := by
  intro b hb
  obtain ⟨v, hv⟩ := Option.ne_none_iff_exists'.1 (hsome _ (List.mem_map_of_mem hb))
  rw [hv, h b hb v hv]

/-- A component with its values bound is filled by the text that it has with them. -/
theorem fills_bind_of_ne_none (h : Fills c [k] u [t]) (hagree : Agrees value u)
    (hsome : ∀ n ∈ k.names, value n ≠ none) :
    (k.bind value).isOpen = false ∧ (k.bind value).text = t := by
  have hclosed : (k.bind value).isOpen = false := by
    rw [Component.isOpen_eq_false_iff, Component.names_bind, List.filter_eq_nil_iff]
    simpa using hsome
  have htexts := h.eq_map_fill (hagree.eq_some (h.names_singleton ▸ hsome))
  rw [List.map_singleton, ← Component.text_bind] at htexts
  exact ⟨hclosed, (List.cons.inj htexts).1.symm⟩

theorem Fills.bind_singleton (h : Fills c [k] u [t]) (hagree : Agrees value u) :
    Fills c [k.bind value] (remaining value u) [t] := by
  have hnames : (remaining value u).names = (k.bind value).names := by
    rw [names_remaining, h.names_singleton, Component.names_bind]
  cases hopen : (k.bind value).isOpen with
  | false =>
    have hsome : ∀ n ∈ k.names, value n ≠ none := by
      rw [Component.isOpen_eq_false_iff, Component.names_bind, List.filter_eq_nil_iff] at hopen
      simpa using hopen
    rw [Component.isOpen_eq_false_iff.1 hopen] at hnames
    exact (fills_singleton_of_closed hopen).2
      ⟨List.map_eq_nil_iff.1 hnames, (fills_bind_of_ne_none h hagree hsome).2.symm⟩
  | true =>
    cases h with
    | literal closed _ =>
      rw [Component.bind_of_closed closed] at hopen
      simp [closed] at hopen
    | entry isOpen name fits rest =>
      cases rest
      rw [List.append_nil] at hagree ⊢
      obtain ⟨kept, hmatch, allowed⟩ := bindingsFor_eq_some.1 fits
      rw [← List.append_nil (remaining ..)]
      exact .entry hopen name (bindingsFor_eq_some.2 ⟨kept, Component.matchEntry_bind hmatch hagree,
        fun b hb => allowed b (List.mem_filter.1 hb).1⟩) .nil

/-- To bind some of the values leaves the texts as they are, and the other values with them. -/
theorem Fills.bind (h : Fills c ks u ts) (hagree : Agrees value u) :
    Fills c (ks.map (Component.bind value)) (remaining value u) ts := by
  induction ks generalizing u ts with
  | nil =>
    cases h
    exact .nil
  | cons k ks ih =>
    obtain ⟨b, t, u', ts', hone, hrest, rfl, rfl⟩ := fills_cons_iff.1 h
    obtain ⟨hb, hu'⟩ := List.forall_mem_append.1 hagree
    exact fills_cons_iff.2
      ⟨_, _, _, _, hone.bind_singleton hb, ih hrest hu', remaining_append .., rfl⟩

theorem forall_eq_none_or_forall_ne_none {names : List Text} (h : names.length ≤ 1)
    (value : Text → Option Text) : (∀ n ∈ names, value n = none) ∨ ∀ n ∈ names, value n ≠ none := by
  match names, h with
  | [], _ => exact .inl (by simp)
  | [n], _ => cases hv : value n <;> simp [hv]

theorem Fills.unbind_singleton (h : Fills c [k.bind value] w [t]) (hsingle : k.names.length ≤ 1)
    (h' : Fills c [k] u' [t']) (hagree : Agrees value u') :
    ∃ u, Fills c [k] u [t] ∧ Agrees value u ∧ w = remaining value u := by
  -- With one argument at most, the component is bound either as a whole or not at all.
  rcases forall_eq_none_or_forall_ne_none hsingle value with hnone | hsome
  · rw [Component.bind_eq_self hnone] at h
    rw [← h.names_singleton] at hnone
    exact ⟨w, h, .of_isNone hnone, (remaining_eq_self hnone).symm⟩
  · obtain ⟨hclosed, rfl⟩ := fills_bind_of_ne_none h' hagree hsome
    obtain ⟨rfl, rfl⟩ := (fills_singleton_of_closed hclosed).1 h
    have hbind := h'.bind_singleton hagree
    exact ⟨u', h', hagree, ((fills_singleton_of_closed hclosed).1 hbind).1.symm⟩

/-- Where components have one open argument at most, the values that are bound tell which texts they
come from. -/
theorem Fills.unbind (h : Fills c (ks.map (Component.bind value)) w ts)
    (hsingle : ∀ k ∈ ks, k.names.length ≤ 1) (h' : Fills c ks u' ts') (hagree : Agrees value u') :
    ∃ u, Fills c ks u ts ∧ Agrees value u ∧ w = remaining value u := by
  induction ks generalizing w ts u' ts' with
  | nil =>
    cases h
    exact ⟨[], .nil, by simp [Agrees], rfl⟩
  | cons k ks ih =>
    obtain ⟨hk, hks⟩ := List.forall_mem_cons.1 hsingle
    obtain ⟨b, t, w, ts, hone, hrest, rfl, rfl⟩ := fills_cons_iff.1 h
    obtain ⟨b', t', u', ts', hone', hrest', rfl, rfl⟩ := fills_cons_iff.1 h'
    obtain ⟨hb', hu'⟩ := List.forall_mem_append.1 hagree
    obtain ⟨b, hb, hagreeb, rfl⟩ := hone.unbind_singleton hk hone' hb'
    obtain ⟨u, hu, hagreeu, rfl⟩ := ih hrest hks hrest' hu'
    exact ⟨b ++ u, fills_cons_iff.2 ⟨b, t, u, ts, hb, hu, rfl, rfl⟩,
      List.forall_mem_append.2 ⟨hagreeb, hagreeu⟩, (remaining_append ..).symm⟩

theorem Fills.of_bindingsFor_eq (h : Fills c ks u ts)
    (hsame : ∀ k e, d.bindingsFor k e = c.bindingsFor k e) : Fills d ks u ts := by
  induction h with
  | nil => exact .nil
  | literal closed rest ih => exact .literal closed ih
  | entry isOpen name fits rest ih => exact .entry isOpen name ((hsame _ _).trans fits) ih

/-- What is bound has no say in which entries fit. -/
theorem fills_bindAll_iff {bound : Assignment} :
    Fills (c.bindAll bound) ks u ts ↔ Fills c ks u ts :=
  ⟨fun h => h.of_bindingsFor_eq fun _ _ => rfl, fun h => h.of_bindingsFor_eq fun _ _ => rfl⟩

/-- More components are in front of the first open one when more is bound. -/
theorem length_front_le {bound : Assignment} (hopens : c.Opens bound)
    (hslash : ∀ b ∈ bound, '/' ∉ b.value) : c.front.length ≤ (c.bindAll bound).front.length := by
  rw [front, front, components_bindAll hopens hslash]
  induction c.components with
  | nil => exact Nat.le_refl _
  | cons k ks ih =>
    rw [List.map_cons, List.takeWhile_cons]
    split
    · next hk =>
      have hclosed : k.isOpen = false := by simpa using hk
      rw [List.takeWhile_cons_of_pos (by simp [Component.isOpen_bind_of_closed hclosed])]
      exact Nat.succ_le_succ ih
    · exact Nat.zero_le _

/-- The walk that pushes more texts writes the shorter path. -/
theorem length_reached_le (h : Fills c c.components u ts) (h' : Fills d d.components w ts)
    (hback : c.back ≠ []) (hfront : c.front.length ≤ d.front.length) :
    (c.reached ts).utf8Length ≤ (d.reached ts).utf8Length := by
  obtain ⟨ts₁, e₁, h₁, hc⟩ := exists_reached_eq h
  obtain ⟨ts₂, e₂, h₂, hd⟩ := exists_reached_eq h'
  -- Both walks are over the same texts. What is in front for the second one only, the first one
  -- pushes text by text.
  obtain ⟨mid, hmid⟩ : c.front.map Component.text <+: d.front.map Component.text :=
    List.prefix_of_prefix_length_le ⟨ts₁, e₁.symm⟩ ⟨ts₂, e₂.symm⟩ (by simpa using hfront)
  obtain rfl : ts₁ = mid ++ ts₂ := by
    rw [e₁, ← hmid, List.append_assoc] at e₂
    exact List.append_cancel_left e₂
  have hslash : ∀ t ∈ mid, '/' ∉ t := fun t ht =>
    slashless_front (c := d) t (hmid ▸ List.mem_append_right _ ht)
  have hhead : mid.head? ≠ some [] := by
    have hne := h₁.head?_back_ne
    cases mid with
    | nil => simp
    | cons t mid => simpa using hne
  have hfollows : Path.Follows (mid.foldl Path.push c.split.1) (d.front.map Component.text) := by
    rw [← hmid]
    exact (follows_split hback).foldl_push hslash (.inr hhead)
  rw [hc, hd, List.foldl_append]
  by_cases hdback : d.back = []
  · rw [hdback] at h₂
    cases h₂
    have hjoin := h.join_ne_nil_of_back_ne_nil hback
    rw [List.append_nil] at e₂
    rw [e₂] at hjoin
    have hlength := hfollows.length
    rw [Path.ofPieces_eq_join hjoin, front_of_back_eq_nil hdback] at hlength
    rwa [split_of_back_eq_nil hdback]
  · have hlength := hfollows.length
    rw [← split_of_back_ne_nil hdback] at hlength
    exact hfollows.length_foldl_push_le (follows_split hdback) (h₂.no_slash unslashed_back)
      (.inr h₂.head?_back_ne) hlength

theorem reads_singleton_iff {a : Text} {row : Assignment} (ha : a ∈ c.openNames) :
    c.Reads u [a] row ↔ ∃ v, u.get? a = some v ∧ row = [⟨a, v⟩] := by
  have hvalue := get?_of_mem_openNames ha
  constructor
  · rintro ⟨hnames, hall⟩
    obtain ⟨b, rfl, rfl⟩ := List.map_eq_singleton_iff.1 hnames
    have hb := hall b (List.mem_singleton_self b)
    rw [hvalue, Option.or_none] at hb
    exact ⟨b.value, hb, rfl⟩
  · rintro ⟨v, hv, rfl⟩
    refine ⟨rfl, List.forall_mem_singleton.2 ?_⟩
    rw [hv]
    rfl

/-- The values of an open argument are those that it has in some completion. -/
theorem mem_list_iff (fs : FileSystem) {a : Text} (hexists : c.checkExists = true)
    (ha : a ∈ c.openNames) (hcolon : ':' ∉ a) : ∃ values, c.list fs a = .ok values ∧
      ∀ v, v ∈ values ↔ ∃ u ∈ c.unfoldValues fs, u.get? a = some v := by
  have hfilter : [a].filter (fun n => !c.values.contains n) = [a] := by
    simp [(mem_openNames.1 ha).2]
  have hmem (row : Assignment) : row ∈ c.selectAll (c.completions fs (.targets [a])) [a] ↔
      ∃ u ∈ c.unfoldValues fs, c.Reads u [a] row := by
    have hall : row ∈ c.selectAll (c.completions fs (.targets ([a].filter fun n =>
        !c.values.contains n))) [a] ↔ _ := mem_selectAll_targets (.refl c) hexists
    rwa [hfilter] at hall
  have hlist : c.list fs a = .ok ((c.selectAll (c.completions fs (.targets [a])) [a]).filterMap
      fun t => t.values.head?) := by
    rw [list, listValues, find_openName ha hcolon]
    rfl
  refine ⟨_, hlist, fun v => ?_⟩
  rw [List.mem_filterMap]
  constructor
  · rintro ⟨row, hrow, hv⟩
    obtain ⟨u, hu, hreads⟩ := (hmem row).1 hrow
    obtain ⟨w, hw, rfl⟩ := (reads_singleton_iff ha).1 hreads
    cases hv
    exact ⟨u, hu, hw⟩
  · rintro ⟨u, hu, hv⟩
    exact ⟨[⟨a, v⟩], (hmem _).2 ⟨u, hu, (reads_singleton_iff ha).2 ⟨v, hv, rfl⟩⟩, rfl⟩

theorem Agrees.no_slash {bound : Assignment} (hagree : Agrees bound.get? u)
    (hopens : c.Opens bound) (hfills : Fills c c.components u ts) : ∀ b ∈ bound, '/' ∉ b.value := by
  intro b hb
  have hmem : b.name ∈ u.names := by
    rw [hfills.names_eq, flatMap_names_components]
    exact hopens.isOpen b hb
  obtain ⟨b', hb', hname⟩ := List.mem_map.1 hmem
  have hvalue := hopens.get?_of_mem b hb
  rw [← hname] at hvalue
  rw [hagree b' hb' _ hvalue]
  exact (hfills.of_mem b' hb').2.1

/-- The rest of a completion is a completion once the other values are bound, unless the path is too
long. -/
theorem remaining_mem_unfoldValues {bound : Assignment} (hexists : c.checkExists = true)
    (hopens : c.Opens bound) (hu : u ∈ c.unfoldValues fs) (hagree : Agrees bound.get? u)
    (hlength : (c.bindAll u).path.utf8Length ≤ maxPathBytes) :
    remaining bound.get? u ∈ (c.bindAll bound).unfoldValues fs := by
  obtain ⟨ts, hts, hthere⟩ := (mem_unfoldValues_iff_fills hexists).1 hu
  have hbind :
      Fills (c.bindAll bound) (c.bindAll bound).components (remaining bound.get? u) ts := by
    rw [components_bindAll hopens (hagree.no_slash hopens hts)]
    exact fills_bindAll_iff.2 (hts.bind hagree)
  rw [hts.path_eq] at hlength
  exact (mem_unfoldValues_iff_fills (c := c.bindAll bound) hexists).2
    ⟨ts, hbind, hbind.pathExists_reached ((hts.pathExists_join_iff hthere).2 hlength)⟩

/-- Where components have one open argument at most, every completion comes from one that has the
bound values too, if any has. -/
theorem exists_remaining_eq {bound : Assignment} (hexists : c.checkExists = true)
    (hsingle : ∀ k ∈ c.components, k.names.length ≤ 1) (hopens : c.Opens bound)
    (hback : c.back ≠ []) (hu' : u' ∈ c.unfoldValues fs) (hagree : Agrees bound.get? u')
    (hw : w ∈ (c.bindAll bound).unfoldValues fs) :
    ∃ u ∈ c.unfoldValues fs, Agrees bound.get? u ∧ w = remaining bound.get? u := by
  obtain ⟨ts', hts', _⟩ := (mem_unfoldValues_iff_fills hexists).1 hu'
  obtain ⟨ts, hts, hthere⟩ := (mem_unfoldValues_iff_fills (c := c.bindAll bound) hexists).1 hw
  have hslash := hagree.no_slash hopens hts'
  have hbind := fills_bindAll_iff.1 hts
  rw [components_bindAll hopens hslash] at hbind
  obtain ⟨u, hu, hagreeu, rfl⟩ := hbind.unbind hsingle hts' hagree
  have hjoin := hu.join_ne_nil_of_back_ne_nil hback
  have hlength := length_reached_le hu hts hback (length_front_le hopens hslash)
  refine ⟨u, (mem_unfoldValues_iff_fills hexists).2 ⟨ts, hu, ?_⟩, hagreeu, rfl⟩
  exact FileSystem.pathExists_of_follows (follows_reached hu hjoin) (follows_reached hts hjoin)
    hu.components_ne_nil (Nat.le_trans hlength) hthere

theorem back_ne_nil_of_mem_openNames {a : Text} (ha : a ∈ c.openNames) : c.back ≠ [] := by
  intro hback
  rw [← flatMap_names_components] at ha
  obtain ⟨k, hk, hak⟩ := List.mem_flatMap.1 ha
  rw [Component.isOpen_eq_false_iff.1 (back_eq_nil_iff.1 hback k hk)] at hak
  cases hak

section

variable {a v : Text} {chosen : Text → Bool}

theorem Opens.filter (h : c.Opens u) (chosen : Text → Bool) :
    c.Opens (u.filter fun b => chosen b.name) :=
  ⟨h.nodup.sublist (List.filter_sublist.map _), fun b hb => h.isOpen b (List.mem_filter.1 hb).1⟩

theorem agrees_filter (h : c.Opens u) :
    Agrees (Assignment.get? (u.filter fun b => chosen b.name)) u := by
  intro b hb v hv
  rw [Assignment.get?_filter, h.get?_of_mem b hb] at hv
  obtain ⟨_, hv⟩ := Option.ite_none_right_eq_some.1 hv
  exact (Option.some.inj hv).symm

theorem remaining_filter (h : c.Opens u) :
    remaining (Assignment.get? (u.filter fun b => chosen b.name)) u =
      u.filter fun b => !chosen b.name := by
  refine List.filter_congr fun b hb => ?_
  rw [Assignment.get?_filter, h.get?_of_mem b hb]
  cases chosen b.name <;> rfl

theorem get?_singleton (a v n : Text) :
    Assignment.get? [⟨a, v⟩] n = if a = n then some v else none := Assignment.get?_cons ..

theorem agrees_singleton_iff (h : c.Opens u) (ha : a ∈ u.names) :
    Agrees (Assignment.get? [⟨a, v⟩]) u ↔ u.get? a = some v := by
  constructor
  · intro hagree
    obtain ⟨b, hb, rfl⟩ := List.mem_map.1 ha
    rw [h.get?_of_mem b hb, hagree b hb v (by rw [get?_singleton, if_pos rfl])]
  · intro hv b hb w hw
    rw [get?_singleton] at hw
    obtain ⟨hname, hvw⟩ := Option.ite_none_right_eq_some.1 hw
    rw [hname, h.get?_of_mem b hb] at hv
    exact (Option.some.inj hvw).symm.trans (Option.some.inj hv).symm

theorem remaining_singleton (a v : Text) (u : Assignment) :
    remaining (Assignment.get? [⟨a, v⟩]) u = u.filter fun b => b.name ≠ a := by
  refine List.filter_congr fun b _ => ?_
  rw [get?_singleton]
  by_cases hb : a = b.name <;> simp [hb, eq_comm]

end

/-- Where paths have to be there, binding any part of a completion leaves the rest of it to be
listed, unless its path is too long. If no component has more than one open argument, binding a
listed value of one argument leaves just the completions with that value, those with too long a path
perhaps left out. -/
theorem unfoldValues_replace (fs : FileSystem) (hexists : c.checkExists = true) :
    (∀ u ∈ c.unfoldValues fs, ∀ chosen : Text → Bool, ∃ d e,
      c.replace (u.filter fun b => chosen b.name) = .ok d ∧ c.replace u = .ok e ∧
      (e.path.utf8Length ≤ maxPathBytes →
        (u.filter fun b => !chosen b.name) ∈ d.unfoldValues fs)) ∧
    ((∀ k ∈ c.components, k.names.length ≤ 1) → ∀ a ∈ c.openNames, ':' ∉ a →
      ∃ values, c.list fs a = .ok values ∧ ∀ v ∈ values, ∃ d, c.replace [⟨a, v⟩] = .ok d ∧
        (∀ w ∈ d.unfoldValues fs, ∃ u ∈ c.unfoldValues fs,
          u.get? a = some v ∧ w = u.filter fun b => b.name ≠ a) ∧
        ∀ u ∈ c.unfoldValues fs, u.get? a = some v → ∃ e, c.replace u = .ok e ∧
          (e.path.utf8Length ≤ maxPathBytes →
            (u.filter fun b => b.name ≠ a) ∈ d.unfoldValues fs)) := by
  constructor
  · intro u hu chosen
    have hopens := opens_of_mem_unfoldValues hu
    refine ⟨_, _, (hopens.filter chosen).replace, hopens.replace, fun hlength => ?_⟩
    rw [← remaining_filter hopens]
    exact remaining_mem_unfoldValues hexists (hopens.filter chosen) hu (agrees_filter hopens)
      hlength
  · intro hsingle a ha hcolon
    obtain ⟨values, hvalues, hmem⟩ := mem_list_iff fs hexists ha hcolon
    refine ⟨values, hvalues, fun v hv => ?_⟩
    have hopens : c.Opens [⟨a, v⟩] :=
      ⟨by simp [Assignment.names], List.forall_mem_singleton.2 ha⟩
    have hagree {u : Assignment} (hu : u ∈ c.unfoldValues fs) :
        Agrees (Assignment.get? [⟨a, v⟩]) u ↔ u.get? a = some v :=
      agrees_singleton_iff (opens_of_mem_unfoldValues hu) (names_of_mem_unfoldValues hu ▸ ha)
    refine ⟨_, hopens.replace, fun w hw => ?_, fun u hu hua => ?_⟩
    · obtain ⟨u', hu', hv'⟩ := (hmem v).1 hv
      obtain ⟨u, hu, hagreeu, rfl⟩ := exists_remaining_eq hexists hsingle hopens
        (back_ne_nil_of_mem_openNames ha) hu' ((hagree hu').2 hv') hw
      exact ⟨u, hu, (hagree hu).1 hagreeu, remaining_singleton a v u⟩
    · refine ⟨_, (opens_of_mem_unfoldValues hu).replace, fun hlength => ?_⟩
      rw [← remaining_singleton a v]
      exact remaining_mem_unfoldValues hexists hopens hu ((hagree hu).2 hua) hlength

theorem unfoldValues_replace_gap : ['x'] ∈ (gap 0).openNames ∧
    ∃ d, (gap 0).replace [⟨['x'], ['s']⟩] = .ok d ∧
      [⟨['y'], ['f']⟩] ∈ d.unfoldValues gapFiles ∧
      ∀ w ∈ d.unfoldValues gapFiles, ∃ u ∈ (gap 0).unfoldValues gapFiles,
        u.get? ['x'] = some ['s'] ∧ w = u.filter fun b => b.name ≠ ['x'] := by
  obtain ⟨hpart, hsingle⟩ := unfoldValues_replace gapFiles (c := gap 0) rfl
  have hmem := mem_unfoldValues_gap 0
  have hx : ['x'] ∈ (gap 0).openNames := by decide
  have hcolon : ':' ∉ ['x'] := by decide
  obtain ⟨d, e, hd, he, hrest⟩ := hpart gapValues hmem fun n => n = ['x']
  obtain ⟨values, hvalues, hall⟩ := hsingle (by rw [components_gap]; decide) ['x'] hx hcolon
  obtain ⟨values', hvalues', hlisted⟩ := mem_list_iff gapFiles (c := gap 0) rfl hx hcolon
  cases hvalues.symm.trans hvalues'
  obtain ⟨d', hd', hback, _⟩ := hall ['s'] ((hlisted ['s']).2 ⟨gapValues, hmem, rfl⟩)
  have hsame : d = d' := Except.ok.inj (hd.symm.trans hd')
  refine ⟨hx, d, hd, hrest ?_, fun w hw => hback w (hsame ▸ hw)⟩
  cases he
  decide

/-- A folder whose path is too long is not looked at. -/
theorem unfoldValues_eq_nil_of_long (hback : c.back ≠ [])
    (h : maxPathBytes < c.split.1.utf8Length) : c.unfoldValues fs = [] := by
  refine List.eq_nil_iff_forall_not_mem.2 fun u hu => ?_
  obtain ⟨stop, hdescends, _⟩ := mem_unfoldValues.1 hu
  obtain ⟨k, ks, hk⟩ := List.exists_cons_of_ne_nil hback
  have hd : Descends fs c False c.split.1 (k :: ks) u stop := hk ▸ hdescends
  obtain ⟨e, he, _⟩ := (descends_open (isOpen_of_back_eq_cons hk)).1 hd
  obtain ⟨⟨loc, _, hresolve, _⟩, _⟩ := FileSystem.mem_list.1 he
  have hne : c.split.1 ≠ [] := fun e => by
    rw [e] at h
    exact Nat.not_lt_zero _ h
  rw [FileSystem.listedPath, if_neg hne] at hresolve
  exact FileSystem.resolve_of_long h hresolve

/-- The slashes behind a value that is bound are all written. -/
theorem unfoldValues_bindAll_gap {n : Nat} {v : Text} (hslash : '/' ∉ v)
    (hlong : maxPathBytes < n) : ((gap n).bindAll [⟨['x'], v⟩]).unfoldValues gapFiles = [] := by
  have hopens : (gap n).Opens [⟨['x'], v⟩] :=
    ⟨by simp [Assignment.names], List.forall_mem_singleton.2 (List.mem_cons_self ..)⟩
  have hcomponents : ((gap n).bindAll [⟨['x'], v⟩]).components =
      (v.map .char :: List.replicate n []) ++ [[.argument ⟨['y'], none, ⟨n + 4, n + 7⟩⟩]] := by
    rw [components_bindAll hopens (List.forall_mem_singleton.2 hslash), components_gap]
    simp [Component.bind_cons, Atom.bind, get?_singleton]
  have hclosed : ∀ k ∈ (v.map .char :: List.replicate n [] : List Component),
      (!k.isOpen) = true := by
    refine List.forall_mem_cons.2 ⟨by simp [Component.isOpen], fun k hk => ?_⟩
    rw [List.eq_of_mem_replicate hk]
    rfl
  have hback : ((gap n).bindAll [⟨['x'], v⟩]).back ≠ [] := by
    rw [back, hcomponents, List.dropWhile_append_of_pos hclosed]
    exact List.cons_ne_nil _ _
  have hfront : ((gap n).bindAll [⟨['x'], v⟩]).front.map Component.text =
      v :: List.replicate n [] := by
    have hlast : [[Atom.argument ⟨['y'], none, ⟨n + 4, n + 7⟩⟩]].takeWhile
        (fun k => !Component.isOpen k) = [] := rfl
    rw [front, hcomponents, List.takeWhile_append_of_pos hclosed, hlast, List.append_nil,
      List.map_cons, List.map_replicate, ← Component.fill_none, Component.fill_map_char]
    rfl
  refine unfoldValues_eq_nil_of_long hback ?_
  have hlength := Path.length_join_le (v :: List.replicate n [])
  rw [Text.join_cons_replicate, Text.utf8Length_append, Text.utf8Length_replicate] at hlength
  have hone : (String.utf8EncodeChar '/').length = 1 := rfl
  rw [hone] at hlength
  rw [split_of_back_ne_nil hback, hfront]
  omega

theorem pathExists_bindAll_gap {n : Nat} {v : Text} (hslash : '/' ∉ v) (hlong : maxPathBytes < n) :
    ((gap n).bindAll [⟨['x'], v⟩]).pathExists gapFiles = false := by
  have hopen : ((gap n).bindAll [⟨['x'], v⟩]).hasOpenNames = true := rfl
  have hnone : (((gap n).bindAll [⟨['x'], v⟩]).withCheckExists true).unfoldValues gapFiles = [] :=
    unfoldValues_bindAll_gap hslash hlong
  rw [pathExists, if_pos hopen, hnone]
  rfl

/-- With 4097 slashes the file is found, but no longer once the folder is bound. -/
theorem exists_lost_completion_gap : (gap 4096).checkExists = true ∧
    ['x'] ∈ (gap 4096).openNames ∧ ∃ u ∈ (gap 4096).unfoldValues gapFiles, ∃ d,
      (gap 4096).replace (u.filter fun b => b.name = ['x']) = .ok d ∧
        (u.filter fun b => b.name ≠ ['x']) ∉ d.unfoldValues gapFiles := by
  refine ⟨rfl, by decide, gapValues, mem_unfoldValues_gap 4096,
    (gap 4096).bindAll [⟨['x'], ['s']⟩], rfl, ?_⟩
  rw [unfoldValues_bindAll_gap (by decide) (by decide)]
  exact List.not_mem_nil

end Crumb

end PathTemplates
