import Mathlib.Data.List.Flatten
import PathTemplates.Proofs.Listing.Compilation
import PathTemplates.Proofs.Listing.Filling

namespace PathTemplates

namespace Crumb

open FileSystem (maxPathBytes)

variable {fs : FileSystem} {c d : Crumb} {u u' w : Assignment} {ts ts' : List Text}

theorem opens_of_names_eq (h : u.names = c.openNames) : c.Opens u where
  nodup := by
    rw [h]
    exact c.distinct.filter _
  isOpen _ hb := h ▸ List.mem_map_of_mem hb

theorem Fills.opens (h : Fills c c.components u ts) : c.Opens u :=
  opens_of_names_eq (h.names_eq.trans c.flatMap_names_components)

theorem Opens.get?_of_mem (h : c.Opens u) : ∀ b ∈ u, u.get? b.name = some b.value := fun _ =>
  Assignment.get?_of_mem h.nodup

/-- The path of the crumb that the values give is what their texts come to when they are joined. -/
theorem Fills.path_eq (h : Fills c c.components u ts) :
    (c.bindAll u).path = Text.join ['/'] ts := by
  rw [path_bindAll h.opens, h.eq_map_fill h.opens.get?_of_mem]

theorem Fills.components_ne_nil (h : Fills c c.components u ts) : ts ≠ [] := by
  have hne : c.components ≠ [] := Text.splitBy_ne_nil _ _
  rw [h.eq_map_fill h.opens.get?_of_mem]
  simpa using hne

theorem Fills.join_ne_nil_of_back_ne_nil (h : Fills c c.components u ts) (hback : c.back ≠ []) :
    Text.join ['/'] ts ≠ [] := by
  obtain ⟨k, ks, hk⟩ := List.exists_cons_of_ne_nil hback
  have hopen : c.components.any Component.isOpen = true := List.any_eq_true.2
    ⟨k, mem_components_of_mem_back (hk ▸ List.mem_cons_self ..), isOpen_of_back_eq_cons hk⟩
  rw [ne_eq, Path.join_eq_nil_iff, not_or]
  exact ⟨h.components_ne_nil, h.ne_singleton_nil hopen⟩

/-- Nothing that is there has an empty path. -/
theorem Fills.join_ne_nil (h : Fills c c.components u ts)
    (hthere : fs.pathExists (c.reached ts) = true) : Text.join ['/'] ts ≠ [] := by
  by_cases hback : c.back = []
  · obtain ⟨ts', e, h', hreached⟩ := exists_reached_eq h
    rw [hback] at h'
    cases h'
    rw [hreached, List.foldl_nil, split_of_back_eq_nil hback, ← front_of_back_eq_nil hback,
      ← List.append_nil (List.map _ _), ← e] at hthere
    exact FileSystem.ne_nil_of_pathExists hthere
  · exact h.join_ne_nil_of_back_ne_nil hback

/-- What a walk has come to is there by the path of the template too, unless that is too long. -/
theorem Fills.pathExists_join_iff (h : Fills c c.components u ts)
    (hthere : fs.pathExists (c.reached ts) = true) :
    fs.pathExists (Text.join ['/'] ts) = true ↔
      (Text.join ['/'] ts).utf8Length ≤ maxPathBytes := by
  have hjoin := h.join_ne_nil hthere
  exact FileSystem.pathExists_join_iff (follows_reached h hjoin) (h.no_slash unslashed_components)
    hjoin hthere

theorem hasOpenNames_bindAll (h : c.Opens u) (hall : c.openNames ⊆ u.names) :
    (c.bindAll u).hasOpenNames = false := by
  have hnone : (c.bindAll u).openNames = [] := by
    rw [openNames_bindAll h, List.filter_eq_nil_iff]
    intro n hn
    simp [Assignment.get?_eq_none_iff, hall hn]
  simp [hasOpenNames, hnone]

theorem pathExists_of_not_hasOpenNames (h : d.hasOpenNames = false) :
    d.pathExists fs = fs.pathExists d.path := by
  simp [pathExists, h]

/-- Values for all open arguments make a crumb that exists if the path with them in it does. -/
theorem pathExists_replace_iff (h : c.Opens u) (hall : c.openNames ⊆ u.names) :
    (∃ d, c.replace u = .ok d ∧ d.pathExists fs = true) ↔
      fs.pathExists (Text.join ['/'] (c.components.map (Component.fill u.get?))) = true := by
  rw [← path_bindAll h, ← pathExists_of_not_hasOpenNames (hasOpenNames_bindAll h hall), h.replace]
  exact ⟨fun ⟨_, hd, hthere⟩ => Except.ok.inj hd ▸ hthere, fun hthere => ⟨_, rfl, hthere⟩⟩

theorem replaceEach_eq {us : List Assignment} (h : ∀ u ∈ us, c.Opens u) :
    c.replaceEach us = .ok (us.map c.bindAll) := mapM_eq_ok fun u hu => (h u hu).replace

/-- Every listing is about open arguments, in the order of the template. -/
theorem names_of_mem_completions {extent : Extent} (h : u ∈ c.completions fs extent) :
    u.names.Sublist c.openNames := by
  cases hplan : Plan.make? c.components c.checkExists extent with
  | none =>
    obtain ⟨rfl, _⟩ := (mem_completions_of_none hplan).1 h
    exact List.nil_sublist _
  | some p =>
    obtain ⟨w, stop, hdescends, _, rfl⟩ := (mem_completions hplan).1 h
    obtain ⟨hcomponents, _⟩ := Plan.make?_eq_some hplan
    have hahead : (p.ahead (p.nextOpen 0)).Sublist c.components :=
      hcomponents ▸ (List.drop_sublist ..).trans (List.take_sublist ..)
    have htake : (Assignment.names (w.take p.kept)).Sublist w.names :=
      (List.take_sublist ..).map _
    rw [← flatMap_names_components]
    exact htake.trans (names_of_descends hdescends ▸ hahead.flatMap _)

theorem opens_of_mem_completions {extent : Extent} (h : u ∈ c.completions fs extent) :
    c.Opens u where
  nodup := (c.distinct.filter _).sublist (names_of_mem_completions h)
  isOpen _ hb := (names_of_mem_completions h).subset (List.mem_map_of_mem hb)

theorem opens_of_mem_unfoldValues (h : u ∈ c.unfoldValues fs) : c.Opens u :=
  opens_of_mem_completions h

theorem unfold_eq (fs : FileSystem) (c : Crumb) :
    c.unfold fs = .ok ((c.unfoldValues fs).map c.bindAll) := by
  rw [unfold_eq_replaceEach]
  exact replaceEach_eq fun u hu => opens_of_mem_unfoldValues hu

theorem unfoldPaths_eq (fs : FileSystem) (c : Crumb) :
    c.unfoldPaths fs = .ok ((c.unfoldValues fs).map fun u => (c.bindAll u).path) := by
  rw [unfoldPaths, unfold_eq]
  exact congrArg Except.ok (List.map_map ..)

/-- The path tells the texts between its slashes, and these tell the values. -/
theorem path_bindAll_injOn (hu : u ∈ c.unfoldValues fs) (hu' : u' ∈ c.unfoldValues fs)
    (h : (c.bindAll u).path = (c.bindAll u').path) : u = u' := by
  obtain ⟨ts, hts, _⟩ := (mem_unfoldValues.1 hu).fills
  obtain ⟨ts', hts', _⟩ := (mem_unfoldValues.1 hu').fills
  rw [hts.path_eq, hts'.path_eq] at h
  have e : ts = ts' := Text.join_inj hts.components_ne_nil hts'.components_ne_nil
    (hts.no_slash unslashed_components) (hts'.no_slash unslashed_components) h
  exact hts.unique (e ▸ hts')

theorem nodup_unfoldPaths (fs : FileSystem) (c : Crumb) :
    ((c.unfoldValues fs).map fun u => (c.bindAll u).path).Nodup := by
  refine List.pairwise_map.2 ((ascending_completions fs c .all).imp_of_mem fun hu hu' h e => ?_)
  rw [path_bindAll_injOn hu hu' e] at h
  exact List.lt_irrefl _ h

/-- Where paths have to be there, a completion has a value without slashes for each open argument,
one that fits its pattern. It makes a crumb without open arguments, which exists unless its path is
too long. In any case no two completions make crumbs with the same path. -/
theorem unfoldValues_sound (fs : FileSystem) (c : Crumb) :
    (c.checkExists = true → ∀ u ∈ c.unfoldValues fs, u.names = c.openNames ∧
      (∀ b ∈ u, b.value ≠ [] ∧ '/' ∉ b.value ∧ c.patterns.allows b.name b.value = true) ∧
      ∃ d, c.replace u = .ok d ∧ d.hasOpenNames = false ∧
        (d.pathExists fs = true ↔ d.path.utf8Length ≤ maxPathBytes)) ∧
    ∃ paths, c.unfoldPaths fs = .ok paths ∧ paths.Nodup := by
  refine ⟨fun hexists u hu => ?_, _, unfoldPaths_eq fs c, nodup_unfoldPaths fs c⟩
  obtain ⟨ts, hts, hthere⟩ := (mem_unfoldValues_iff_fills hexists).1 hu
  have hnames := names_of_completes (mem_unfoldValues.1 hu)
  have hclosed := hasOpenNames_bindAll hts.opens (hnames ▸ List.Subset.refl _)
  refine ⟨hnames, hts.of_mem, c.bindAll u, hts.opens.replace, hclosed, ?_⟩
  rw [pathExists_of_not_hasOpenNames hclosed, hts.path_eq]
  exact hts.pathExists_join_iff hthere

/-- `{x}` and `{y}` with `n + 1` slashes in between. -/
def gap (n : Nat) : Crumb where
  template := ⟨[.argument ⟨['x'], none, ⟨0, 3⟩⟩, .literal (List.replicate (n + 1) '/'),
    .argument ⟨['y'], none, ⟨n + 4, n + 7⟩⟩]⟩
  values := .empty
  patterns := .empty .glob
  ignore := .empty
  checkExists := true
  distinct := by
    show [['x'], ['y']].Nodup
    decide

/-- The file `s/f` in its folder. -/
def gapFiles : FileSystem where
  nodes := [([.text ['s']], .folder), ([.text ['f'], .text ['s']], .file)]
  current := []
  distinct := by decide
  named := by decide
  grounded := by decide

def gapValues : Assignment := [⟨['x'], ['s']⟩, ⟨['y'], ['f']⟩]

theorem components_gap (n : Nat) : (gap n).components =
    [.argument ⟨['x'], none, ⟨0, 3⟩⟩] ::
      (List.replicate n [] ++ [[.argument ⟨['y'], none, ⟨n + 4, n + 7⟩⟩]]) := by
  let x : Atom := .argument ⟨['x'], none, ⟨0, 3⟩⟩
  let y : Atom := .argument ⟨['y'], none, ⟨n + 4, n + 7⟩⟩
  have hslashes : Text.splitBy Atom.isSlash (List.replicate (n + 1) (.char '/') ++ [y]) =
      [] :: (List.replicate n [] ++ [[y]]) := Text.splitBy_replicate_append rfl (n + 1) [y]
  have hx : ∀ b ∈ [x], b.isSlash = false := List.forall_mem_singleton.2 rfl
  have hsplit := Text.splitBy_append hx hslashes
  simpa [components, Component.ofTemplate, gap, Segment.atoms, NameMap.get?_empty] using hsplit

/-- Further slashes are not written twice. -/
theorem foldl_push_gap (n : Nat) :
    Path.push ((List.replicate n []).foldl Path.push ['s']) ['f'] = ['s', '/', 'f'] := by
  have hslash (n : Nat) : (List.replicate n []).foldl Path.push ['s', '/'] = ['s', '/'] := by
    induction n with
    | zero => rfl
    | succ n ih => exact ih
  cases n with
  | zero => rfl
  | succ n =>
    rw [List.replicate_succ, List.foldl_cons, show Path.push ['s'] [] = ['s', '/'] from rfl, hslash]
    rfl

theorem reached_gap (n : Nat) (ts : List Text) :
    (gap n).reached ts = ts.foldl Path.push [] := by
  have hfront : (gap n).front = [] := by
    rw [front, components_gap]
    rfl
  have hback : (gap n).back ≠ [] := by
    rw [back, components_gap]
    exact List.cons_ne_nil _ _
  rw [reached, split_of_back_ne_nil hback, hfront]
  rfl

/-- The slashes do not keep the file from being found, however many they are. -/
theorem mem_unfoldValues_gap (n : Nat) : gapValues ∈ (gap n).unfoldValues gapFiles := by
  have hfills : Fills (gap n) (gap n).components gapValues
      (['s'] :: (List.replicate n [] ++ [['f']])) := by
    have hclosed : ∀ k ∈ List.replicate n ([] : Component), Component.isOpen k = false := by
      intro k hk
      rw [List.eq_of_mem_replicate hk]
      rfl
    have hs : FileName ['s'] := by decide
    have hf : FileName ['f'] := by decide
    have hlast : Fills (gap n) [[.argument ⟨['y'], none, ⟨n + 4, n + 7⟩⟩]]
        ([⟨['y'], ['f']⟩] ++ []) [['f']] := .entry rfl hf rfl .nil
    rw [components_gap]
    show Fills _ _ ([⟨['x'], ['s']⟩] ++ ([⟨['y'], ['f']⟩] ++ [])) _
    refine .entry rfl hs rfl ((fills_append_iff hclosed).2 ⟨_, ?_, hlast⟩)
    rw [List.map_replicate]
    rfl
  refine (mem_unfoldValues_iff_fills rfl).2 ⟨_, hfills, ?_⟩
  rw [reached_gap, List.foldl_cons, List.foldl_append]
  show gapFiles.pathExists (Path.push ((List.replicate n []).foldl Path.push ['s']) ['f']) = true
  rw [foldl_push_gap]
  rfl

theorem length_path_gap (n : Nat) : ((gap n).bindAll gapValues).path.utf8Length = n + 3 := by
  have hpath : ((gap n).bindAll gapValues).path =
      ['s'] ++ (List.replicate (n + 1) '/' ++ ['f']) := rfl
  have hone : (String.utf8EncodeChar '/').length = 1 := rfl
  have hs : Text.utf8Length ['s'] = 1 := rfl
  have hf : Text.utf8Length ['f'] = 1 := rfl
  rw [hpath, Text.utf8Length_append, Text.utf8Length_append, Text.utf8Length_replicate,
    hone]
  omega

theorem unfoldValues_sound_gap : gapValues ∈ (gap 0).unfoldValues gapFiles ∧
    ∃ d, (gap 0).replace gapValues = .ok d ∧ d.hasOpenNames = false ∧
      d.pathExists gapFiles = true := by
  obtain ⟨_, _, d, hd, hclosed, hexists⟩ :=
    (unfoldValues_sound gapFiles (gap 0)).1 rfl gapValues (mem_unfoldValues_gap 0)
  refine ⟨mem_unfoldValues_gap 0, d, hd, hclosed, hexists.2 ?_⟩
  cases hd
  decide

/-- With 4097 slashes the file is found, and the path that leads to it is too long to be asked
for. -/
theorem exists_missing_completion_gap : (gap 4096).checkExists = true ∧
    ∃ u ∈ (gap 4096).unfoldValues gapFiles, ∃ d, (gap 4096).replace u = .ok d ∧
      d.hasOpenNames = false ∧ d.pathExists gapFiles = false := by
  have hmem := mem_unfoldValues_gap 4096
  have hopens := opens_of_mem_unfoldValues hmem
  have hclosed := hasOpenNames_bindAll hopens (List.Subset.refl _)
  refine ⟨rfl, gapValues, hmem, _, hopens.replace, hclosed, ?_⟩
  rw [pathExists_of_not_hasOpenNames hclosed]
  refine FileSystem.pathExists_eq_false_of_long ?_
  rw [length_path_gap]
  decide

end Crumb

end PathTemplates
