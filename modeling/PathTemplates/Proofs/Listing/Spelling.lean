import PathTemplates.Proofs.Crumb.Shapes
import PathTemplates.Proofs.Listing.Soundness

namespace PathTemplates

namespace Crumb

open FileSystem (maxPathBytes)
open PathTemplates.Path (Follows)

variable {fs : FileSystem} {c d : Crumb} {more : Prop} {folder stop p q : Text}
  {ks ks' front after : List Component} {u w : Assignment} {ts pieces : List Text}

/-- A descent goes through a list of components part by part. -/
theorem descends_append_iff :
    Descends fs c more folder (ks ++ after) u stop ↔ ∃ t w mid,
      Descends fs c (more ∨ after.any Component.isOpen = true) folder ks t mid ∧
        Descends fs c more mid after w stop ∧ u = t ++ w := by
  induction ks generalizing folder u with
  | nil =>
    constructor
    · intro h
      exact ⟨[], u, folder, .stop, h, rfl⟩
    · intro ⟨t, w, mid, ht, hw, hu⟩
      cases ht
      rwa [hu]
  | cons k ks ih =>
    have hany : more ∨ (ks ++ after).any Component.isOpen = true ↔
        (more ∨ after.any Component.isOpen = true) ∨ ks.any Component.isOpen = true := by
      rw [List.any_append, Bool.or_eq_true, or_assoc, or_comm (a := ks.any _ = true)]
    constructor
    · intro h
      cases h with
      | literal closed rest =>
        obtain ⟨t, w, mid, ht, hw, hu⟩ := ih.1 rest
        exact ⟨t, w, mid, .literal closed ht, hw, hu⟩
      | @entry _ _ _ e bindings _ _ isOpen there inside kept fits allowed rest =>
        obtain ⟨t, w, mid, ht, hw, rfl⟩ := ih.1 rest
        exact ⟨bindings ++ t, w, mid,
          .entry isOpen there (fun h => inside (hany.2 h)) kept fits allowed ht, hw,
          (List.append_assoc ..).symm⟩
    · intro ⟨t, w, mid, ht, hw, hu⟩
      subst hu
      cases ht with
      | literal closed rest => exact .literal closed (ih.2 ⟨_, w, mid, rest, hw, rfl⟩)
      | entry isOpen there inside kept fits allowed rest =>
        rw [List.append_assoc]
        exact .entry isOpen there (fun h => inside (hany.1 h)) kept fits allowed
          (ih.2 ⟨_, w, mid, rest, hw, rfl⟩)

theorem exists_descends_of_closed (fs : FileSystem) (c : Crumb) (more : Prop) (folder : Text)
    (hks : ∀ k ∈ ks, k.isOpen = false) : ∃ stop, Descends fs c more folder ks [] stop := by
  have hall : Descends fs c more folder (ks ++ []) [] _ := (descends_literals hks).2 .stop
  rw [List.append_nil] at hall
  exact ⟨_, hall⟩

/-- What leads down for one crumb leads down for another one through components of the same shape,
if the other one does not ignore the entries on the way and takes the values. -/
theorem Descends.transfer (h : Descends fs c more folder ks u stop)
    (hshape : ks'.map (Component.relabel Placeholder.bare) =
      ks.map (Component.relabel Placeholder.bare))
    (hkept : ∀ k ∈ ks, k.isOpen = true → ∀ e bindings, k.matchEntry e = some bindings →
      (∀ b ∈ bindings, b ∈ u) → c.ignore.ignores e = false → d.ignore.ignores e = false)
    (hallowed : ∀ b ∈ u, c.patterns.allows b.name b.value = true →
      d.patterns.allows b.name b.value = true) :
    Descends fs d more folder ks' u stop := by
  induction h generalizing ks' with
  | stop =>
    cases List.map_eq_nil_iff.1 hshape
    exact .stop
  | @literal folder k ks u stop closed rest ih =>
    obtain ⟨k', ks', rfl, hk, hks⟩ := List.map_eq_cons_iff.1 hshape
    obtain rfl := Component.eq_of_relabel_eq Placeholder.name_bare hk.symm closed
    exact .literal closed (ih hks (List.forall_mem_cons.1 hkept).2 hallowed)
  | @entry folder k ks e bindings u stop isOpen there inside kept fits allowed rest ih =>
    obtain ⟨k', ks', rfl, hk, hks⟩ := List.map_eq_cons_iff.1 hshape
    obtain ⟨hkeptHere, hkeptBelow⟩ := List.forall_mem_cons.1 hkept
    obtain ⟨hallowedHere, hallowedBelow⟩ := List.forall_mem_append.1 hallowed
    have hopen : k'.isOpen = true := by
      rw [← Component.isOpen_relabel Placeholder.name_bare, hk,
        Component.isOpen_relabel Placeholder.name_bare, isOpen]
    have hany : ks'.any Component.isOpen = ks.any Component.isOpen := by
      have hshape := congrArg (List.any · Component.isOpen) hks
      simpa only [List.any_map, Function.comp_def,
        Component.isOpen_relabel Placeholder.name_bare] using hshape
    have hfits : k'.matchEntry e = some bindings := by
      rw [← Component.matchEntry_relabel Placeholder.name_bare, hk,
        Component.matchEntry_relabel Placeholder.name_bare, fits]
    have hnot : d.ignore.ignores e = false :=
      hkeptHere isOpen e bindings fits (fun b hb => List.mem_append_left u hb) kept
    refine .entry hopen there (hany ▸ inside) hnot hfits (fun b hb => ?_)
      (ih hks (fun l hl hopen' e' bindings' hl' hsub => ?_) hallowedBelow)
    · exact hallowedHere b hb (allowed b hb)
    · exact hkeptBelow l hl hopen' e' bindings' hl' fun b hb =>
        List.mem_append_right bindings (hsub b hb)

/-- Of the patterns those of the arguments that are passed count. -/
theorem Descends.of_allows (h : Descends fs c more folder ks u stop) (hignore : d.ignore = c.ignore)
    (hallows : ∀ n ∈ ks.flatMap Component.names, ∀ v,
      d.patterns.allows n v = c.patterns.allows n v) :
    Descends fs d more folder ks u stop := by
  refine h.transfer rfl (fun _ _ _ _ _ _ _ hkept => hignore ▸ hkept) fun b hb hallowed => ?_
  have hname : b.name ∈ u.names := List.mem_map_of_mem hb
  rw [names_of_descends h] at hname
  rw [hallows _ hname, hallowed]

theorem Descends.of_eq (h : Descends fs c more folder ks u stop) (hignore : d.ignore = c.ignore)
    (hpatterns : d.patterns = c.patterns) : Descends fs d more folder ks u stop :=
  h.of_allows hignore fun _ _ _ => by rw [hpatterns]

/-- What is bound has no say in where values lead. -/
theorem descends_bindAll_iff {bound : Assignment} :
    Descends fs (c.bindAll bound) more folder ks u stop ↔ Descends fs c more folder ks u stop :=
  ⟨fun h => h.of_eq rfl rfl, fun h => h.of_eq rfl rfl⟩

/-- The same texts lead down from another way to write the path, if that one is not longer or does
not get too long. -/
theorem Descends.respell (h : Descends fs c more q ks u stop) (hks : ∀ k ∈ ks, k.Unslashed)
    (hp : Follows p pieces) (hq : Follows q pieces) (hne : pieces ≠ []) :
    ∃ ts, Fills c ks u ts ∧ stop = ts.foldl Path.push q ∧
      (p.utf8Length ≤ q.utf8Length ∨ (ts.foldl Path.push p).utf8Length ≤ maxPathBytes →
        Descends fs c more p ks u (ts.foldl Path.push p)) := by
  induction h generalizing p pieces with
  | stop => exact ⟨[], .nil, rfl, fun _ => .stop⟩
  | literal closed rest ih =>
    obtain ⟨hk, hks⟩ := List.forall_mem_cons.1 hks
    have hslash := hk.text closed
    obtain ⟨ts, hts, hstop, hrest⟩ :=
      ih hks (hp.push hslash (.inl hne)) (hq.push hslash (.inl hne)) (by simp)
    refine ⟨_, .literal closed hts, hstop, fun hlength => .literal closed (hrest ?_)⟩
    exact hlength.imp_left (hp.length_push_le hq hslash)
  | @entry q k ks e bindings u stop isOpen there inside kept fits allowed rest ih =>
    obtain ⟨hk, hks⟩ := List.forall_mem_cons.1 hks
    have name := there.fileName
    obtain ⟨ts, hts, hstop, hrest⟩ :=
      ih hks (hp.push name.no_slash (.inl hne)) (hq.push name.no_slash (.inl hne)) (by simp)
    refine ⟨_, .entry isOpen name (bindingsFor_eq_some.2 ⟨kept, fits, allowed⟩) hts, hstop,
      fun hlength => ?_⟩
    -- Either bound holds for the paths on the way too: pushing keeps the shorter path shorter, and
    -- the path at the end is the longest one.
    have hpush : (Path.push p e).utf8Length ≤ (Path.push q e).utf8Length ∨
        (ts.foldl Path.push (Path.push p e)).utf8Length ≤ maxPathBytes :=
      hlength.imp_left (hp.length_push_le hq name.no_slash)
    have hfinal : (Path.push p e).utf8Length ≤
        (ts.foldl Path.push (Path.push p e)).utf8Length :=
      Path.length_le_foldl_push (hts.no_slash hks)
    have hshort : p.utf8Length ≤ (Path.push p e).utf8Length := by
      rw [Path.length_push name.no_slash]
      omega
    refine .entry isOpen (FileSystem.hasEntry_of_follows hp hq (fun hq => ?_) there)
      (fun h => FileSystem.hasFolder_of_follows hp hq name (fun hq => ?_) (inside h)) kept fits
      allowed (hrest hpush)
    · rcases hlength with hle | hle
      · exact Nat.le_trans hle hq
      · exact Nat.le_trans (Nat.le_trans hshort hfinal) hle
    · rcases hpush with hle | hle
      · exact Nat.le_trans hle hq
      · exact Nat.le_trans hfinal hle

section

variable (hcomponents : d.components = front ++ after) (hclosed : ∀ k ∈ front, k.isOpen = false)
include hcomponents hclosed

theorem front_of_closed_append : d.front = front ++ after.takeWhile fun k => !k.isOpen := by
  rw [Crumb.front, hcomponents, List.takeWhile_append_of_pos (by simpa using hclosed)]

theorem back_of_closed_append : d.back = after.dropWhile fun k => !k.isOpen := by
  rw [Crumb.back, hcomponents, List.dropWhile_append_of_pos (by simpa using hclosed)]

/-- The literal components behind the first ones lengthen the path. -/
theorem descends_after_iff (fs : FileSystem) (hpath : Follows p (front.map Component.text))
    (hne : front ≠ []) : ∃ p', Follows p' (d.front.map Component.text) ∧
      ∀ w stop, Descends fs d False p after w stop ↔ Descends fs d False p' d.back w stop := by
  have hliterals : ∀ k ∈ after.takeWhile fun k => !k.isOpen, k.isOpen = false :=
    fun k hk => by simpa using List.mem_takeWhile_imp hk
  have hslash : ∀ t ∈ (after.takeWhile fun k => !k.isOpen).map Component.text, '/' ∉ t := by
    refine List.forall_mem_map.2 fun k hk => ?_
    have hmem : k ∈ d.components :=
      hcomponents ▸ List.mem_append_right _ (List.takeWhile_subset _ hk)
    exact (unslashed_components k hmem).text (hliterals k hk)
  have hpush := hpath.foldl_push hslash (.inl (by simpa using hne))
  rw [← List.map_append, ← front_of_closed_append hcomponents hclosed] at hpush
  refine ⟨_, hpush, fun w stop => ?_⟩
  rw [back_of_closed_append hcomponents hclosed, List.foldl_map, ← descends_literals hliterals,
    List.takeWhile_append_dropWhile]

/-- What is listed can be walked to from behind the first literal components. -/
theorem exists_descends_of_completes
    (hpath : Follows p (front.map Component.text)) (hne : front ≠ []) (h : d.Completes fs w) :
    ∃ stop, Descends fs d False p after w stop ∧
      (d.checkExists = true → fs.pathExists stop = true) := by
  obtain ⟨p', hp', hiff⟩ := descends_after_iff hcomponents hclosed fs hpath hne
  obtain ⟨stop, hdescends, hexists⟩ := h
  have hdescends : Descends fs d False d.split.1 d.back w stop := hdescends
  have hfront : d.front.map Component.text ≠ [] := by
    simp [front_of_closed_append hcomponents hclosed, hne]
  by_cases hback : d.back = []
  · rw [hback, descends_nil] at hdescends
    obtain ⟨rfl, rfl⟩ := hdescends
    refine ⟨p', (hiff _ _).2 (hback ▸ .stop), fun hon => ?_⟩
    have hthere := hexists hon
    rw [split_of_back_eq_nil hback, ← front_of_back_eq_nil hback] at hthere
    exact FileSystem.pathExists_of_join hp' slashless_front hthere
  · have hq := follows_split hback
    have hlength := hp'.length
    rw [← split_of_back_ne_nil hback] at hlength
    obtain ⟨ts, hts, rfl, hrespell⟩ := hdescends.respell unslashed_back hp' hq hfront
    have hslash := hts.no_slash unslashed_back
    refine ⟨_, (hiff w _).2 (hrespell (.inl hlength)), fun hon => ?_⟩
    have hlength' := hp'.length_foldl_push_le hq hslash (.inl hfront) hlength
    exact FileSystem.pathExists_of_follows (hp'.foldl_push hslash (.inl hfront))
      (hq.foldl_push hslash (.inl hfront)) (by simp [hfront]) (Nat.le_trans hlength') (hexists hon)

/-- What can be walked to from behind the first literal components is listed, unless the path is too
long. -/
theorem completes_of_descends (hpath : Follows p (front.map Component.text)) (hne : front ≠ [])
    (h : Descends fs d False p after w stop)
    (hexists : d.checkExists = true → fs.pathExists stop = true)
    (hrendered : (d.bindAll w).path ≠ []) (hlength : (d.bindAll w).path.utf8Length ≤ maxPathBytes) :
    d.Completes fs w := by
  obtain ⟨p', hp', hiff⟩ := descends_after_iff hcomponents hclosed fs hpath hne
  have hdescends := (hiff w stop).1 h
  have hfront : d.front.map Component.text ≠ [] := by
    simp [front_of_closed_append hcomponents hclosed, hne]
  by_cases hback : d.back = []
  · rw [hback, descends_nil] at hdescends
    obtain ⟨rfl, rfl⟩ := hdescends
    have hjoin : (d.bindAll []).path = Text.join ['/'] (d.front.map Component.text) := by
      rw [front_of_back_eq_nil hback, ← path_eq_join]
      rfl
    rw [hjoin] at hrendered hlength
    have hstop : Descends fs d False d.split.1 d.back [] d.split.1 := hback ▸ .stop
    refine ⟨d.split.1, hstop, fun hon => ?_⟩
    rw [split_of_back_eq_nil hback, ← front_of_back_eq_nil hback]
    exact (FileSystem.pathExists_join_iff hp' slashless_front hrendered (hexists hon)).2 hlength
  · have hq := follows_split hback
    obtain ⟨ts, hts, rfl, hrespell⟩ := hdescends.respell unslashed_back hq hp' hfront
    have hslash := hts.no_slash unslashed_back
    have hend := hq.foldl_push hslash (.inl hfront)
    have hjoin : (d.bindAll w).path = Text.join ['/'] (d.front.map Component.text ++ ts) := by
      refine Fills.path_eq ?_
      rw [← front_append_back]
      exact (fills_append_iff closed_of_mem_front).2 ⟨ts, rfl, hts⟩
    rw [hjoin] at hrendered hlength
    have hfits : (ts.foldl Path.push d.split.1).utf8Length ≤ maxPathBytes := by
      refine Nat.le_trans hend.length ?_
      rwa [Path.ofPieces_eq_join hrendered]
    refine ⟨_, hrespell (.inr hfits), fun hon => ?_⟩
    exact FileSystem.pathExists_of_follows hend (hp'.foldl_push hslash (.inl hfront))
      (by simp [hfront]) (fun _ => hfits) (hexists hon)

end

end Crumb

end PathTemplates
