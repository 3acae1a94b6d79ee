import PathTemplates.Proofs.FileSystem.Paths

namespace PathTemplates

namespace Path

variable {folder p q t : Text} {pieces : List Text}

/-- The path of a folder without a slash at its end. -/
def stem (folder : Text) : Text := if endsInSlash folder then folder.dropLast else folder

/-- The path with a folder in front of it. -/
def below (folder p : Text) : Text :=
  (if endsInSlash folder then folder else folder ++ ['/']) ++ p

/-- The pieces of the path of a folder, without an empty one at the end. -/
def trunk (folder : Text) : List Text := Text.split '/' (stem folder)

theorem stem_append_of_endsInSlash (h : endsInSlash folder = true) :
    stem folder ++ ['/'] = folder := by
  rw [stem, if_pos h]
  exact List.dropLast_append_getLast? _ (of_decide_eq_true h)

theorem below_eq (folder p : Text) : below folder p = stem folder ++ '/' :: p := by
  unfold below
  split
  · next h =>
    have hfolder := stem_append_of_endsInSlash h
    calc folder ++ p
      _ = stem folder ++ ['/'] ++ p := by rw [hfolder]
      _ = stem folder ++ '/' :: p := List.append_assoc ..
  · next h =>
    rw [stem, if_neg h, List.append_assoc]
    rfl

theorem isAbsolute_below (h : folder ≠ []) (p : Text) :
    isAbsolute (below folder p) = isAbsolute folder := by
  unfold below
  split
  · exact isAbsolute_append h
  · rw [List.append_assoc]
    exact isAbsolute_append h

theorem length_below (folder p : Text) :
    (below folder p).utf8Length = (stem folder).utf8Length + 1 + p.utf8Length := by
  have hslash : Text.utf8Length ('/' :: p) = 1 + p.utf8Length := Text.utf8Length_append ['/'] p
  rw [below_eq, Text.utf8Length_append, hslash, Nat.add_assoc]

theorem length_stem_le (folder : Text) : (stem folder).utf8Length ≤ folder.utf8Length := by
  cases h : endsInSlash folder with
  | true =>
    have hlength := congrArg Text.utf8Length (stem_append_of_endsInSlash h)
    rw [Text.utf8Length_append] at hlength
    omega
  | false => rw [stem, h]; exact Nat.le_refl _

theorem head?_split (p : Text) :
    (Text.split '/' p).head? = some [] ↔ p = [] ∨ isAbsolute p = true := by
  cases p with
  | nil => simp [Text.split, Text.splitBy]
  | cons c p =>
    obtain ⟨t, ts, hts⟩ := List.exists_cons_of_ne_nil (Text.splitBy_ne_nil (fun c => c = '/') p)
    by_cases hc : c = '/'
    · simp [Text.split, Text.splitBy, isAbsolute, hc]
    · simp [Text.split, Text.splitBy, isAbsolute, hc, hts]

theorem head?_trunk (h : folder ≠ []) :
    (trunk folder).head? = some [] ↔ isAbsolute folder = true := by
  have habsolute := isAbsolute_below h []
  rw [trunk, head?_split, ← habsolute, below_eq]
  cases stem folder with
  | nil => exact iff_of_true (.inl rfl) rfl
  | cons c p => exact ⟨fun h => h.resolve_left (List.cons_ne_nil _ _), .inr⟩

theorem steps_eq_of_endsInSlash (h : endsInSlash folder = true) :
    steps folder = (trunk folder).map step ++ [.here] := by
  have hsplit : Text.split '/' [] = [[]] := rfl
  have hfolder := stem_append_of_endsInSlash h
  calc steps folder
    _ = (Text.split '/' (stem folder ++ ['/'])).map step := by rw [hfolder, steps]
    _ = (trunk folder).map step ++ [.here] := by
      rw [Text.split_append_separator, hsplit, List.map_append]
      rfl

theorem trunk_ne_nil (folder : Text) : trunk folder ≠ [] := Text.splitBy_ne_nil _ _

theorem trunk_append_ne_nil (folder : Text) (pieces : List Text) : trunk folder ++ pieces ≠ [] :=
  List.append_ne_nil_of_left_ne_nil (trunk_ne_nil folder) _

theorem no_slash_trunk (folder : Text) : ∀ t ∈ trunk folder, '/' ∉ t := fun _ =>
  Text.not_mem_of_mem_split

theorem join_trunk (folder : Text) : Text.join ['/'] (trunk folder) = stem folder :=
  Text.join_split '/' (stem folder)

theorem no_nul_trunk (h : '\x00' ∉ folder) : ∀ t ∈ trunk folder, '\x00' ∉ t := by
  have hslash : '\x00' ∉ ['/'] := by decide
  have hstem : '\x00' ∉ stem folder := by
    refine fun hmem => h ?_
    cases hends : endsInSlash folder with
    | true => exact stem_append_of_endsInSlash hends ▸ List.mem_append_left _ hmem
    | false => rwa [stem, hends] at hmem
  rw [← join_trunk, Text.mem_join hslash] at hstem
  exact fun t ht hmem => hstem ⟨t, ht, hmem⟩

/-- Of two paths, the first leads below the folder where the second leads from there, and is not
longer than the second with the folder in front. -/
structure Beneath (folder : Text) (pieces : List Text) (p q : Text) : Prop where
  whole : Follows p (trunk folder ++ pieces)
  part : Follows q pieces
  relative : pieces.head? ≠ some []
  le : q.utf8Length ≤ p.utf8Length
  /-- The bound has to allow for the slash that comes with the next piece. -/
  length : (push p []).utf8Length ≤ (below folder (push q [])).utf8Length

namespace Beneath

theorem whole_ne_nil (h : Beneath folder pieces p q) : p ≠ [] := by
  rw [ne_eq, h.whole.nil_iff]
  exact trunk_append_ne_nil _ _

theorem endsInSlash_eq (h : Beneath folder pieces p q) (hne : pieces ≠ []) :
    endsInSlash p = endsInSlash q := by
  rw [h.whole.ends, h.part.ends, List.getLast?_append_of_ne_nil _ hne]

theorem length_push_nil (p : Text) :
    (Path.push p []).utf8Length = p.utf8Length + if p = [] ∨ endsInSlash p = true then 0 else 1 :=
  length_push List.not_mem_nil

theorem length_le (h : Beneath folder pieces p q) (hne : pieces ≠ []) :
    p.utf8Length ≤ (below folder q).utf8Length := by
  have hlength := h.length
  have hq : q ≠ [] := mt h.part.nil_iff.1 hne
  simp only [length_below, length_push_nil, h.endsInSlash_eq hne, h.whole_ne_nil, hq,
    false_or] at hlength ⊢
  omega

theorem push (h : Beneath folder pieces p q) (ht : '/' ∉ t) (hne : pieces ≠ [] ∨ t ≠ []) :
    Beneath folder (pieces ++ [t]) (push p t) (push q t) := by
  have hwhole : Follows (Path.push p t) (trunk folder ++ (pieces ++ [t])) := by
    rw [← List.append_assoc]
    exact h.whole.push ht (.inl (trunk_append_ne_nil _ _))
  have hpart : Follows (Path.push q t) (pieces ++ [t]) := h.part.push ht hne
  have hends : endsInSlash (Path.push p t) = endsInSlash (Path.push q t) := by
    rw [hwhole.ends, hpart.ends, ← List.append_assoc, List.getLast?_concat, List.getLast?_concat]
  have hp : Path.push p t ≠ [] := fun e => by simpa using hwhole.nil_iff.1 e
  have hq : Path.push q t ≠ [] := fun e => by simpa using hpart.nil_iff.1 e
  have hrelative : (pieces ++ [t]).head? ≠ some [] := by
    by_cases hpieces : pieces = []
    · simpa [hpieces] using hne.resolve_left (absurd hpieces)
    · rw [List.head?_append_of_ne_nil _ hpieces]
      exact h.relative
  refine ⟨hwhole, hpart, hrelative, ?_, ?_⟩
  · have hle := h.le
    rw [length_push ht, length_push ht]
    by_cases hpieces : pieces = []
    · rw [if_pos (.inl (h.part.nil_iff.2 hpieces))]
      omega
    · simp only [h.endsInSlash_eq hpieces, h.whole_ne_nil, mt h.part.nil_iff.1 hpieces]
      omega
  · have hlength := h.length
    rw [length_below, length_push_nil, length_push_nil] at hlength ⊢
    simp only [hp, hq, hends, false_or]
    rw [length_push ht, length_push ht]
    omega

/-- The folder itself. -/
theorem root (folder : Text) :
    Beneath folder [] (ofPieces (trunk folder)) [] := by
  have hfollows := follows_ofPieces (no_slash_trunk folder)
  have hempty : ∀ t ∈ ([] : List Text), '/' ∉ t := nofun
  refine ⟨by rwa [List.append_nil], follows_ofPieces hempty, nofun, Nat.zero_le _, ?_⟩
  have hself : Path.push [] [] = [] := rfl
  rw [hself, length_below]
  by_cases hstem : stem folder = []
  · rw [trunk, hstem]
    decide
  · have hjoin : Text.join ['/'] (trunk folder) ≠ [] := by rwa [join_trunk]
    rw [ofPieces_eq_join hjoin, join_trunk, length_push_nil]
    split <;> omega

theorem ofPieces (hslash : ∀ t ∈ pieces, '/' ∉ t) (hrelative : pieces.head? ≠ some []) :
    Beneath folder pieces (ofPieces (trunk folder ++ pieces)) (ofPieces pieces) := by
  by_cases hne : pieces = []
  · rw [hne, List.append_nil]
    exact root folder
  · have hjoin : Text.join ['/'] pieces ≠ [] := by
      rw [ne_eq, join_eq_nil_iff, not_or]
      exact ⟨hne, fun e => hrelative (e ▸ rfl)⟩
    have hbelow : Path.ofPieces (trunk folder ++ pieces) =
        below folder (Path.ofPieces pieces) := by
      rw [ofPieces_eq_join hjoin, below_eq, ← join_trunk, ofPieces_eq_join]
      · rw [Text.join_append _ (trunk_ne_nil folder) hne, List.append_assoc]
        rfl
      · rw [Text.join_append _ (trunk_ne_nil folder) hne]
        simp
    have hall : ∀ t ∈ trunk folder ++ pieces, '/' ∉ t :=
      List.forall_mem_append.2 ⟨no_slash_trunk folder, hslash⟩
    have hwhole := follows_ofPieces hall
    rw [hbelow] at hwhole ⊢
    have hpart := follows_ofPieces hslash
    have hp := mt hwhole.nil_iff.1 (trunk_append_ne_nil folder pieces)
    have hq := mt hpart.nil_iff.1 hne
    have hends : endsInSlash (below folder (Path.ofPieces pieces)) =
        endsInSlash (Path.ofPieces pieces) := endsInSlash_append hq
    refine ⟨hwhole, hpart, hrelative, ?_, ?_⟩
    · rw [length_below]
      omega
    · rw [length_below, length_push_nil, length_push_nil, hends, length_below]
      simp only [hp, hq, false_or]
      omega

end Beneath

end Path

namespace FileSystem

open PathTemplates.Path (Beneath Follows Step below stem tidy trunk)

variable {fs : FileSystem} {follow : Bool} {links : Nat} {loc start target : Location}
  {folder p q e : Text} {pieces : List Text} {steps steps' : List Step}

/-- The file system with another current folder. -/
def movedTo (fs : FileSystem) (loc : Location) : FileSystem := { fs with current := loc }

@[simp] theorem movedTo_current (fs : FileSystem) : fs.movedTo fs.current = fs := rfl

theorem arrives_movedTo_iff :
    (fs.movedTo loc).Arrives follow links start steps target ↔
      fs.Arrives follow links start steps target := by
  have hkept (loc' : Location) (n : Node) :
      (fs.movedTo loc).node? loc' = some n ↔ fs.node? loc' = some n := Iff.rfl
  exact ⟨fun h => h.mono (fun _ _ => (hkept _ _).1) (Nat.le_refl _),
    fun h => h.mono (fun _ _ => (hkept _ _).2) (Nat.le_refl _)⟩

theorem arrives_congr (h : tidy steps = tidy steps') :
    fs.Arrives follow links start steps target ↔ fs.Arrives follow links start steps' target := by
  rw [← resolveSteps_eq_ok_iff, ← resolveSteps_tidy, h, resolveSteps_tidy, resolveSteps_eq_ok_iff]

/-- The path leads to a folder. -/
structure FolderAt (fs : FileSystem) (folder : Text) (loc : Location) : Prop where
  resolves : fs.resolve true folder = .ok loc
  isFolder : fs.isFolderAt loc = true

namespace FolderAt

theorem checked (h : fs.FolderAt folder loc) :
    '\x00' ∉ folder ∧ folder ≠ [] ∧ folder.utf8Length ≤ maxPathBytes :=
  checkPath_eq_ok_iff.1 (resolve_eq_ok_iff_arrives.1 h.resolves).1

theorem startOf_eq (h : fs.FolderAt folder loc) : fs.startOf folder =
    if (trunk folder).head? = some [] then [] else fs.current :=
  if_congr (Path.head?_trunk h.checked.2.1).symm rfl rfl

theorem arrives_trunk (h : fs.FolderAt folder loc)
    (harrives : fs.Arrives true links (fs.startOf folder) (Path.steps folder) loc) :
    fs.Arrives true links
      (if (trunk folder).head? = some [] then [] else fs.current)
      ((trunk folder).map Path.step) loc := by
  rw [h.startOf_eq] at harrives
  cases hends : Path.endsInSlash folder with
  | true =>
    rw [Path.steps_eq_of_endsInSlash hends] at harrives
    obtain ⟨mid, hmid, left, _, hleft⟩ := harrives.split (List.cons_ne_nil _ _)
    cases hleft with
    | here _ onward =>
      cases onward
      exact hmid
  | false =>
    have hstem : stem folder = folder := by rw [stem, hends]; rfl
    rw [trunk, hstem] at harrives ⊢
    exact harrives

theorem leads (h : fs.FolderAt folder loc) : fs.Leads true (trunk folder) loc := by
  have harrives := h.arrives_trunk (resolve_eq_ok_iff_arrives.1 h.resolves).2
  exact leads_iff_arrives.2 ⟨Path.no_nul_trunk h.checked.1, harrives⟩

theorem eq_of_leads (h : fs.FolderAt folder loc)
    (hleads : fs.Leads true (trunk folder) target) : target = loc :=
  Except.ok.inj (hleads.resolves.symm.trans h.leads.resolves)

theorem length_trunk_le (h : fs.FolderAt folder loc) :
    (Path.ofPieces (trunk folder)).utf8Length ≤ maxPathBytes := by
  unfold Path.ofPieces
  dsimp only
  rw [Path.join_trunk]
  split
  · decide
  · exact Nat.le_trans (Path.length_stem_le folder) h.checked.2.2

end FolderAt

/-- With the folder in front the path is not too long, and wherever it leads to, it passes no more
links than the path of the folder leaves. -/
structure InReach (fs : FileSystem) (folder : Text) (loc : Location) (p : Text) : Prop where
  short : (below folder p).utf8Length ≤ maxPathBytes
  fewLinks : ∃ links ≤ maxLinks,
    fs.Arrives true links (fs.startOf folder) (Path.steps folder) loc ∧
    ∀ follow target, fs.Arrives follow maxLinks loc (Path.steps p) target →
      fs.Arrives follow (maxLinks - links) loc (Path.steps p) target

section

variable (hfolder : fs.FolderAt folder loc)
include hfolder

/-- What a path leads to with the folder in front, the rest of it leads to from the folder. -/
theorem Leads.of_below (h : fs.Leads follow (trunk folder ++ pieces) target)
    (hhead : pieces.head? ≠ some []) (hfollow : pieces ≠ [] ∨ follow = true) :
    (fs.movedTo loc).Leads follow pieces target := by
  by_cases hne : pieces = []
  · obtain rfl := hfollow.resolve_left (absurd hne)
    subst hne
    rw [List.append_nil] at h
    exact leads_nil_iff.2 (hfolder.eq_of_leads h)
  · obtain ⟨mid, hmid, _, left, hle, hleft⟩ :=
      h.exists_folder hne (.inl (Path.trunk_ne_nil folder))
    cases hfolder.eq_of_leads hmid
    refine leads_iff_arrives.2 ⟨(List.forall_mem_append.1 h.no_nul).2, ?_⟩
    rw [if_neg hhead, arrives_movedTo_iff]
    exact hleft.mono (fun _ _ h => h) hle

/-- What a path leads to from the folder, it leads to with the folder in front too, if the limits
leave room for that. -/
theorem Leads.below (h : (fs.movedTo loc).Leads follow pieces target) (hq : Follows q pieces)
    (hhead : pieces.head? ≠ some []) (hfollow : pieces ≠ [] ∨ follow = true)
    (hreach : pieces ≠ [] → fs.InReach folder loc q) :
    fs.Leads follow (trunk folder ++ pieces) target := by
  by_cases hne : pieces = []
  · obtain rfl := hfollow.resolve_left (absurd hne)
    subst hne
    cases leads_nil_iff.1 h
    rw [List.append_nil]
    exact hfolder.leads
  · obtain ⟨links, hle, hfront, hrest⟩ := (hreach hne).fewLinks
    obtain ⟨hnul, harrives⟩ := leads_iff_arrives.1 h
    rw [if_neg hhead, arrives_movedTo_iff] at harrives
    have hsteps := hq.steps hne
    have hback := (arrives_congr hsteps).1 (hrest _ _ ((arrives_congr hsteps).2 harrives))
    have hwhole := (hfolder.arrives_trunk hfront).append hback (mt List.map_eq_nil_iff.1 hne)
    rw [Nat.add_sub_cancel' hle, ← List.map_append] at hwhole
    refine leads_iff_arrives.2 ⟨List.forall_mem_append.2 ⟨hfolder.leads.no_nul, hnul⟩, ?_⟩
    rwa [List.head?_append_of_ne_nil _ (Path.trunk_ne_nil folder)]

variable (h : Beneath folder pieces p q)
include h

theorem pathExists_of_below (hne : pieces ≠ []) (hexists : fs.pathExists p = true) :
    (fs.movedTo loc).pathExists q = true := by
  obtain ⟨hlength, follow, target, hleads⟩ :=
    (pathExists_iff h.whole (List.append_ne_nil_of_right_ne_nil _ hne)).1 hexists
  exact (pathExists_iff h.part hne).2 ⟨Nat.le_trans h.le hlength, follow, target,
    hleads.of_below hfolder h.relative (.inl hne)⟩

theorem hasEntry_of_below (hentry : fs.HasEntry p e) : (fs.movedTo loc).HasEntry q e := by
  obtain ⟨hlength, target, n, hleads, hrest⟩ := (hasEntry_iff h.whole).1 hentry
  exact (hasEntry_iff h.part).2 ⟨Nat.le_trans h.le hlength, target, n,
    hleads.of_below hfolder h.relative (.inr rfl), hrest⟩

theorem hasFolder_of_below (he : FileName e) (hsub : fs.HasFolder p e) :
    (fs.movedTo loc).HasFolder q e := by
  have hpush := h.push he.no_slash (.inr he.ne_nil)
  obtain ⟨hlength, target, hleads, hrest⟩ := (hasFolder_iff h.whole he).1 hsub
  rw [List.append_assoc] at hleads
  exact (hasFolder_iff h.part he).2 ⟨Nat.le_trans hpush.le hlength, target,
    hleads.of_below hfolder hpush.relative (.inl (by simp)),
    hrest⟩

theorem pathExists_below (hreach : fs.InReach folder loc q)
    (hexists : (fs.movedTo loc).pathExists q = true) : fs.pathExists p = true := by
  have hne : pieces ≠ [] := fun e => ne_nil_of_pathExists hexists (h.part.nil_iff.2 e)
  obtain ⟨_, follow, target, hleads⟩ := (pathExists_iff h.part hne).1 hexists
  refine (pathExists_iff h.whole (Path.trunk_append_ne_nil folder _)).2
    ⟨Nat.le_trans (h.length_le hne) hreach.short, follow, target, ?_⟩
  exact hleads.below hfolder h.part h.relative (.inl hne) fun _ => hreach

theorem hasEntry_below
    (hreach : (fs.movedTo loc).pathExists q = true → fs.InReach folder loc q)
    (hentry : (fs.movedTo loc).HasEntry q e) : fs.HasEntry p e := by
  obtain ⟨hlength, target, n, hleads, hrest⟩ := (hasEntry_iff h.part).1 hentry
  have hreach (hne : pieces ≠ []) : fs.InReach folder loc q :=
    hreach ((pathExists_iff h.part hne).2 ⟨hlength, true, target, hleads⟩)
  refine (hasEntry_iff h.whole).2 ⟨?_, target, n,
    hleads.below hfolder h.part h.relative (.inr rfl) hreach, hrest⟩
  by_cases hne : pieces = []
  · have hlength := h.whole.length
    rw [hne, List.append_nil] at hlength
    exact Nat.le_trans hlength hfolder.length_trunk_le
  · exact Nat.le_trans (h.length_le hne) (hreach hne).short

theorem hasFolder_below (he : FileName e)
    (hreach : (fs.movedTo loc).pathExists (Path.push q e) = true →
      fs.InReach folder loc (Path.push q e))
    (hsub : (fs.movedTo loc).HasFolder q e) : fs.HasFolder p e := by
  have hpush := h.push he.no_slash (.inr he.ne_nil)
  have hne : pieces ++ [e] ≠ [] := by simp
  obtain ⟨hlength, target, hleads, hrest⟩ := (hasFolder_iff h.part he).1 hsub
  have hreach : fs.InReach folder loc (Path.push q e) :=
    hreach ((pathExists_iff hpush.part hne).2 ⟨hlength, true, target, hleads⟩)
  have hwhole := hleads.below hfolder hpush.part hpush.relative (.inl hne)
    fun _ => hreach
  rw [← List.append_assoc] at hwhole
  exact (hasFolder_iff h.whole he).2
    ⟨Nat.le_trans (hpush.length_le hne) hreach.short, target, hwhole, hrest⟩

end

end FileSystem

end PathTemplates
