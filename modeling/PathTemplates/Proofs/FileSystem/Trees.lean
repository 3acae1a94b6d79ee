import PathTemplates.Proofs.FileSystem.Growth

namespace PathTemplates

namespace FileSystem

open PathTemplates.Path (Step)

variable {fs fs' : FileSystem} {follow absolute : Bool} {links : Nat} {loc target : Location}
  {n : Node} {p name : Text} {paths names : List Text}

def Linkless (fs : FileSystem) : Prop := ∀ loc link, fs.node? loc ≠ some (.link link)

theorem linkless_of_nodes (h : ∀ e ∈ fs.nodes, e.2 = .folder ∨ e.2 = .file) : fs.Linkless := by
  intro loc link hn
  cases loc with
  | nil => cases hn
  | cons name parent =>
    obtain hfolder | hfile := h _ (mem_nodes_of_node? hn)
    · cases hfolder
    · cases hfile

theorem isFolderAt_of_append {below : Location} (hn : fs.node? (below ++ loc) = some n)
    (hne : below ≠ []) : fs.isFolderAt loc = true := by
  induction below generalizing n with
  | nil => exact absurd rfl hne
  | cons name below ih =>
    have hparent : fs.isFolderAt (below ++ loc) = true := isFolderAt_of_node? hn
    cases below with
    | nil => exact hparent
    | cons name' below => exact ih (of_decide_eq_true hparent) (List.cons_ne_nil _ _)

theorem Linkless.made (h : fs.Linkless) (hmade : Made paths fs fs') : fs'.Linkless := by
  intro loc link hlink
  obtain hold | ⟨hfolder, _⟩ := hmade.node?_or hlink
  · exact h loc link hold
  · cases hfolder

/-- Where a step leads if nothing is a link. -/
def move : Location → Step → Location
  | loc, .here => loc
  | loc, .up => loc.tail
  | loc, .enter name => .text name :: loc

theorem Linkless.eq_of_arrives (linkless : fs.Linkless) {steps : List Step}
    (h : fs.Arrives follow links loc steps target) : target = steps.foldl move loc := by
  induction h with
  | done => rfl
  | here _ _ ih | up _ _ ih | enter _ _ _ _ _ ih => exact ih
  | stop _ _ entry | jump _ _ entry => exact absurd entry (linkless _ _)

theorem foldl_move (h : ∀ t ∈ names, FileName t) (loc : Location) :
    (names.map Path.step).foldl move loc = (names.map .text).reverse ++ loc := by
  induction names generalizing loc with
  | nil => rfl
  | cons t names ih =>
    obtain ⟨ht, hnames⟩ := List.forall_mem_cons.1 h
    rw [List.map_cons, List.foldl_cons, ht.step_eq, ih hnames, List.map_cons, List.reverse_cons,
      List.append_assoc]
    rfl

/-- All that lies on the way to an entry is a folder, so that only the entry itself could be a
link. -/
theorem arrives_of_node? (hplain : ∀ link, n ≠ .link link) (hnames : ∀ t ∈ names, FileName t)
    (hshort : ∀ t ∈ names, t.utf8Length ≤ maxNameBytes)
    (hn : fs.node? ((names.map .text).reverse ++ loc) = some n) :
    fs.Arrives follow links loc (names.map Path.step) ((names.map .text).reverse ++ loc) := by
  induction names generalizing loc with
  | nil => exact .done
  | cons t names ih =>
    obtain ⟨ht, hnames⟩ := List.forall_mem_cons.1 hnames
    obtain ⟨hshort, hshorts⟩ := List.forall_mem_cons.1 hshort
    have hplace : ((t :: names).map EntryName.text).reverse ++ loc =
        (names.map .text).reverse ++ (.text t :: loc) := by simp
    have hfolder : fs.isFolderAt loc = true := isFolderAt_of_append hn (by simp)
    rw [hplace] at hn ⊢
    obtain ⟨k, hk, hkplain⟩ : ∃ k, fs.node? (.text t :: loc) = some k ∧ ∀ link, k ≠ .link link := by
      by_cases hlast : (names.map EntryName.text).reverse = []
      · exact ⟨n, by rwa [hlast, List.nil_append] at hn, hplain⟩
      · refine ⟨.folder, of_decide_eq_true (isFolderAt_of_append hn hlast), ?_⟩
        exact fun link => Node.noConfusion
    rw [List.map_cons, ht.step_eq]
    exact .enter hfolder hshort hk hkplain (ih hnames hshorts hn)

end FileSystem

namespace Path

variable {absolute : Bool} {names : List Text} {p : Text}

/-- The pieces of a path that goes along some names, from the root or from the current folder. -/
def pieces (absolute : Bool) (names : List Text) : List Text :=
  if absolute then [] :: names else names

theorem no_slash_pieces (h : ∀ t ∈ names, FileName t) : ∀ t ∈ pieces absolute names, '/' ∉ t := by
  have hnames : ∀ t ∈ names, '/' ∉ t := fun t ht => (h t ht).no_slash
  cases absolute with
  | false => exact hnames
  | true => exact List.forall_mem_cons.2 ⟨List.not_mem_nil, hnames⟩

theorem head?_pieces (h : ∀ t ∈ names, FileName t) :
    (pieces absolute names).head? = some [] ↔ absolute = true := by
  cases absolute with
  | true => simp [pieces]
  | false =>
    simp only [pieces, Bool.false_eq_true, if_false, iff_false]
    exact fun hhead => (h [] (List.mem_of_mem_head? hhead)).ne_nil rfl

theorem isAbsolute_ofPieces (h : ∀ t ∈ names, FileName t) :
    isAbsolute (ofPieces (pieces absolute names)) = absolute := by
  rw [(follows_ofPieces (no_slash_pieces h)).absolute]
  simp [head?_pieces h]

theorem ofParts_eq_ofPieces (h : ∀ t ∈ names, FileName t) :
    ofParts absolute names = ofPieces (pieces absolute names) := by
  cases names with
  | nil => cases absolute <;> rfl
  | cons t names =>
    have hjoin : Text.join ['/'] (t :: names) ≠ [] := by
      rw [ne_eq, join_eq_nil_iff]
      simpa using fun e => absurd e (h t (List.mem_cons_self ..)).ne_nil
    cases absolute with
    | true =>
      have hroot : Text.join ['/'] ([] :: t :: names) ≠ [] := by simp [Text.join_cons_cons]
      exact (ofPieces_eq_join hroot).symm
    | false => exact (ofPieces_eq_join hjoin).symm

/-- The parts of a path of names are the names. -/
theorem parts_ofPieces (h : ∀ t ∈ names, FileName t) :
    parts (ofPieces (pieces absolute names)) = names := by
  have hdot : names.filter (fun t => t ≠ ['.']) = names :=
    List.filter_eq_self.2 fun t ht => decide_eq_true (h t ht).ne_dot
  have hsplit :
      (Text.split '/' (ofPieces (pieces absolute names))).filter (fun t => t ≠ []) = names := by
    have hnil : names.filter (fun t => t ≠ []) = names :=
      List.filter_eq_self.2 fun t ht => decide_eq_true (h t ht).ne_nil
    cases names with
    | nil => cases absolute <;> rfl
    | cons t names =>
      rw [← ofParts_eq_ofPieces h]
      have hsplit := Text.split_join (List.cons_ne_nil t names) fun s hs => (h s hs).no_slash
      cases absolute with
      | true =>
        have hslash : Text.split '/' ('/' :: Text.join ['/'] (t :: names)) =
            [] :: Text.split '/' (Text.join ['/'] (t :: names)) := rfl
        rw [ofParts, if_pos rfl, hslash, hsplit]
        exact hnil
      | false =>
        rw [ofParts, if_neg Bool.false_ne_true, hsplit]
        exact hnil
  unfold parts
  dsimp only
  rw [hsplit]
  split
  · next rest e => exact absurd rfl (h ['.'] (List.mem_cons_self ..)).ne_dot
  · exact hdot

theorem prefix_of_mem_beginnings {α : Type} {xs ys : List α} (h : ys ∈ beginnings xs) :
    ys <+: xs := by
  induction xs generalizing ys with
  | nil => cases h
  | cons x xs ih =>
    obtain h | h := List.mem_append.1 h
    · obtain ⟨zs, hzs, rfl⟩ := List.mem_map.1 h
      exact List.cons_prefix_cons.2 ⟨rfl, ih hzs⟩
    · rw [List.mem_singleton.1 h]
      exact List.nil_prefix

/-- Above a path of names are the paths of its beginnings. -/
theorem exists_of_mem_above (h : ∀ t ∈ names, FileName t)
    (hp : p ∈ above (ofPieces (pieces absolute names))) :
    ∃ before, before <+: names ∧ p = ofPieces (pieces absolute before) := by
  rw [above, parts_ofPieces h, isAbsolute_ofPieces h] at hp
  obtain ⟨before, hbefore, rfl⟩ := List.mem_map.1 hp
  have hbegins := prefix_of_mem_beginnings hbefore
  exact ⟨before, hbegins, ofParts_eq_ofPieces fun t ht => h t (hbegins.subset ht)⟩

end Path

namespace FileSystem

variable {fs fs' : FileSystem} {follow absolute : Bool} {loc : Location} {n : Node}
  {names : List Text}

/-- The folder that such a path starts from. -/
def start (fs : FileSystem) (absolute : Bool) : Location := if absolute then [] else fs.current

theorem leads_pieces_iff (h : ∀ t ∈ names, FileName t) :
    fs.Leads follow (Path.pieces absolute names) loc ↔
      fs.Arrives follow maxLinks (fs.start absolute) (names.map Path.step) loc := by
  have hnul : ∀ t ∈ Path.pieces absolute names, '\x00' ∉ t := by
    have hnames : ∀ t ∈ names, '\x00' ∉ t := fun t ht => (h t ht).no_nul
    cases absolute with
    | false => exact hnames
    | true => exact List.forall_mem_cons.2 ⟨List.not_mem_nil, hnames⟩
  have hiff : fs.Leads follow (Path.pieces absolute names) loc ↔
      fs.Arrives follow maxLinks (fs.start absolute)
        ((Path.pieces absolute names).map Path.step) loc := by
    have hstart : (if (Path.pieces absolute names).head? = some [] then [] else fs.current) =
        fs.start absolute := if_congr (Path.head?_pieces h) rfl rfl
    rw [leads_iff_arrives, hstart, and_iff_right hnul]
  rw [hiff]
  cases absolute with
  | false => rfl
  | true =>
    constructor
    · intro harrives
      cases harrives with
      | here _ onward => exact onward
    · exact fun harrives => .here rfl harrives

/-- Without links a path of names leads to the place that the names tell. -/
theorem Linkless.eq_of_leads (linkless : fs.Linkless) (hnames : ∀ t ∈ names, FileName t)
    (h : fs.Leads follow (Path.pieces absolute names) loc) :
    loc = (names.map .text).reverse ++ fs.start absolute := by
  rw [linkless.eq_of_arrives ((leads_pieces_iff hnames).1 h), foldl_move hnames]

/-- A path of names ends at something. -/
theorem Linkless.exists_node (linkless : fs.Linkless) (hnames : ∀ t ∈ names, FileName t)
    (hne : names ≠ []) (h : fs.Leads follow (Path.pieces absolute names) loc) :
    ∃ n, fs.node? loc = some n := by
  have harrives := (leads_pieces_iff hnames).1 h
  obtain rfl | ⟨front, last, rfl⟩ := List.eq_nil_or_concat names
  · exact absurd rfl hne
  · rw [List.concat_eq_append, List.map_append, List.map_singleton,
      (hnames last (by simp)).step_eq] at harrives
    obtain ⟨mid, _, left, _, hleft⟩ := harrives.split (List.cons_ne_nil _ _)
    cases hleft with
    | enter _ _ entry _ onward =>
      cases onward
      exact ⟨_, entry⟩
    | stop _ _ entry => exact ⟨_, entry⟩
    | jump _ _ entry => exact absurd entry (linkless _ _)

theorem Leads.short (hnames : ∀ t ∈ names, FileName t)
    (h : fs.Leads follow (Path.pieces absolute names) loc) :
    ∀ t ∈ names, t.utf8Length ≤ maxNameBytes := by
  intro t ht
  obtain ⟨before, after, hsplit⟩ := List.append_of_mem ht
  have hpieces : Path.pieces absolute names = Path.pieces absolute before ++ t :: after := by
    rw [hsplit]
    cases absolute <;> rfl
  rw [hpieces] at h
  exact (h.exists_entry (hnames t ht)).1

/-- A path leads to what was there before as it did before. -/
theorem leads_of_node? (linkless : fs.Linkless) (hnames : ∀ t ∈ names, FileName t)
    (h : fs'.Leads follow (Path.pieces absolute names) loc)
    (hn : fs.node? ((names.map .text).reverse ++ fs.start absolute) = some n) :
    fs.Leads follow (Path.pieces absolute names)
      ((names.map .text).reverse ++ fs.start absolute) :=
  (leads_pieces_iff hnames).2
    (arrives_of_node? (fun link e => linkless _ link (e ▸ hn)) hnames (h.short hnames) hn)

end FileSystem

end PathTemplates
