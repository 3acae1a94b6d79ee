import PathTemplates.Proofs.Crumb.Creation

namespace PathTemplates

namespace Crumb

open FileSystem (Made)

variable {c : Crumb} {row before after : Assignment} {rows earlier : List Assignment}
  {names given : List Text} {n : Text} {i : Nat} {e : CrumbError}

/-- One argument stands in front of another in the template. -/
def Precedes (c : Crumb) (n m : Text) : Prop := [n, m].Sublist c.names

instance (c : Crumb) (n m : Text) : Decidable (c.Precedes n m) :=
  inferInstanceAs (Decidable ([n, m].Sublist c.names))

/-- The row gives no value to an open argument `n`, and gives one to an argument `m` behind it. -/
structure LeavesOpen (c : Crumb) (row : Assignment) (n m : Text) : Prop where
  isOpen : n ∈ c.openNames
  unnamed : n ∉ row.names
  named : m ∈ row.names
  precedes : c.Precedes n m

/-- No argument is left open in front of another open one that the row names. -/
def InOrder (c : Crumb) (row : Assignment) : Prop :=
  ∀ n m, c.LeavesOpen row n m → m ∉ c.openNames

/-- The first argument that is left open in front of another open one that the row names. -/
structure LeftFirst (c : Crumb) (row : Assignment) (n : Text) : Prop where
  leaves : ∃ m ∈ c.openNames, c.LeavesOpen row n m
  first : ∀ n' m, m ∈ c.openNames → c.LeavesOpen row n' m → n' = n ∨ c.Precedes n n'

theorem openBefore?_cons_of_mem (h : n ∈ given) :
    openBefore? (n :: names) given = openBefore? names given := by
  simp [openBefore?, h]

theorem openBefore?_cons_of_not_mem (h : n ∉ given) :
    openBefore? (n :: names) given = if names.any given.contains then some n else none := by
  simp [openBefore?, h]

theorem openBefore?_eq_none_iff : openBefore? names given = none ↔
    ∀ n m, [n, m].Sublist names → n ∉ given → m ∉ given := by
  induction names with
  | nil => exact ⟨fun _ _ _ hsub => (nomatch hsub), fun _ => rfl⟩
  | cons a names ih =>
    by_cases ha : a ∈ given
    · rw [openBefore?_cons_of_mem ha, ih]
      refine ⟨fun h n m hsub hn => ?_, fun h n m hsub => h n m (hsub.cons a)⟩
      cases hsub with
      | cons _ hsub => exact h n m hsub hn
      | cons_cons _ _ => exact absurd ha hn
    · rw [openBefore?_cons_of_not_mem ha, ite_eq_right_iff]
      constructor
      · intro h n m hsub _ hm
        have hlater : m ∈ names := by
          cases hsub with
          | cons _ hsub => exact hsub.subset (by simp)
          | cons_cons _ hsub => exact hsub.subset (by simp)
        cases h (List.any_eq_true.2 ⟨m, hlater, by simpa using hm⟩)
      · intro h hany
        obtain ⟨m, hm, hgiven⟩ := List.any_eq_true.1 hany
        have hsub : [a, m].Sublist (a :: names) := (List.singleton_sublist.2 hm).cons_cons a
        exact absurd (by simpa using hgiven) (h a m hsub ha)

theorem openBefore?_eq_some (h : openBefore? names given = some n) :
    ∃ front behind, names = front ++ n :: behind ∧ (∀ a ∈ front, a ∈ given) ∧ n ∉ given ∧
      ∃ m ∈ behind, m ∈ given := by
  induction names with
  | nil => cases h
  | cons a names ih =>
    by_cases ha : a ∈ given
    · rw [openBefore?_cons_of_mem ha] at h
      obtain ⟨front, behind, rfl, hfront, hn, hm⟩ := ih h
      exact ⟨a :: front, behind, rfl, List.forall_mem_cons.2 ⟨ha, hfront⟩, hn, hm⟩
    · rw [openBefore?_cons_of_not_mem ha] at h
      obtain ⟨hany, hsome⟩ := Option.ite_none_right_eq_some.1 h
      obtain rfl := Option.some.inj hsome
      obtain ⟨m, hm, hgiven⟩ := List.any_eq_true.1 hany
      exact ⟨[], names, rfl, nofun, ha, m, hm, by simpa using hgiven⟩

theorem leavesOpen_iff {m : Text} (hm : m ∈ c.openNames) : c.LeavesOpen row n m ↔
    [n, m].Sublist c.openNames ∧ n ∉ row.names ∧ m ∈ row.names := by
  constructor
  · intro h
    have hsub := h.precedes.filter fun n => !c.values.contains n
    have hboth : ∀ a ∈ [n, m], (!c.values.contains a) = true :=
      List.forall_mem_cons.2 ⟨(List.mem_filter.1 h.isOpen).2,
        List.forall_mem_singleton.2 (List.mem_filter.1 hm).2⟩
    rw [List.filter_eq_self.2 hboth] at hsub
    exact ⟨hsub, h.unnamed, h.named⟩
  · intro ⟨hsub, hn, hm⟩
    exact ⟨hsub.subset (by simp), hn, hm, hsub.trans List.filter_sublist⟩

theorem inOrder_iff : c.InOrder row ↔ openBefore? c.openNames row.names = none := by
  rw [openBefore?_eq_none_iff]
  constructor
  · intro h n m hsub hn hm
    have hopen : m ∈ c.openNames := hsub.subset (by simp)
    exact h n m ((leavesOpen_iff hopen).2 ⟨hsub, hn, hm⟩) hopen
  · intro h n m hleaves hopen
    obtain ⟨hsub, hn, hm⟩ := (leavesOpen_iff hopen).1 hleaves
    exact h n m hsub hn hm

theorem leftFirst_of_openBefore? (h : openBefore? c.openNames row.names = some n) :
    c.LeftFirst row n := by
  obtain ⟨front, behind, hnames, hfront, hn, m, hm, hgiven⟩ := openBefore?_eq_some h
  have hbehind {a : Text} (ha : a ∈ behind) : [n, a].Sublist c.openNames := by
    rw [hnames]
    exact ((List.singleton_sublist.2 ha).cons_cons n).trans (List.sublist_append_right _ _)
  have hopen : m ∈ c.openNames := (hbehind hm).subset (by simp)
  refine ⟨⟨m, hopen, (leavesOpen_iff hopen).2 ⟨hbehind hm, hn, hgiven⟩⟩, fun n' _ _ hleaves => ?_⟩
  have hn' := hleaves.isOpen
  rw [hnames] at hn'
  obtain hin | hin := List.mem_append.1 hn'
  · exact absurd (hfront n' hin) hleaves.unnamed
  · obtain rfl | hin := List.mem_cons.1 hin
    · exact .inl rfl
    · exact .inr ((hbehind hin).trans List.filter_sublist)

/-- Nothing is said against the row. -/
structure Passes (c : Crumb) (row : Assignment) : Prop where
  inOrder : c.InOrder row
  known : ∀ b ∈ row, c.mentions b.name = true

/-- What is said about a row, the `i`-th one, that leaves an argument open in front of one that it
names, or else names something that is no argument. -/
inductive RefusesRow (c : Crumb) (i : Nat) (row : Assignment) : CrumbError → Prop
  | openBefore {n : Text} (first : c.LeftFirst row n) : RefusesRow c i row (.openBefore i n)
  | unknown {before after : Assignment} {b : Binding} (inOrder : c.InOrder row)
      (row_eq : row = before ++ b :: after) (known : ∀ x ∈ before, c.mentions x.name = true)
      (missing : c.mentions b.name = false) :
      RefusesRow c i row (.unknownArgument b.name (c.bindAll before).path)

theorem not_passes_of_refusesRow (h : c.RefusesRow i row e) : ¬c.Passes row := by
  intro hpasses
  cases h with
  | openBefore first =>
    obtain ⟨m, hm, hleaves⟩ := first.leaves
    exact hpasses.inOrder _ m hleaves hm
  | unknown _ row_eq _ missing =>
    have hknown := hpasses.known _ (row_eq ▸ List.mem_append_right _ (List.mem_cons_self ..))
    simp [missing] at hknown

theorem known_or_unknown (c : Crumb) (row : Assignment) :
    (∀ b ∈ row, c.mentions b.name = true) ∨ ∃ before b after, row = before ++ b :: after ∧
      (∀ x ∈ before, c.mentions x.name = true) ∧ c.mentions b.name = false := by
  induction row with
  | nil => exact .inl nofun
  | cons b row ih =>
    cases hb : c.mentions b.name with
    | false => exact .inr ⟨[], b, row, rfl, nofun, hb⟩
    | true =>
      obtain hall | ⟨before, d, after, rfl, hbefore, hd⟩ := ih
      · exact .inl (List.forall_mem_cons.2 ⟨hb, hall⟩)
      · exact .inr ⟨b :: before, d, after, rfl, List.forall_mem_cons.2 ⟨hb, hbefore⟩, hd⟩

theorem replace_of_unknown {b : Binding} (known : ∀ x ∈ before, c.mentions x.name = true)
    (missing : c.mentions b.name = false) : c.replace (before ++ b :: after) =
      .error (.unknownArgument b.name (c.bindAll before).path) := by
  have hmissing : (c.bindAll before).mentions b.name = false := missing
  have hfront := replace_eq_bindAll known
  rw [replace] at hfront ⊢
  rw [List.foldlM_append, hfront]
  show (((c.bindAll before).bind b.name b.value).bind fun d => List.foldlM _ d after) = _
  rw [bind, checkName, hmissing]
  rfl

/-- A row is passed and bound, or it is refused whatever rows are behind it. -/
theorem bindRows_cons (c : Crumb) (i : Nat) (row : Assignment) :
    (c.Passes row ∧ ∀ rows, c.bindRows i (row :: rows) =
        (c.bindRows (i + 1) rows).map (c.bindAll row :: ·)) ∨
      ∃ e, c.RefusesRow i row e ∧ ∀ rows, c.bindRows i (row :: rows) = .error e := by
  cases hopen : openBefore? c.openNames row.names with
  | some n =>
    refine .inr ⟨_, .openBefore (leftFirst_of_openBefore? hopen), fun rows => ?_⟩
    rw [bindRows, hopen]
  | none =>
    have hinOrder := inOrder_iff.2 hopen
    obtain hknown | ⟨before, b, after, rfl, hbefore, hb⟩ := known_or_unknown c row
    · refine .inl ⟨⟨hinOrder, hknown⟩, fun rows => ?_⟩
      rw [bindRows, hopen, replace_eq_bindAll hknown]
      cases c.bindRows (i + 1) rows <;> rfl
    · refine .inr ⟨_, .unknown hinOrder rfl hbefore hb, fun rows => ?_⟩
      rw [bindRows, hopen, replace_of_unknown hbefore hb]
      rfl

/-- All rows are passed and bound, or there is a first one that is refused, whatever rows are behind
it. -/
theorem bindRows_cases (c : Crumb) (i : Nat) (rows : List Assignment) :
    ((∀ row ∈ rows, c.Passes row) ∧ c.bindRows i rows = .ok (rows.map c.bindAll)) ∨
      ∃ earlier row later e, rows = earlier ++ row :: later ∧ (∀ r ∈ earlier, c.Passes r) ∧
        c.RefusesRow (i + earlier.length) row e ∧
        ∀ others, c.bindRows i (earlier ++ row :: others) = .error e := by
  induction rows generalizing i with
  | nil => exact .inl ⟨nofun, rfl⟩
  | cons row rows ih =>
    obtain ⟨hpasses, hbind⟩ | ⟨e, hrefuses, hbind⟩ := bindRows_cons c i row
    · obtain ⟨hall, hrows⟩ | ⟨earlier, r, later, e, rfl, hearlier, hrefuses, hrows⟩ := ih (i + 1)
      · refine .inl ⟨List.forall_mem_cons.2 ⟨hpasses, hall⟩, ?_⟩
        rw [hbind, hrows]
        rfl
      · refine .inr ⟨row :: earlier, r, later, e, rfl, List.forall_mem_cons.2 ⟨hpasses, hearlier⟩,
          ?_, fun others => ?_⟩
        · rwa [List.length_cons, Nat.add_comm earlier.length, ← Nat.add_assoc]
        · rw [List.cons_append, hbind, hrows]
          rfl
    · exact .inr ⟨[], row, rows, e, rfl, nofun, hrefuses, hbind⟩

theorem bindRows_eq_ok_iff :
    (∃ ds, c.bindRows i rows = .ok ds) ↔ ∀ row ∈ rows, c.Passes row := by
  obtain ⟨hall, hrows⟩ | ⟨earlier, row, later, e, rfl, _, hrefuses, hrows⟩ :=
    bindRows_cases c i rows
  · exact ⟨fun _ => hall, fun _ => ⟨_, hrows⟩⟩
  · refine ⟨fun ⟨ds, hds⟩ => ?_, fun hall => ?_⟩
    · cases hds.symm.trans (hrows later)
    · exact absurd (hall row (List.mem_append_right _ (List.mem_cons_self ..)))
        (not_passes_of_refusesRow hrefuses)

theorem makeTree_of_bindRows_eq_error (hrows : rows ≠ []) (h : c.bindRows 0 rows = .error e)
    (fs : FileSystem) : c.makeTree fs rows = (fs, .error e) := by
  rw [makeTree, if_neg hrows, h]

theorem makeTree_of_passes (hrows : rows ≠ []) (h : ∀ row ∈ rows, c.Passes row)
    (fs : FileSystem) : c.makeTree fs rows = touchAll fs (rows.map c.bindAll) := by
  obtain ⟨_, hbind⟩ | ⟨earlier, row, later, e, rfl, _, hrefuses, _⟩ := bindRows_cases c 0 rows
  · rw [makeTree, if_neg hrows, hbind]
  · exact absurd (h row (List.mem_append_right _ (List.mem_cons_self ..)))
      (not_passes_of_refusesRow hrefuses)

/-- Rows of arguments are passed if none of them leaves an argument open in front of another open
one that it names. Otherwise nothing is made, and the error names the first row that does so and the
first argument that it leaves open like this. -/
theorem bindRows_inOrder (c : Crumb) (rows : List Assignment)
    (known : ∀ row ∈ rows, ∀ n ∈ row.names, c.mentions n = true) :
    ((∃ ds, c.bindRows 0 rows = .ok ds) ↔ ∀ row ∈ rows, c.InOrder row) ∧
      ((∃ row ∈ rows, ¬c.InOrder row) → ∃ earlier row later n, rows = earlier ++ row :: later ∧
        (∀ r ∈ earlier, c.InOrder r) ∧ c.LeftFirst row n ∧
        ∀ fs, c.makeTree fs rows = (fs, .error (.openBefore earlier.length n))) := by
  have hpasses : ∀ row ∈ rows, (c.Passes row ↔ c.InOrder row) := fun row hrow =>
    ⟨Passes.inOrder, fun h => ⟨h, fun b hb => known row hrow _ (List.mem_map_of_mem hb)⟩⟩
  refine ⟨bindRows_eq_ok_iff.trans (forall₂_congr hpasses), ?_⟩
  rintro ⟨r, hr, hnot⟩
  obtain ⟨hall, _⟩ | ⟨earlier, row, later, e, rfl, hearlier, hrefuses, hrows⟩ :=
    bindRows_cases c 0 rows
  · exact absurd (hall r hr).inOrder hnot
  · rw [Nat.zero_add] at hrefuses
    have htree := makeTree_of_bindRows_eq_error (List.ne_nil_of_mem hr) (hrows later)
    cases hrefuses with
    | openBefore first =>
      exact ⟨earlier, row, later, _, rfl, fun r hr => (hearlier r hr).inOrder, first, htree⟩
    | @unknown before after b _ row_eq _ missing =>
      have hmem : b ∈ row := row_eq ▸ List.mem_append_right _ (List.mem_cons_self ..)
      have hmentions := known row (List.mem_append_right _ (List.mem_cons_self ..)) _
        (List.mem_map_of_mem hmem)
      simp [missing] at hmentions

/-- The second row for `{a}/{b}/{c}` leaves `b` open in front of `c`. -/
theorem bindRows_inOrder_sample : ∃ c : Crumb,
    read ['{', 'a', '}', '/', '{', 'b', '}', '/', '{', 'c', '}'] {} = .ok c ∧
      c.InOrder [⟨['b'], ['2']⟩, ⟨['a'], ['1']⟩] ∧
      c.LeftFirst [⟨['a'], ['1']⟩, ⟨['c'], ['3']⟩] ['b'] := by
  let rows : List Assignment :=
    [[⟨['b'], ['2']⟩, ⟨['a'], ['1']⟩], [⟨['a'], ['1']⟩, ⟨['c'], ['3']⟩]]
  obtain ⟨c, hread, hknown, hleaves, hopen, htree⟩ : ∃ c : Crumb,
      read ['{', 'a', '}', '/', '{', 'b', '}', '/', '{', 'c', '}'] {} = .ok c ∧
        (∀ row ∈ rows, ∀ n ∈ row.names, c.mentions n = true) ∧
        c.LeavesOpen [⟨['a'], ['1']⟩, ⟨['c'], ['3']⟩] ['b'] ['c'] ∧ ['c'] ∈ c.openNames ∧
        c.makeTree (.empty []) rows = (.empty [], .error (.openBefore 1 ['b'])) :=
    ⟨_, rfl, by decide, ⟨by decide, by decide, by decide, by decide⟩, by decide, rfl⟩
  obtain ⟨earlier, row, later, n, hrows, hearlier, hfirst, hrefused⟩ :=
    (bindRows_inOrder c rows hknown).2
      ⟨_, List.mem_cons_of_mem _ (List.mem_singleton_self _), fun h => h _ _ hleaves hopen⟩
  have herror := (Prod.mk.inj (htree.symm.trans (hrefused _))).2
  obtain ⟨hlength, rfl⟩ := CrumbError.openBefore.inj (Except.error.inj herror)
  obtain ⟨r, rfl⟩ := List.length_eq_one_iff.1 hlength.symm
  obtain ⟨rfl, hbehind⟩ := List.cons.inj hrows
  obtain ⟨rfl, _⟩ := List.cons.inj hbehind
  exact ⟨c, hread, hearlier _ (List.mem_singleton_self _), hfirst⟩

/-- Below `d` the row names `b`, which has a value already, and leaves `a` open in front of it. It
is passed, and only `d` is made. -/
theorem exists_passed_leavesOpen : ∃ c d : Crumb,
    read ['d', '/', '{', 'a', '}', '/', '{', 'b', '}'] {} = .ok c ∧
      c.bind ['b'] ['x'] = .ok d ∧ (∀ n ∈ Assignment.names [⟨['b'], ['y']⟩], d.mentions n = true) ∧
      d.LeavesOpen [⟨['b'], ['y']⟩] ['a'] ['b'] ∧
      d.makeTree (.empty []) [[⟨['b'], ['y']⟩]] =
        (⟨[([.text ['d']], .folder)], [], by decide, by decide, by decide⟩, .ok [['d']]) :=
  ⟨_, _, rfl, rfl, by decide, ⟨by decide, by decide, by decide, by decide⟩, rfl⟩

/-- If something is said against a row, nothing has been made, and it is about the first such row,
whatever rows are behind it. If a folder cannot be made, all rows have been passed, the folders of
the rows in front have been made, and of that row at most folders above its own; rows behind it have
no effect. Nothing else goes wrong. -/
theorem makeTree_fails {fs fs' : FileSystem} (nonempty : rows ≠ [])
    (fails : c.makeTree fs rows = (fs', .error e)) :
    (fs' = fs ∧ ∃ earlier row later, rows = earlier ++ row :: later ∧
      (∀ r ∈ earlier, c.Passes r) ∧ c.RefusesRow earlier.length row e ∧
      ∀ others, c.makeTree fs (earlier ++ row :: others) = (fs, .error e)) ∨
    ∃ earlier row later mid made fault, rows = earlier ++ row :: later ∧
      (∀ r ∈ rows, c.Passes r) ∧ e = .file (c.bindAll row).split.1 fault ∧
      touchAll fs (earlier.map c.bindAll) = (mid, .ok made) ∧
      Made (Path.above (c.bindAll row).split.1) mid fs' ∧
      ∀ others, (∀ r ∈ others, c.Passes r) →
        c.makeTree fs (earlier ++ row :: others) = (fs', .error e) := by
  obtain ⟨hall, _⟩ | ⟨earlier, row, later, e', rfl, hearlier, hrefuses, hrows⟩ :=
    bindRows_cases c 0 rows
  · right
    rw [makeTree_of_passes nonempty hall] at fails
    obtain ⟨ds, d, ds', mid, made, hds, hmid, htouch, hothers⟩ := touchAll_eq_error fails
    obtain ⟨earlier, behind, rfl, rfl, hbehind⟩ := List.map_eq_append_iff.1 hds
    obtain ⟨row, later, rfl, rfl, rfl⟩ := List.map_eq_cons_iff.1 hbehind
    obtain ⟨⟨fault, hfault⟩, hmade⟩ := touch_eq_error htouch
    refine ⟨earlier, row, later, mid, made, fault, rfl, hall, hfault, hmid, hmade, ?_⟩
    intro others hpasses
    obtain ⟨hearlier, hbehind⟩ := List.forall_mem_append.1 hall
    have hall' : ∀ r ∈ earlier ++ row :: others, c.Passes r :=
      List.forall_mem_append.2 ⟨hearlier,
        List.forall_mem_cons.2 ⟨(List.forall_mem_cons.1 hbehind).1, hpasses⟩⟩
    rw [makeTree_of_passes (by simp) hall', List.map_append, List.map_cons]
    exact hothers _
  · left
    rw [Nat.zero_add] at hrefuses
    have htree : ∀ others, c.makeTree fs (earlier ++ row :: others) = (fs, .error e') :=
      fun others => makeTree_of_bindRows_eq_error (by simp) (hrows others) fs
    rw [htree] at fails
    cases fails
    exact ⟨rfl, earlier, row, later, rfl, hearlier, hrefuses, htree⟩

/-- The second row for `{a}/.` asks for `n/x/.`, which cannot be made; `n` is made on the way. The
folder `r` of the last row is not. -/
theorem makeTree_fails_sample : ∃ (c : Crumb) (fs fs' : FileSystem) (rows : List Assignment),
    rows = [[⟨['a'], ['s']⟩], [⟨['a'], ['n', '/', 'x']⟩], [⟨['a'], ['r']⟩]] ∧
      read ['{', 'a', '}', '/', '.'] {} = .ok c ∧
      c.makeTree fs rows = (fs', .error (.file ['n', '/', 'x', '/', '.'] .notFound)) ∧
      fs'.isFolder ['n'] = true ∧ fs'.isFolder ['r'] = false ∧
      ∃ earlier row later mid made, rows = earlier ++ row :: later ∧
        touchAll fs (earlier.map c.bindAll) = (mid, .ok made) ∧
        Made (Path.above ['n', '/', 'x', '/', '.']) mid fs' := by
  let rows : List Assignment := [[⟨['a'], ['s']⟩], [⟨['a'], ['n', '/', 'x']⟩], [⟨['a'], ['r']⟩]]
  let fs : FileSystem := oneFolder
  obtain ⟨c, fs', hread, htree, hn, hr⟩ : ∃ (c : Crumb) (fs' : FileSystem),
      read ['{', 'a', '}', '/', '.'] {} = .ok c ∧
        c.makeTree fs rows = (fs', .error (.file ['n', '/', 'x', '/', '.'] .notFound)) ∧
        fs'.isFolder ['n'] = true ∧ fs'.isFolder ['r'] = false :=
    ⟨_, _, rfl, rfl, rfl, rfl⟩
  refine ⟨c, fs, fs', rows, rfl, hread, htree, hn, hr, ?_⟩
  obtain ⟨_, _, _, _, _, _, hrefuses, _⟩ |
      ⟨earlier, row, later, mid, made, fault, hrows, _, herror, hmid, hmade, _⟩ :=
    makeTree_fails (List.cons_ne_nil _ _) htree
  · cases hrefuses
  · rw [← (CrumbError.file.inj herror).1] at hmade
    exact ⟨earlier, row, later, mid, made, hrows, hmid, hmade⟩

end Crumb

end PathTemplates
