import PathTemplates.FileSystem.Error
import PathTemplates.Utf8

namespace PathTemplates

/-- A part of a path that leads to an entry of that name. -/
structure FileName (t : Text) : Prop where
  ne_nil : t ≠ []
  no_slash : '/' ∉ t
  no_nul : '\x00' ∉ t
  ne_dot : t ≠ ['.']
  ne_dots : t ≠ ['.', '.']

instance (t : Text) : Decidable (FileName t) :=
  decidable_of_iff (t ≠ [] ∧ '/' ∉ t ∧ '\x00' ∉ t ∧ t ≠ ['.'] ∧ t ≠ ['.', '.'])
    ⟨fun ⟨h₁, h₂, h₃, h₄, h₅⟩ => ⟨h₁, h₂, h₃, h₄, h₅⟩,
      fun ⟨h₁, h₂, h₃, h₄, h₅⟩ => ⟨h₁, h₂, h₃, h₄, h₅⟩⟩

/-- A name that is not UTF-8 is kept as its bytes; no path leads to it. -/
inductive EntryName where
  | text (name : Text)
  | bytes (name : List UInt8)
  deriving DecidableEq, Repr

namespace EntryName

def text? : EntryName → Option Text
  | text t => some t
  | bytes _ => none

def utf8 : EntryName → List UInt8
  | text t => t.utf8
  | bytes b => b

/-- What an entry can be called. -/
def Valid : EntryName → Prop
  | text t => FileName t
  | bytes b => Utf8.text? b = none

instance (name : EntryName) : Decidable name.Valid :=
  match name with
  | text t => inferInstanceAs (Decidable (FileName t))
  | bytes b => inferInstanceAs (Decidable (Utf8.text? b = none))

end EntryName

inductive Node where
  | folder
  | file
  | link (target : Text)
  deriving DecidableEq, Repr

/-- The names on the way to the root, from the entry's own name on. The root is the empty list. -/
abbrev Location := List EntryName

/-- Entries with the places where they are, and the place of the current folder. Every entry has a
name and is in a folder, which is another entry or the root; the current folder may be gone. There
are no permissions: a folder that a path leads to can be read and written. -/
structure FileSystem where
  nodes : List (Location × Node)
  current : Location
  distinct : (nodes.map Prod.fst).Nodup
  named : ∀ e ∈ nodes, ∃ name ∈ e.1.head?, name.Valid
  grounded : ∀ e ∈ nodes, e.1.tail = [] ∨ (e.1.tail, .folder) ∈ nodes
  deriving DecidableEq, Repr

namespace FileSystem

variable {fs : FileSystem} {loc : Location} {n : Node} {name : EntryName}

def empty (current : Location) : FileSystem where
  nodes := []
  current := current
  distinct := .nil
  named _ h := nomatch h
  grounded _ h := nomatch h

/-- The root is a folder in every file system. -/
def node? (fs : FileSystem) (loc : Location) : Option Node :=
  if loc = [] then some .folder else (fs.nodes.find? fun e => e.1 = loc).map (·.2)

def isFolderAt (fs : FileSystem) (loc : Location) : Bool := fs.node? loc = some .folder

theorem mem_nodes_of_node? (h : fs.node? (name :: loc) = some n) :
    (name :: loc, n) ∈ fs.nodes := by
  rw [node?, if_neg (List.cons_ne_nil _ _)] at h
  obtain ⟨e, he, rfl⟩ := Option.map_eq_some_iff.1 h
  have hloc := List.find?_some he
  rw [← of_decide_eq_true hloc]
  exact List.mem_of_find?_eq_some he

/-- A new entry of some name can be put into a folder. -/
structure Room (fs : FileSystem) (name : EntryName) (loc : Location) : Prop where
  valid : name.Valid
  folder : fs.isFolderAt loc = true
  free : fs.node? (name :: loc) = none

theorem Room.not_mem (room : fs.Room name loc) : name :: loc ∉ fs.nodes.map Prod.fst := by
  intro hmem
  obtain ⟨e, he, heq⟩ := List.mem_map.1 hmem
  have hfree := room.free
  rw [node?, if_neg (List.cons_ne_nil _ _), Option.map_eq_none_iff, List.find?_eq_none] at hfree
  exact hfree e he (decide_eq_true heq)

theorem Room.folder_mem (room : fs.Room name loc) : loc = [] ∨ (loc, .folder) ∈ fs.nodes := by
  cases loc with
  | nil => exact .inl rfl
  | cons parent above => exact .inr (mem_nodes_of_node? (of_decide_eq_true room.folder))

instance (fs : FileSystem) (name : EntryName) (loc : Location) : Decidable (fs.Room name loc) :=
  decidable_of_iff (name.Valid ∧ fs.isFolderAt loc = true ∧ fs.node? (name :: loc) = none)
    ⟨fun ⟨valid, folder, free⟩ => ⟨valid, folder, free⟩,
      fun room => ⟨room.valid, room.folder, room.free⟩⟩

def add (fs : FileSystem) (n : Node) (room : fs.Room name loc) : FileSystem where
  nodes := fs.nodes ++ [(name :: loc, n)]
  current := fs.current
  distinct := by
    rw [List.map_append, List.nodup_append]
    refine ⟨fs.distinct, by simp, fun a ha b hb => ?_⟩
    rintro rfl
    cases List.mem_singleton.1 hb
    exact room.not_mem ha
  named := by
    intro e he
    rcases List.mem_append.1 he with he | he
    · exact fs.named e he
    · cases List.mem_singleton.1 he
      exact ⟨name, rfl, room.valid⟩
  grounded := by
    intro e he
    rcases List.mem_append.1 he with he | he
    · exact (fs.grounded e he).imp_right (List.mem_append_left _)
    · cases List.mem_singleton.1 he
      exact room.folder_mem.imp_right (List.mem_append_left _)

/-- The path of an entry from the root; the byte of a slash is 47. -/
def pathOf : Location → List UInt8
  | [] => [47]
  | [name] => 47 :: name.utf8
  | name :: parent => pathOf parent ++ 47 :: name.utf8

def currentPath (fs : FileSystem) : List UInt8 := pathOf fs.current

/-- The path of the current folder, unless that has been taken away. -/
def currentPath? (fs : FileSystem) : Except FileError (List UInt8) :=
  if fs.isFolderAt fs.current then .ok fs.currentPath else .error .notFound

/-- The names in a folder. -/
def namesIn (fs : FileSystem) (folder : Location) : List EntryName :=
  fs.nodes.filterMap fun e =>
    match e.1 with
    | [] => none
    | n :: parent => if parent = folder then some n else none

end FileSystem

end PathTemplates
