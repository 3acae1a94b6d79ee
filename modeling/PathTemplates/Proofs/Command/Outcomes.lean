import PathTemplates.Command.Run
import PathTemplates.Proofs.Listing.Refusals
import PathTemplates.Proofs.Listing.Restriction
import PathTemplates.Proofs.State.Consistency
import PathTemplates.Proofs.Template.RoundTrip

namespace PathTemplates

variable {fs : FileSystem} {options : CrumbSettings} {c : Crumb}

namespace Words

variable {w : Words} {k : OptionKey}

end Words

namespace Invocation

variable {w before after : Words} {k : OptionKey} {words : List Text} {i : Invocation}

/-- What the words before and after the name of a command say together. -/
structure Gives (before after : Words) (name : String) (i : Invocation) : Prop where
  command : readCommand name after = some i.command
  once : before.noRepetition (OptionKey.shared ++ ownKeys name) = true
  onceAfter : after.noRepetition (OptionKey.shared ++ ownKeys name) = true
  legible : sharedValuesRead before = true
  legibleAfter : sharedValuesRead after = true
  mode : (one readMode (nearest before after .mode)).map (·.getD .glob) = some i.mode
  format : (one readFormat (nearest before after .format)).map (·.getD .human) = some i.format
  ignore : i.ignore = nearest before after .ignore
  all : i.all = !(nearest before after .all).isEmpty
  quiet : i.quiet = !(nearest before after .quiet).isEmpty

theorem read_eq_some_iff : read words = some i ↔ ∃ before name rest after,
    Words.read OptionKey.shared true words = some before ∧ before.plain = name :: rest ∧
    Words.read (OptionKey.shared ++ ownKeys (String.ofList name)) false rest = some after ∧
    Gives before after (String.ofList name) i := by
  constructor
  · intro h
    unfold read at h
    obtain ⟨before, hbefore, h⟩ := Option.bind_eq_some_iff.1 h
    split at h
    · cases h
    · next name rest hplain =>
      obtain ⟨after, hafter, h⟩ := Option.bind_eq_some_iff.1 h
      obtain ⟨command, hcommand, h⟩ := Option.bind_eq_some_iff.1 h
      split at h
      · next hallowed =>
        obtain ⟨mode, hmode, h⟩ := Option.bind_eq_some_iff.1 h
        obtain ⟨format, hformat, h⟩ := Option.bind_eq_some_iff.1 h
        cases h
        simp only [Bool.and_eq_true] at hallowed
        obtain ⟨⟨⟨honce, honce'⟩, hlegible⟩, hlegible'⟩ := hallowed
        exact ⟨before, name, rest, after, hbefore, hplain, hafter, hcommand, honce, honce',
          hlegible, hlegible', by rw [hmode]; rfl, by rw [hformat]; rfl, rfl, rfl, rfl⟩
      · cases h
  · rintro ⟨before, name, rest, after, hbefore, hplain, hafter, h⟩
    obtain ⟨mode, hmode, hmode'⟩ := Option.map_eq_some_iff.1 h.mode
    obtain ⟨format, hformat, hformat'⟩ := Option.map_eq_some_iff.1 h.format
    simp [read, hbefore, hplain, hafter, h.command, h.once, h.onceAfter, h.legible, h.legibleAfter,
      hmode, hformat, hmode', hformat', ← h.ignore, ← h.all, ← h.quiet]

end Invocation

namespace Crumb

end Crumb

namespace Command

variable {crumb : Text}

/-- The texts of the crumbs. -/
def crumbs : Command → List Text
  | list crumb _ => [crumb]
  | intersect j | difference j => [j.first, j.second]
  | makeTree crumb _ => [crumb]

/-- The text stands for a pattern in the command: that of a placeholder or that of the target. -/
inductive Spells (k : Command) (text : Text) : Prop
  | placeholder {source : Text} {t : Template} {p : Placeholder} (given : source ∈ k.crumbs)
      (reads : Template.read source = .ok t) (mem : p ∈ t.placeholders)
      (constraint : p.constraint = some text)
  | target {source target : Text} (listing : k = .list source (some target))
      (pattern : (Crumb.Target.read target).pattern = some text)

end Command

namespace Invocation

variable {i : Invocation} {words : List Text} {result : Except (Failure CrumbError) Report}

end Invocation

end PathTemplates
