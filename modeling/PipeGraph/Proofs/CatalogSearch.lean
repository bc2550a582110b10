import Mathlib.Data.List.Infix
import PipeGraph.Catalog.Basic

/-!
# Searching a catalog

A filter selects the commands in whose name or category it occurs, and whatever
it occurs in, its parts occur in as well.  So a longer filter selects from what
its parts select.  A command is among those that its own name selects, which is
why looking a name up there or in the whole catalog comes to the same.
-/

namespace PipeGraph

theorem Text.contains_iff {part text : List Char} :
    contains part text = true ↔ part <:+: text := by
  induction text with
  | nil => rw [contains, List.isEmpty_iff, List.infix_nil]
  | cons first rest ih =>
      rw [contains, Bool.or_eq_true, List.isPrefixOf_iff_prefix, ih,
        List.infix_cons_iff]

namespace Signature

variable {text part : String} {command : Signature}

theorem matchesFilter_iff :
    command.matchesFilter text = true ↔
      text.toList <:+: command.name.toList ∨
        text.toList <:+: command.category.toList := by
  rw [matchesFilter, Bool.or_eq_true, Bool.or_eq_true, Text.contains_iff,
    Text.contains_iff]
  constructor
  · rintro ((isEmpty | inName) | inCategory)
    · rw [String.isEmpty_iff] at isEmpty
      subst isEmpty
      exact .inl List.nil_infix
    · exact .inl inName
    · exact .inr inCategory
  · rintro (inName | inCategory)
    · exact .inl (.inr inName)
    · exact .inr inCategory

/-- What a filter selects, every part of the filter selects. -/
theorem matchesFilter_of_isInfix (isPart : part.toList <:+: text.toList)
    (selected : command.matchesFilter text = true) :
    command.matchesFilter part = true := by
  rw [matchesFilter_iff] at selected ⊢
  exact selected.imp isPart.trans isPart.trans

theorem matchesFilter_name (command : Signature) :
    command.matchesFilter command.name = true :=
  matchesFilter_iff.mpr (.inl (List.infix_refl _))

end Signature

/-- A command is the first one of a given name in a list. -/
def FirstNamed (name : String) (commands : List Signature)
    (command : Signature) : Prop :=
  command.name = name ∧ ∃ before after,
    commands = before ++ command :: after ∧
      ∀ other ∈ before, other.name ≠ name

theorem find?_eq_some_iff_firstNamed {name : String}
    {commands : List Signature} {command : Signature} :
    (commands.find? fun other => other.name == name) = some command ↔
      FirstNamed name commands command := by
  simp [FirstNamed, List.find?_eq_some_iff_append]

namespace Catalog

variable {part text name : String} {command : Signature}

theorem mem_filter_iff {catalog : Catalog} :
    command ∈ catalog.filter text ↔ command ∈ catalog.commands ∧
      (text.toList <:+: command.name.toList ∨
        text.toList <:+: command.category.toList) := by
  rw [filter, List.mem_filter, Signature.matchesFilter_iff]

/-- A filter selects from what a part of it selects. -/
theorem filter_eq_filter_of_isInfix (catalog : Catalog)
    (isPart : part.toList <:+: text.toList) :
    catalog.filter text =
      (catalog.filter part).filter (Signature.matchesFilter text) := by
  rw [filter, filter, List.filter_filter]
  apply List.filter_congr
  intro command _
  rw [Bool.eq_iff_iff, Bool.and_eq_true]
  constructor
  · intro selected
    exact ⟨selected, Signature.matchesFilter_of_isInfix isPart selected⟩
  · exact And.left

/-- A name is found among the commands that it selects exactly as it is found
in the catalog. -/
theorem find?_filter_name (catalog : Catalog) (name : String) :
    ((catalog.filter name).find? fun command => command.name == name) =
      catalog.get? name := by
  rw [filter, List.find?_filter, get?]
  congr 1
  funext command
  rw [Bool.eq_iff_iff, decide_eq_true_iff]
  constructor
  · exact And.right
  · intro named
    have selected := command.matchesFilter_name
    rw [beq_iff_eq.mp named] at selected
    exact ⟨selected, named⟩

/-- Filters select what they occur in, and typing more of a filter leaves out
commands but never adds or moves one.  A name is looked up among the commands
that it selects as well as among all of them. -/
theorem filter_narrows (catalog : Catalog) :
    catalog.filter "" = catalog.commands ∧
    (∀ text command, command ∈ catalog.filter text ↔
      command ∈ catalog.commands ∧
        (text.toList <:+: command.name.toList ∨
          text.toList <:+: command.category.toList)) ∧
    (∀ part text : String, part.toList <:+: text.toList →
      (catalog.filter text).Sublist (catalog.filter part) ∧
        catalog.filter text =
          (catalog.filter part).filter (Signature.matchesFilter text)) ∧
    (∀ name command, catalog.get? name = some command ↔
      FirstNamed name catalog.commands command) ∧
    (∀ name command, catalog.get? name = some command ↔
      FirstNamed name (catalog.filter name) command) ∧
    (∀ name, catalog.get? name = none ↔
      ∀ command ∈ catalog.filter name, command.name ≠ name) := by
  refine ⟨?_, fun _ _ => mem_filter_iff, ?_, ?_, ?_, ?_⟩
  · exact List.filter_eq_self.mpr fun _ _ => rfl
  · intro part text isPart
    have selects := catalog.filter_eq_filter_of_isInfix isPart
    refine ⟨?_, selects⟩
    rw [selects]
    exact List.filter_sublist
  · intro name command
    exact find?_eq_some_iff_firstNamed
  · intro name command
    rw [← find?_filter_name]
    exact find?_eq_some_iff_firstNamed
  · intro name
    rw [← find?_filter_name, List.find?_eq_none]
    simp only [beq_iff_eq, ne_eq]

/-- A command known by no more than its name and category. -/
def listed (name category : String) : Signature :=
  ⟨name, category, "built-in", "", .null, [], ""⟩

/-- Two commands of one name behind a command in whose category the name
occurs. -/
def palette : Catalog :=
  ⟨[listed "größe" "tools", listed "ls" "system", listed "last" "filters",
    listed "ls" "aliases"]⟩

theorem palette_filter_narrows :
    (palette.filter "l").map Signature.name = ["größe", "ls", "last", "ls"] ∧
    (palette.filter "ls").map Signature.name = ["größe", "ls", "ls"] ∧
    (palette.filter "ls").Sublist (palette.filter "l") ∧
    FirstNamed "ls" (palette.filter "ls") (listed "ls" "system") ∧
    palette.get? "l" = none := by
  obtain ⟨-, -, narrows, -, foundBySearch, absent⟩ := palette.filter_narrows
  refine ⟨by decide, by decide, ?_, ?_, ?_⟩
  · exact (narrows "l" "ls" (by decide)).1
  · exact (foundBySearch "ls" _).mp rfl
  · exact (absent "l").mpr (by decide)

end Catalog

end PipeGraph
