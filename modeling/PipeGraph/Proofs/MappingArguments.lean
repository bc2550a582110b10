import Mathlib.Data.List.TakeWhile
import PipeGraph.CommandLine.Options
import PipeGraph.Proofs.Outcome

/-!
# Type mappings on the command line

What arguments say about the options that take a value, and which values they
give for type mappings.  The mappings that are read are these values in order,
each split at its first equals sign.
-/

namespace PipeGraph

namespace CommandLine

/-- A mapping is split at the first equals sign. -/
def SplitsAs (value : String) (mapping : String × String) : Prop :=
  value = mapping.1 ++ "=" ++ mapping.2 ∧ '=' ∉ mapping.1.toList

/-- What an argument says about an option that takes a value: nothing, or the
option with the value that may be attached to it. -/
abbrev Mention := Option (ValueOption × Option String)

/-- Letters behind one dash. -/
inductive ShortMentions : List Char → Mention → Prop
  | nil : ShortMentions [] none
  | plain {letter : Char} {letters : List Char} {switch : Switch}
      {mention : Mention} :
      KnownOption.ofShort? letter = some (.plain switch) →
        ShortMentions letters mention →
          ShortMentions (letter :: letters) mention
  | awaiting {letter : Char} {option : ValueOption} :
      KnownOption.ofShort? letter = some (.taking option) →
        ShortMentions [letter] (some (option, none))
  | attached {letter first : Char} {value : List Char}
      {option : ValueOption} :
      KnownOption.ofShort? letter = some (.taking option) → first ≠ '=' →
        ShortMentions (letter :: first :: value)
          (some (option, some (String.ofList (first :: value))))
  | attachedByEquals {letter : Char} {value : List Char}
      {option : ValueOption} :
      KnownOption.ofShort? letter = some (.taking option) →
        ShortMentions (letter :: '=' :: value)
          (some (option, some (String.ofList value)))

/-- One argument before the end of the options. -/
inductive Mentions : String → Mention → Prop
  | path {argument : String} :
      looksLikeOption argument = false → Mentions argument none
  | short {letters : List Char} {mention : Mention} :
      ShortMentions letters mention →
        Mentions (String.ofList ('-' :: letters)) mention
  | longSwitch {name : String} {switch : Switch} :
      KnownOption.ofLong? name = some (.plain switch) →
        Mentions ("--" ++ name) none
  | long (option : ValueOption) :
      Mentions ("--" ++ option.name) (some (option, none))
  | longAttached (option : ValueOption) (value : String) :
      Mentions ("--" ++ option.name ++ "=" ++ value)
        (some (option, some value))

/-- The values that an option adds to those of type mappings. -/
def ValueOption.mappingValues : ValueOption → String → List String
  | typeMap, value => [value]
  | _, _ => []

/-- The values that arguments give for type mappings, in order. -/
inductive MappingValues : List String → List String → Prop
  | none : MappingValues [] []
  | ended (paths : List String) : MappingValues ("--" :: paths) []
  | unrelated {argument : String} {arguments values : List String} :
      Mentions argument none → MappingValues arguments values →
        MappingValues (argument :: arguments) values
  | attached {argument value : String} {option : ValueOption}
      {arguments values : List String} :
      Mentions argument (some (option, some value)) →
        MappingValues arguments values →
          MappingValues (argument :: arguments)
            (option.mappingValues value ++ values)
  | separate {argument value : String} {option : ValueOption}
      {arguments values : List String} :
      Mentions argument (some (option, Option.none)) →
        MappingValues arguments values →
          MappingValues (argument :: value :: arguments)
            (option.mappingValues value ++ values)

section Splitting

theorem splitAtEquals?_eq_some_iff {text before after : List Char} :
    splitAtEquals? text = some (before, after) ↔
      text = before ++ '=' :: after ∧ '=' ∉ before := by
  constructor
  · intro split
    rw [splitAtEquals?] at split
    cases found : text.dropWhile (· != '=') with
    | nil =>
        rw [found] at split
        cases split
    | cons first rest =>
        rw [found] at split
        cases split
        have notNil : text.dropWhile (· != '=') ≠ [] := by
          rw [found]
          exact List.cons_ne_nil _ _
        have isEquals : first = '=' := by
          simpa [found] using List.head_dropWhile_not (· != '=') notNil
        subst isEquals
        refine ⟨?_, ?_⟩
        · rw [← found, List.takeWhile_append_dropWhile]
        · intro member
          simpa using List.mem_takeWhile_imp member
  · rintro ⟨rfl, absent⟩
    have passed : ∀ character ∈ before, (character != '=') = true := by
      intro character member
      simp only [bne_iff_ne]
      rintro rfl
      exact absent member
    rw [splitAtEquals?, List.dropWhile_append_of_pos passed,
      List.takeWhile_append_of_pos passed]
    simp

theorem typeMapping?_eq_some_iff {value : String}
    {mapping : String × String} :
    typeMapping? value = some mapping ↔ SplitsAs value mapping := by
  obtain ⟨userType, canonicalType⟩ := mapping
  have written : value = userType ++ "=" ++ canonicalType ↔
      value.toList = userType.toList ++ '=' :: canonicalType.toList := by
    rw [← String.toList_inj]
    simp
  rw [typeMapping?, Option.map_eq_some_iff, SplitsAs, written]
  constructor
  · rintro ⟨⟨before, after⟩, split, named⟩
    cases named
    simpa using splitAtEquals?_eq_some_iff.mp split
  · intro split
    exact ⟨_, splitAtEquals?_eq_some_iff.mpr split, by simp⟩

end Splitting

/-- The later of two choices has mappings for some more values. -/
def Choices.Extends (earlier later : Choices) (values : List String) : Prop :=
  ∃ mappings, later.typeMappings = earlier.typeMappings ++ mappings ∧
    List.Forall₂ SplitsAs values mappings

/-- What one argument leads to, by what it mentions. -/
def Step.Follows (choices : Choices) (mentions : Mention → Prop) :
    Step → Prop
  | next later =>
      (mentions none ∧ choices.Extends later []) ∨
        ∃ option value, mentions (some (option, some value)) ∧
          choices.Extends later (option.mappingValues value)
  | await option later =>
      mentions (some (option, none)) ∧ choices.Extends later []
  | showVersion | showHelp => True

section Steps

variable {choices middle later : Choices}

theorem Choices.extends_of_eq
    (same : later.typeMappings = choices.typeMappings) :
    choices.Extends later [] :=
  ⟨[], by rw [same, List.append_nil], .nil⟩

theorem Choices.Extends.trans {values others : List String}
    (first : choices.Extends middle values)
    (second : middle.Extends later others) :
    choices.Extends later (values ++ others) := by
  obtain ⟨mappings, isMiddle, split⟩ := first
  obtain ⟨otherMappings, isLater, otherSplit⟩ := second
  refine ⟨mappings ++ otherMappings, ?_, List.rel_append split otherSplit⟩
  rw [isLater, isMiddle, List.append_assoc]

theorem Choices.extends_of_take {option : ValueOption} {value : String}
    (taken : choices.take option value = .ok later) :
    choices.Extends later (option.mappingValues value) := by
  rw [Choices.take.eq_def] at taken
  cases option with
  | emit =>
      simp only at taken
      split at taken
      · cases taken
      · cases taken
      · cases taken
        exact extends_of_eq rfl
  | typeMap =>
      simp only at taken
      split at taken
      · cases taken
      · next mapping split =>
          cases taken
          exact ⟨[mapping], rfl,
            .cons (typeMapping?_eq_some_iff.mp split) .nil⟩
  | catalog =>
      simp only at taken
      split at taken
      · cases taken
      · cases taken
        exact extends_of_eq rfl

theorem Choices.extends_of_takePath {path : String}
    (taken : choices.takePath path = .ok later) :
    choices.Extends later [] := by
  rw [Choices.takePath] at taken
  split at taken
  · cases taken
  · cases taken
    exact extends_of_eq rfl

theorem follows_turnOn {switch : Switch} {mentions : Mention → Prop}
    (mentioned : mentions none) {result : Step}
    (turned : choices.turnOn switch = .ok result) :
    result.Follows choices mentions := by
  cases switch with
  | strictPipes =>
      rw [Choices.turnOn] at turned
      split at turned
      · cases turned
      · cases turned
        exact .inl ⟨mentioned, Choices.extends_of_eq rfl⟩
  | verbose =>
      cases turned
      exact .inl ⟨mentioned, Choices.extends_of_eq rfl⟩
  | version =>
      cases turned
      exact trivial
  | help =>
      cases turned
      exact trivial

theorem follows_take {option : ValueOption} {value : String}
    {mentions : Mention → Prop}
    (mentioned : mentions (some (option, some value))) {result : Step}
    (taken : (choices.take option value).map Step.next = .ok result) :
    result.Follows choices mentions := by
  cases took : choices.take option value with
  | error fault =>
      rw [took] at taken
      cases taken
  | ok later =>
      rw [took] at taken
      cases taken
      exact .inr ⟨option, value, mentioned, Choices.extends_of_take took⟩

theorem Step.Follows.mono {mentions others : Mention → Prop} {result : Step}
    (follows : result.Follows middle mentions)
    (extended : choices.Extends middle [])
    (weaken : ∀ mention, mentions mention → others mention) :
    result.Follows choices others := by
  cases result with
  | next later =>
      obtain ⟨mentioned, more⟩ | ⟨option, value, mentioned, more⟩ := follows
      · exact .inl ⟨weaken _ mentioned, extended.trans more⟩
      · exact .inr ⟨option, value, weaken _ mentioned, extended.trans more⟩
  | await option later =>
      exact ⟨weaken _ follows.1, extended.trans follows.2⟩
  | showVersion => exact trivial
  | showHelp => exact trivial

theorem attachedValue_of_ne {first : Char} (value : List Char)
    (notEquals : first ≠ '=') :
    attachedValue (first :: value) = String.ofList (first :: value) := by
  rw [attachedValue]
  intro rest isEquals
  exact notEquals (List.cons.inj isEquals).1

/-- Letters behind one dash: switches, and then an option with its value. -/
theorem follows_shortStep {letters : List Char} {result : Step}
    (stepped : shortStep choices letters = .ok result) :
    result.Follows choices (ShortMentions letters) := by
  induction letters generalizing choices with
  | nil =>
      cases stepped
      exact .inl ⟨.nil, Choices.extends_of_eq rfl⟩
  | cons letter letters ih =>
      rw [shortStep] at stepped
      cases known : KnownOption.ofShort? letter with
      | none =>
          rw [known] at stepped
          cases stepped
      | some option =>
          rw [known] at stepped
          cases option with
          | taking option =>
              cases letters with
              | nil =>
                  cases stepped
                  exact ⟨.awaiting known, Choices.extends_of_eq rfl⟩
              | cons first value =>
                  replace stepped : (choices.take option
                      (attachedValue (first :: value))).map Step.next =
                    .ok result := stepped
                  by_cases isEquals : first = '='
                  · subst isEquals
                    exact follows_take (.attachedByEquals known) stepped
                  · rw [attachedValue_of_ne value isEquals] at stepped
                    exact follows_take (.attached known isEquals) stepped
          | plain switch =>
              -- A switch says nothing of values: the rest of the letters does.
              cases turned : choices.turnOn switch with
              | error fault =>
                  simp only [turned] at stepped
                  cases stepped
              | ok middle =>
                  have follows := @follows_turnOn _ _ (· = none) rfl _ turned
                  simp only [turned] at stepped
                  cases middle with
                  | next middle =>
                      obtain ⟨-, extended⟩ | ⟨_, _, never, -⟩ := follows
                      · exact (ih stepped).mono extended fun _ => .plain known
                      · cases never
                  | await option middle => cases follows.1
                  | showVersion =>
                      cases stepped
                      exact trivial
                  | showHelp =>
                      cases stepped
                      exact trivial

theorem ofLong?_taking {name : String} {option : ValueOption}
    (known : KnownOption.ofLong? name = some (.taking option)) :
    name = option.name := by
  unfold KnownOption.ofLong? at known
  split at known <;> cases known <;> rfl

/-- A long option with the value that may be attached to it. -/
def longArgument (name : String) : Option String → String
  | none => "--" ++ name
  | some value => "--" ++ name ++ "=" ++ value

theorem follows_longStep {name : String} {value : Option String}
    {result : Step} (stepped : longStep choices name value = .ok result) :
    result.Follows choices (Mentions (longArgument name value)) := by
  rw [longStep.eq_def] at stepped
  cases known : KnownOption.ofLong? name with
  | none =>
      rw [known] at stepped
      cases stepped
  | some option =>
      rw [known] at stepped
      cases option with
      | taking option =>
          obtain rfl := ofLong?_taking known
          cases value with
          | none =>
              cases stepped
              exact ⟨.long option, Choices.extends_of_eq rfl⟩
          | some value =>
              exact follows_take (.longAttached option value) stepped
      | plain switch =>
          cases value with
          | none => exact follows_turnOn (.longSwitch known) stepped
          | some value => cases stepped

theorem follows_step {argument : String} {result : Step}
    (stepped : step choices argument = .ok result) :
    result.Follows choices (Mentions argument) := by
  rw [step.eq_def] at stepped
  split at stepped
  · next name isLong =>
      split at stepped
      · have isArgument :
            argument = longArgument (String.ofList name) none := by
          rw [← String.toList_inj, isLong]
          simp [longArgument]
        rw [isArgument]
        exact follows_longStep stepped
      · next before after split =>
          obtain ⟨rfl, -⟩ := splitAtEquals?_eq_some_iff.mp split
          have isArgument : argument =
              longArgument (String.ofList before)
                (some (String.ofList after)) := by
            rw [← String.toList_inj, isLong]
            simp [longArgument]
          rw [isArgument]
          exact follows_longStep stepped
  · next letter letters _ isShort =>
      have isArgument :
          argument = String.ofList ('-' :: letter :: letters) := by
        rw [← String.toList_inj, isShort, String.toList_ofList]
      rw [isArgument]
      exact (follows_shortStep stepped).mono (Choices.extends_of_eq rfl)
        fun _ => .short
  · next notLong notShort =>
      have isPath : looksLikeOption argument = false := by
        rw [looksLikeOption]
        split
        · next letter letters isShort => exact absurd isShort (notShort _ _)
        · rfl
      cases taken : choices.takePath argument with
      | error fault =>
          rw [taken] at stepped
          cases stepped
      | ok later =>
          rw [taken] at stepped
          cases stepped
          exact .inl ⟨.path isPath, Choices.extends_of_takePath taken⟩

end Steps

theorem Choices.extends_of_foldlM_takePath {choices final : Choices}
    {paths : List String}
    (taken : paths.foldlM Choices.takePath choices = .ok final) :
    choices.Extends final [] := by
  induction paths generalizing choices with
  | nil =>
      cases taken
      exact extends_of_eq rfl
  | cons path paths ih =>
      obtain ⟨middle, takenPath, takenPaths⟩ := bind_eq_ok_iff.mp taken
      exact (extends_of_takePath takenPath).trans (ih takenPaths)

/-- The mappings that are read are the values that the arguments give, each
split at its first equals sign. -/
theorem exists_mappingValues {choices : Choices} {arguments : List String}
    {options : Options}
    (read : readArguments choices arguments = .ok (.compile options)) :
    ∃ values final, MappingValues arguments values ∧
      choices.Extends final values ∧ final.options = options := by
  -- An option may take the next argument, so the induction is on the length.
  induction isLength : arguments.length using Nat.strong_induction_on
    generalizing choices arguments with
  | _ length ih =>
  cases arguments with
  | nil =>
      cases read
      exact ⟨[], choices, .none, Choices.extends_of_eq rfl, rfl⟩
  | cons argument rest =>
      by_cases isEnd : argument = "--"
      · subst isEnd
        rw [readArguments] at read
        obtain ⟨final, taken, returned⟩ := bind_eq_ok_iff.mp read
        cases returned
        exact ⟨[], final, .ended rest,
          Choices.extends_of_foldlM_takePath taken, rfl⟩
      · rw [readArguments.eq_3 _ _ _ isEnd] at read
        obtain ⟨result, stepped, continued⟩ := bind_eq_ok_iff.mp read
        have follows := follows_step stepped
        rw [List.length_cons] at isLength
        cases result with
        | next later =>
            obtain ⟨values, final, areValues, extended, isFinal⟩ :=
              ih rest.length (by omega) continued rfl
            obtain ⟨mentioned, more⟩ | ⟨option, value, mentioned, more⟩ :=
              follows
            · exact ⟨values, final, .unrelated mentioned areValues,
                more.trans extended, isFinal⟩
            · exact ⟨_, final, .attached mentioned areValues,
                more.trans extended, isFinal⟩
        | await option later =>
            obtain ⟨mentioned, same⟩ := follows
            cases rest with
            | nil => cases continued
            | cons value rest =>
                rw [List.length_cons] at isLength
                simp only at continued
                split at continued
                · cases continued
                · obtain ⟨middle, taken, continued⟩ :=
                    bind_eq_ok_iff.mp continued
                  obtain ⟨values, final, areValues, extended, isFinal⟩ :=
                    ih rest.length (by omega) continued rfl
                  have more := same.trans (Choices.extends_of_take taken)
                  exact ⟨_, final, .separate mentioned areValues,
                    more.trans extended, isFinal⟩
        | showVersion => cases continued
        | showHelp => cases continued

end CommandLine

end PipeGraph
