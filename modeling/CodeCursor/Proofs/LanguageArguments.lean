import CodeCursor.Index

/-!
# Languages fixed by arguments

Arguments are read from left to right in groups: the flag `-x` with the argument after it, whatever
that is, the flag with a language name joined to it, or an argument that is passed over.  Settings
whose arguments are such groups, with known names only, fix the language of the last name.  All
others are refused, and the cause is the first place where no such group begins.
-/

namespace CodeCursor

namespace Settings

/-- Whether an argument is allowed and has no effect. -/
def isPassedOver (argument : String) : Bool :=
  ignoredOpenings.any (Text.beginsWith argument ·)

/-- A group of arguments that is read at a time. -/
inductive ArgumentGroup where
  | apart (name : String)
  | joined (name : String) (nonempty : name ≠ "")
  | passedOver (argument : String) (allowed : isPassedOver argument = true)

namespace ArgumentGroup

def arguments : ArgumentGroup → List String
  | apart name => ["-x", name]
  | joined name _ => ["-x" ++ name]
  | passedOver argument _ => [argument]

def language? : ArgumentGroup → Option String
  | apart name => some name
  | joined name _ => some name
  | passedOver _ _ => none

def dialect? (group : ArgumentGroup) : Option Dialect :=
  group.language?.bind Dialect.ofCompilerName?

/-- Whether the language of the group, if it names one, has a dialect. -/
def IsKnown (group : ArgumentGroup) : Prop :=
  ∀ name ∈ group.language?, ∃ dialect, Dialect.ofCompilerName? name = some dialect

theorem arguments_ne_nil (group : ArgumentGroup) : group.arguments ≠ [] := by
  cases group <;> simp [arguments]

end ArgumentGroup

/-- The dialect of the last group that names a language. -/
def lastDialect? (groups : List ArgumentGroup) : Option Dialect :=
  (groups.filterMap (·.dialect?)).getLast?

/-- Arguments that begin with no group, or with one that names an unknown language, and the cause
for which they are refused. -/
inductive Offends : List String → SetupError → Prop
  | valueless : Offends ["-x"] (.invalidArgument "-x")
  | apart {name : String} {rest : List String} (unknown : Dialect.ofCompilerName? name = none) :
      Offends ("-x" :: name :: rest) (.unsupportedLanguage name)
  | joined {name : String} {rest : List String} (nonempty : name ≠ "")
      (unknown : Dialect.ofCompilerName? name = none) :
      Offends (("-x" ++ name) :: rest) (.unsupportedLanguage name)
  | foreign {argument : String} {rest : List String}
      (unflagged : Text.beginsWith argument "-x" = false)
      (refused : isPassedOver argument = false) :
      Offends (argument :: rest) (.invalidArgument argument)

theorem isPassedOver_flag (name : String) : isPassedOver ("-x" ++ name) = false := by
  simp [isPassedOver, ignoredOpenings, Text.beginsWith, List.isPrefixOf]

theorem flag_append_eq_flag_iff {name : String} : "-x" ++ name = "-x" ↔ name = "" := by
  rw [← String.toList_inj, String.toList_append, List.append_right_eq_self,
    String.toList_eq_nil_iff]

theorem namedDialect_of_known {name : String} {dialect : Dialect}
    (known : Dialect.ofCompilerName? name = some dialect) : namedDialect name = .ok dialect := by
  rw [namedDialect, known]

theorem namedDialect_of_unknown {name : String} (unknown : Dialect.ofCompilerName? name = none) :
    namedDialect name = .error (.unsupportedLanguage name) := by
  rw [namedDialect, unknown]

section
variable (found : Option Dialect) (rest : List String)

theorem languageAfter_apart (name : String) :
    languageAfter found ("-x" :: name :: rest) =
      (namedDialect name).bind fun dialect => languageAfter (some dialect) rest := by
  rw [languageAfter, if_pos rfl]
  cases namedDialect name <;> rfl

theorem languageAfter_joined {name : String} (nonempty : name ≠ "") :
    languageAfter found (("-x" ++ name) :: rest) =
      (namedDialect name).bind fun dialect => languageAfter (some dialect) rest := by
  have hne : ¬"-x" ++ name = "-x" := fun h => nonempty (flag_append_eq_flag_iff.1 h)
  have hname : String.ofList (("-x" ++ name).toList.drop 2) = name := by simp
  rw [languageAfter.eq_def]
  simp only []
  rw [if_neg hne, if_pos (Text.beginsWith_iff.2 ⟨name, rfl⟩), hname]
  cases namedDialect name <;> rfl

theorem languageAfter_unflagged {argument : String}
    (unflagged : Text.beginsWith argument "-x" = false) :
    languageAfter found (argument :: rest) =
      if isPassedOver argument then languageAfter found rest
      else .error (.invalidArgument argument) := by
  have hne : argument ≠ "-x" := by
    rintro rfl
    exact absurd unflagged (by decide)
  rw [languageAfter.eq_def]
  simp only []
  rw [if_neg hne, unflagged]
  rfl

/-- A group with a known name replaces what is found before it, and one without a name keeps it. -/
theorem languageAfter_group {group : ArgumentGroup} (known : group.IsKnown) :
    languageAfter found (group.arguments ++ rest) =
      languageAfter (group.dialect?.or found) rest := by
  cases group with
  | apart name =>
    obtain ⟨dialect, hd⟩ := known name rfl
    change languageAfter found ("-x" :: name :: rest) = _
    rw [languageAfter_apart, namedDialect_of_known hd, ArgumentGroup.dialect?,
      ArgumentGroup.language?, Option.bind_some, hd]
    rfl
  | joined name nonempty =>
    obtain ⟨dialect, hd⟩ := known name rfl
    change languageAfter found (("-x" ++ name) :: rest) = _
    rw [languageAfter_joined found rest nonempty, namedDialect_of_known hd,
      ArgumentGroup.dialect?, ArgumentGroup.language?, Option.bind_some, hd]
    rfl
  | passedOver argument allowed =>
    have unflagged : Text.beginsWith argument "-x" = false := by
      rw [← Bool.not_eq_true, Text.beginsWith_iff]
      rintro ⟨name, rfl⟩
      rw [isPassedOver_flag] at allowed
      contradiction
    change languageAfter found (argument :: rest) = _
    rw [languageAfter_unflagged found rest unflagged, if_pos allowed]
    rfl

theorem languageAfter_of_offends {arguments : List String} {e : SetupError}
    (h : Offends arguments e) : languageAfter found arguments = .error e := by
  cases h with
  | valueless => rfl
  | apart unknown =>
    rw [languageAfter_apart, namedDialect_of_unknown unknown]
    rfl
  | joined nonempty unknown =>
    rw [languageAfter_joined found _ nonempty, namedDialect_of_unknown unknown]
    rfl
  | foreign unflagged refused =>
    rw [languageAfter_unflagged found _ unflagged, refused, if_neg Bool.false_ne_true]

theorem lastDialect?_cons (group : ArgumentGroup) (groups : List ArgumentGroup) :
    (lastDialect? (group :: groups)).or found =
      (lastDialect? groups).or (group.dialect?.or found) := by
  rw [lastDialect?, lastDialect?, List.filterMap_cons]
  cases group.dialect? with
  | none => rw [Option.none_or]
  | some dialect =>
    rw [List.getLast?_cons]
    cases (groups.filterMap (·.dialect?)).getLast? <;> rfl

theorem languageAfter_groups {groups : List ArgumentGroup}
    (known : ∀ group ∈ groups, group.IsKnown) :
    languageAfter found (groups.flatMap (·.arguments) ++ rest) =
      languageAfter ((lastDialect? groups).or found) rest := by
  -- Each group may change what is found, so it varies along with the groups.
  induction groups generalizing found with
  | nil => rfl
  | cons group groups ih =>
    obtain ⟨hgroup, hgroups⟩ := List.forall_mem_cons.1 known
    rw [List.flatMap_cons, List.append_assoc, languageAfter_group _ _ hgroup, ih _ hgroups,
      lastDialect?_cons]

end

/-- Arguments begin with a group whose language is known, or they offend. -/
theorem exists_group (argument : String) (rest : List String) :
    (∃ (group : ArgumentGroup) (after : List String),
      argument :: rest = group.arguments ++ after ∧ group.IsKnown) ∨
    ∃ e, Offends (argument :: rest) e := by
  cases hflag : Text.beginsWith argument "-x" with
  | false =>
    cases hallowed : isPassedOver argument with
    | false => exact .inr ⟨_, .foreign hflag hallowed⟩
    | true => exact .inl ⟨.passedOver argument hallowed, rest, rfl, by rintro _ ⟨⟩⟩
  | true =>
    obtain ⟨name, rfl⟩ := Text.beginsWith_iff.1 hflag
    by_cases hname : name = ""
    · subst hname
      cases rest with
      | nil => exact .inr ⟨_, .valueless⟩
      | cons value after =>
        cases hvalue : Dialect.ofCompilerName? value with
        | none => exact .inr ⟨_, .apart hvalue⟩
        | some dialect =>
          exact .inl ⟨.apart value, after, rfl, by rintro _ ⟨⟩; exact ⟨dialect, hvalue⟩⟩
    · cases hvalue : Dialect.ofCompilerName? name with
      | none => exact .inr ⟨_, .joined hname hvalue⟩
      | some dialect =>
        exact .inl ⟨.joined name hname, rest, rfl, by rintro _ ⟨⟩; exact ⟨dialect, hvalue⟩⟩

/-- All arguments are groups with known languages, up to their end or to the first that offend. -/
theorem exists_groups (arguments : List String) :
    ∃ (groups : List ArgumentGroup) (rest : List String),
      arguments = groups.flatMap (·.arguments) ++ rest ∧ (∀ group ∈ groups, group.IsKnown) ∧
        (rest = [] ∨ ∃ e, Offends rest e) := by
  match arguments with
  | [] => exact ⟨[], [], rfl, by simp, .inl rfl⟩
  | argument :: rest =>
    obtain ⟨group, after, heq, hknown⟩ | hoffends := exists_group argument rest
    · have hshorter : after.length < (argument :: rest).length := by
        rw [heq, List.length_append]
        have := List.length_pos_iff.2 group.arguments_ne_nil
        omega
      obtain ⟨groups, last, rfl, hgroups, hlast⟩ := exists_groups after
      refine ⟨group :: groups, last, ?_, List.forall_mem_cons.2 ⟨hknown, hgroups⟩, hlast⟩
      rw [heq, List.flatMap_cons, List.append_assoc]
    · exact ⟨[], argument :: rest, rfl, by simp, .inr hoffends⟩
termination_by arguments.length
decreasing_by exact hshorter

section
variable {arguments : List String}

theorem languageAfter_eq_ok_iff {language : Option Dialect} :
    languageAfter none arguments = .ok language ↔
      ∃ groups : List ArgumentGroup, arguments = groups.flatMap (·.arguments) ∧
        (∀ group ∈ groups, group.IsKnown) ∧ language = lastDialect? groups := by
  constructor
  · intro h
    obtain ⟨groups, rest, rfl, hknown, rfl | ⟨e, he⟩⟩ := exists_groups arguments
    · rw [languageAfter_groups _ _ hknown, Option.or_none] at h
      exact ⟨groups, List.append_nil _, hknown, (Except.ok.inj h).symm⟩
    · rw [languageAfter_groups _ _ hknown, languageAfter_of_offends _ he] at h
      contradiction
  · rintro ⟨groups, rfl, hknown, rfl⟩
    have h := languageAfter_groups none [] hknown
    rw [List.append_nil, Option.or_none] at h
    rw [h, languageAfter]

theorem languageAfter_eq_error_iff {e : SetupError} :
    languageAfter none arguments = .error e ↔
      ∃ (groups : List ArgumentGroup) (rest : List String),
        arguments = groups.flatMap (·.arguments) ++ rest ∧ (∀ group ∈ groups, group.IsKnown) ∧
          Offends rest e := by
  constructor
  · intro h
    obtain ⟨groups, rest, rfl, hknown, rfl | ⟨cause, hcause⟩⟩ := exists_groups arguments
    · rw [languageAfter_groups _ _ hknown] at h
      contradiction
    · rw [languageAfter_groups _ _ hknown, languageAfter_of_offends _ hcause] at h
      obtain rfl := Except.error.inj h
      exact ⟨groups, rest, rfl, hknown, hcause⟩
  · rintro ⟨groups, rest, rfl, hknown, he⟩
    rw [languageAfter_groups _ _ hknown, languageAfter_of_offends _ he]

/-- Arguments after others that are accepted fix what they fix alone, or else leave the language of
those before them. -/
theorem languageAfter_append {language : Option Dialect}
    (h : languageAfter none arguments = .ok language) (more : List String) :
    languageAfter none (arguments ++ more) = (languageAfter none more).map (·.or language) := by
  obtain ⟨groups, rfl, hknown, rfl⟩ := languageAfter_eq_ok_iff.1 h
  obtain ⟨later, rest, rfl, hlater, rfl | ⟨e, he⟩⟩ := exists_groups more
  · rw [languageAfter_groups _ _ hknown, languageAfter_groups _ _ hlater,
      languageAfter_groups _ _ hlater, Option.or_none, Option.or_none]
    rfl
  · rw [languageAfter_groups _ _ hknown, languageAfter_groups _ _ hlater,
      languageAfter_groups _ _ hlater, languageAfter_of_offends _ he,
      languageAfter_of_offends _ he]
    rfl

end

/-- Settings fix a language, or none, exactly if their arguments are groups with known languages,
and it is the last of these.  They are refused exactly if after some such groups the arguments
offend, with the cause found there.  An accepted list of arguments matters to what comes after it
only where that fixes no language.  No index is made exactly of settings that are refused, for the
same cause. -/
theorem language_of_groups (s : Settings) :
    (∀ language, s.language = .ok language ↔
      ∃ groups : List ArgumentGroup, s.arguments = groups.flatMap (·.arguments) ∧
        (∀ group ∈ groups, group.IsKnown) ∧ language = lastDialect? groups) ∧
    (∀ e, s.language = .error e ↔
      ∃ (groups : List ArgumentGroup) (rest : List String),
        s.arguments = groups.flatMap (·.arguments) ++ rest ∧
          (∀ group ∈ groups, group.IsKnown) ∧ Offends rest e) ∧
    (∀ language, s.language = .ok language → ∀ more : List String,
      Settings.language { s with arguments := s.arguments ++ more } =
        (Settings.language { s with arguments := more }).map (·.or language)) ∧
    ∀ e, Index.ofSettings s = .error e ↔ s.language = .error e := by
  refine ⟨fun _ => languageAfter_eq_ok_iff, fun _ => languageAfter_eq_error_iff,
    fun _ h more => languageAfter_append h more, ?_⟩
  intro e
  rw [Index.ofSettings]
  cases s.language with
  | error cause => simp [Except.map]
  | ok language => simp [Except.map]

/-- A value that looks like an option, and a flag without a value, after an accepted list. -/
theorem language_of_groups_extended :
    language ⟨["-Wall", "-xc", "-x", "c++"], false, none⟩ = .ok (some .cpp) ∧
    language ⟨["-Wall", "-xc", "-x", "c++", "-std=c11"], false, none⟩ = .ok (some .cpp) ∧
    language ⟨["-Wall", "-xc", "-x", "c++", "-x", "-Wall"], false, none⟩ =
      .error (.unsupportedLanguage "-Wall") ∧
    language ⟨["-Wall", "-xc", "-x", "c++", "-DA", "-x"], false, none⟩ =
      .error (.invalidArgument "-x") := by
  have hgroups : language ⟨["-Wall", "-xc", "-x", "c++"], false, none⟩ = .ok (some .cpp) :=
    ((language_of_groups _).1 _).2
      ⟨[.passedOver "-Wall" (by decide), .joined "c" (by decide), .apart "c++"], rfl, by
        simp only [List.forall_mem_cons]
        exact ⟨by rintro _ ⟨⟩, by rintro _ ⟨⟩; exact ⟨.c, rfl⟩, by rintro _ ⟨⟩; exact ⟨.cpp, rfl⟩,
          by simp⟩, rfl⟩
  have happend := (language_of_groups ⟨["-Wall", "-xc", "-x", "c++"], false, none⟩).2.2.1 _ hgroups
  exact ⟨hgroups, happend ["-std=c11"], happend ["-x", "-Wall"], happend ["-DA", "-x"]⟩

end Settings

end CodeCursor
