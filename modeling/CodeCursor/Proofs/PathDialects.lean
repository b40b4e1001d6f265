import CodeCursor.Index
import Mathlib.Data.List.Basic
import Mathlib.Data.List.TakeWhile

/-!
# Dialects of paths

The dialect of a path is that of the extension of its last component.  Slashes at the end of the
path count for nothing, also with a single dot after them, and neither does what stands before the
last component.
-/

namespace CodeCursor

namespace Text

/-- A path that is read from its end, without the slashes there, alone or with a dot behind them. -/
def withoutSlashes : List Char → List Char
  | '/' :: before => withoutSlashes before
  | '.' :: '/' :: before => withoutSlashes before
  | path => path

/-- The last component of a path: what follows its last slash once all slashes are dropped that
stand at its end, alone or with a dot behind them. -/
def lastComponent (path : List Char) : List Char :=
  ((withoutSlashes path.reverse).takeWhile (· != '/')).reverse

/-- Whether the last component of a path is a name: it is there, and neither one dot nor two. -/
def EndsInName (path : List Char) : Prop :=
  lastComponent path ∉ [[], ['.'], ['.', '.']]

instance (path : List Char) : Decidable (EndsInName path) :=
  inferInstanceAs (Decidable (_ ∉ _))

theorem components_append (path more : List Char) :
    components (path ++ '/' :: more) = components path ++ components more := by
  fun_induction components path with
  | case1 => simp [components]
  | case2 rest ih => simp [components, ih]
  | case3 c rest hc hnone ih => exact absurd hnone (components_ne_nil rest)
  | case4 c rest hc part others h ih =>
    rw [List.cons_append, components.eq_3 _ _ hc, ih, h]
    rfl

theorem components_of_name {name : List Char} (h : '/' ∉ name) : components name = [name] := by
  induction name with
  | nil => rfl
  | cons c rest ih =>
    obtain ⟨hc, hrest⟩ := not_or.1 (mt List.mem_cons.2 h)
    rw [components.eq_3 _ _ (fun h => hc h.symm), ih hrest]

theorem fileName?_of_components {path name : List Char} {others : List (List Char)}
    (h : components path = others ++ [name]) (hname : name ∉ [[], ['.']]) :
    fileName? path = if name = ['.', '.'] then none else some name := by
  have hkept : (name == [] || name == ['.']) = false := by simpa using hname
  rw [fileName?, h, List.reverse_concat, List.dropWhile_cons, hkept]
  rfl

/-- Slashes and single dots at the end of a path count for nothing. -/
theorem fileName?_append_skipped (path : List Char) {part : List Char}
    (h : part ∈ [[], ['.']]) : fileName? (path ++ '/' :: part) = fileName? path := by
  have hslash : '/' ∉ part := by
    rcases List.mem_cons.1 h with rfl | h
    · simp
    · rw [List.mem_singleton.1 h]
      decide
  have hskipped : (part == [] || part == ['.']) = true := by simpa using h
  rw [fileName?, components_append, components_of_name hslash, List.reverse_concat,
    List.dropWhile_cons, if_pos hskipped, fileName?]

theorem lastComponent_append_slash (path : List Char) :
    lastComponent (path ++ ['/']) = lastComponent path := by
  rw [lastComponent, lastComponent, List.reverse_append]
  rfl

theorem lastComponent_append_dot (path : List Char) :
    lastComponent (path ++ ['/', '.']) = lastComponent path := by
  rw [lastComponent, lastComponent, List.reverse_append]
  rfl

theorem not_mem_lastComponent (path : List Char) : '/' ∉ lastComponent path := by
  intro h
  have hne := List.mem_takeWhile_imp (List.mem_reverse.1 h)
  simp at hne

/-- A path that does not end in a slash or in one with a dot has its last component at its end. -/
theorem lastComponent_split {path : List Char} (hslash : ∀ dir, path ≠ dir ++ ['/'])
    (hdot : ∀ dir, path ≠ dir ++ ['/', '.']) :
    path = lastComponent path ∨ ∃ dir, path = dir ++ '/' :: lastComponent path := by
  have hdone : withoutSlashes path.reverse = path.reverse := by
    rw [withoutSlashes]
    · intro before h
      exact hslash before.reverse (by rw [← List.reverse_reverse path, h, List.reverse_cons])
    · intro before h
      exact hdot before.reverse (by rw [← List.reverse_reverse path, h]; simp)
  have hsplit := List.takeWhile_append_dropWhile (p := (· != '/')) (l := path.reverse)
  rw [lastComponent, hdone]
  cases hrest : path.reverse.dropWhile (· != '/') with
  | nil =>
    rw [hrest, List.append_nil] at hsplit
    exact .inl (by rw [hsplit, List.reverse_reverse])
  | cons c more =>
    have hc : c = '/' := by
      have hne : path.reverse.dropWhile (· != '/') ≠ [] := by simp [hrest]
      have hstop := List.head_dropWhile_not (· != '/') hne
      simpa [hrest] using hstop
    rw [hrest, hc] at hsplit
    refine .inr ⟨more.reverse, ?_⟩
    conv_lhs => rw [← List.reverse_reverse path, ← hsplit]
    simp

theorem fileName?_of_bare {path name : List Char} (hslash : ∀ dir, path ≠ dir ++ ['/'])
    (hdot : ∀ dir, path ≠ dir ++ ['/', '.']) :
    fileName? path = some name ↔ EndsInName path ∧ lastComponent path = name := by
  have hsplit := lastComponent_split hslash hdot
  by_cases hskipped : lastComponent path ∈ [[], ['.']]
  · have hpath : path ∈ [[], ['.']] := by
      rcases hsplit with hall | ⟨dir, hdir⟩
      · rwa [← hall] at hskipped
      · rcases List.mem_cons.1 hskipped with h | h
        · exact absurd (h ▸ hdir) (hslash dir)
        · exact absurd (List.mem_singleton.1 h ▸ hdir) (hdot dir)
    have hnone : fileName? path = none := by
      rcases List.mem_cons.1 hpath with rfl | h
      · rfl
      · rw [List.mem_singleton.1 h]
        rfl
    have hends : ¬EndsInName path := fun h => h (List.mem_append_left [['.', '.']] hskipped)
    simp [hnone, hends]
  · have hcomponents : ∃ others, components path = others ++ [lastComponent path] := by
      have hlast := components_of_name (not_mem_lastComponent path)
      rcases hsplit with hall | ⟨dir, hdir⟩
      · exact ⟨[], by rw [← hall] at hlast; rwa [← hall]⟩
      · exact ⟨components dir, by conv_lhs => rw [hdir, components_append, hlast]⟩
    obtain ⟨others, hothers⟩ := hcomponents
    have hends : EndsInName path ↔ lastComponent path ≠ ['.', '.'] := by
      simp only [EndsInName, List.mem_cons, List.not_mem_nil, or_false, not_or] at hskipped ⊢
      exact ⟨fun h => h.2.2, fun h => ⟨hskipped.1, hskipped.2, h⟩⟩
    rw [fileName?_of_components hothers hskipped, hends]
    split <;> simp [*]

/-- The file name of a path is its last component, if that is a name. -/
theorem fileName?_eq_some_iff {path name : List Char} :
    fileName? path = some name ↔ EndsInName path ∧ lastComponent path = name := by
  rw [← List.reverse_reverse path]
  generalize path.reverse = reversed
  induction reversed using withoutSlashes.induct with
  | case1 before ih =>
    rw [List.reverse_cons, fileName?_append_skipped _ (by decide), ih, EndsInName, EndsInName,
      lastComponent_append_slash]
  | case2 before ih =>
    have hdot : ('.' :: '/' :: before).reverse = before.reverse ++ ['/', '.'] := by simp
    rw [hdot, fileName?_append_skipped _ (by decide), ih, EndsInName, EndsInName,
      lastComponent_append_dot]
  | case3 reversed hslash hdot =>
    refine fileName?_of_bare (fun dir h => hslash dir.reverse ?_)
      (fun dir h => hdot dir.reverse ?_)
    · rw [← List.reverse_reverse reversed, h]
      simp
    · rw [← List.reverse_reverse reversed, h]
      simp

/-- What stands before a path that ends in a name is no part of its file name. -/
theorem fileName?_append {path : List Char} (h : EndsInName path) (dir : List Char) :
    fileName? (dir ++ '/' :: path) = fileName? path := by
  have hname : fileName? path = some (lastComponent path) := fileName?_eq_some_iff.2 ⟨h, rfl⟩
  rw [fileName?] at hname
  rw [fileName?, fileName?, components_append, List.reverse_append, List.dropWhile_append]
  cases hkept : (components path).reverse.dropWhile fun part => part == [] || part == ['.'] with
  | nil =>
    rw [hkept] at hname
    contradiction
  | cons name others => rfl

theorem nameExtension?_eq_some_iff {name extension : List Char} :
    nameExtension? name = some extension ↔
      ∃ stem, name = stem ++ '.' :: extension ∧ stem ≠ [] ∧ '.' ∉ extension := by
  constructor
  · intro h
    have hsplit := List.takeWhile_append_dropWhile (p := (· != '.')) (l := name.reverse)
    rw [nameExtension?] at h
    split at h
    · rename_i c before hrest
      rw [hrest] at hsplit
      obtain rfl := Option.some.inj h
      refine ⟨(c :: before).reverse, ?_, by simp, ?_⟩
      · conv_lhs => rw [← List.reverse_reverse name, ← hsplit]
        simp
      · intro hdot
        have hne := List.mem_takeWhile_imp (List.mem_reverse.1 hdot)
        simp at hne
    · contradiction
  · rintro ⟨stem, rfl, hstem, hdot⟩
    have hall : ∀ c ∈ extension.reverse, (c != '.') = true := by
      intro c hc
      rw [bne_iff_ne]
      rintro rfl
      exact hdot (List.mem_reverse.1 hc)
    have hname : (stem ++ '.' :: extension).reverse = extension.reverse ++ '.' :: stem.reverse := by
      simp
    obtain ⟨c, before, hbefore⟩ := List.exists_cons_of_ne_nil (List.reverse_ne_nil_iff.2 hstem)
    rw [nameExtension?, hname, List.dropWhile_append_of_pos hall,
      List.takeWhile_append_of_pos hall, hbefore]
    simp

end Text

namespace Dialect

/-- Whether a path ends in a component with a stem and the extension of the dialect. -/
def IsOfPath (dialect : Dialect) (path : String) : Prop :=
  Text.lastComponent path.toList ≠ ['.', '.'] ∧
    ∃ stem extension, Text.lastComponent path.toList = stem ++ '.' :: extension ∧ stem ≠ [] ∧
      '.' ∉ extension ∧ (String.ofList extension, dialect) ∈ extensions

theorem lookup_extensions_eq_some_iff {extension : String} {dialect : Dialect} :
    extensions.lookup extension = some dialect ↔ (extension, dialect) ∈ extensions := by
  have table : ∀ entry ∈ extensions, extensions.lookup entry.1 = some entry.2 := by decide
  constructor
  · intro h
    obtain ⟨before, after, heq, -⟩ := List.lookup_eq_some_iff.1 h
    rw [heq]
    exact List.mem_append_right _ List.mem_cons_self
  · exact table (extension, dialect)

theorem ofPath?_eq_some_iff {path : String} {dialect : Dialect} :
    ofPath? path = some dialect ↔ dialect.IsOfPath path := by
  simp only [ofPath?, Text.extension?, Option.bind_eq_some_iff, Text.fileName?_eq_some_iff,
    Text.nameExtension?_eq_some_iff, lookup_extensions_eq_some_iff]
  constructor
  · rintro ⟨extension, ⟨name, ⟨hends, rfl⟩, stem, hname, hstem, hdot⟩, hextension⟩
    exact ⟨fun h => hends (by simp [h]), stem, extension, hname, hstem, hdot, hextension⟩
  · rintro ⟨hup, stem, extension, hname, hstem, hdot, hextension⟩
    have hlong : 2 ≤ (Text.lastComponent path.toList).length := by
      rw [hname, List.length_append, List.length_cons]
      have := List.length_pos_iff.2 hstem
      omega
    have hends : Text.EndsInName path.toList := by
      intro h
      simp only [List.mem_cons, List.not_mem_nil, or_false] at h
      rcases h with h | h | h
      · simp [h] at hlong
      · simp [h] at hlong
      · exact hup h
    exact ⟨extension, ⟨_, ⟨hends, rfl⟩, stem, hname, hstem, hdot⟩, hextension⟩

theorem ofPath?_append {path : String} (h : Text.EndsInName path.toList) (dir : String) :
    ofPath? (dir ++ "/" ++ path) = ofPath? path := by
  have htext : (dir ++ "/" ++ path).toList = dir.toList ++ '/' :: path.toList := by
    simp
  rw [ofPath?, ofPath?, Text.extension?, Text.extension?, htext, Text.fileName?_append h]

end Dialect

namespace Index

/-- Where the settings fix no language, a source has a dialect exactly if the last component of its
path is not two dots and has a stem before its last dot and an extension of the dialect after it.
Otherwise the path is refused as it is given.  A directory before a path that ends in a name makes
no difference. -/
theorem dialect_of_path {index : Index} (h : index.language = none) (path : String) :
    (∀ dialect, index.dialectOf path = .ok dialect ↔ dialect.IsOfPath path) ∧
    (index.dialectOf path = .error (.unsupportedLanguage path) ↔
      ∀ dialect : Dialect, ¬dialect.IsOfPath path) ∧
    (Text.EndsInName path.toList → ∀ (dir : String) (dialect : Dialect),
      index.dialectOf (dir ++ "/" ++ path) = .ok dialect ↔ index.dialectOf path = .ok dialect) := by
  have hok : ∀ (path : String) (dialect : Dialect),
      index.dialectOf path = .ok dialect ↔ Dialect.ofPath? path = some dialect := by
    intro path dialect
    rw [dialectOf, h]
    cases Dialect.ofPath? path <;> simp
  refine ⟨?_, ?_, ?_⟩
  · intro dialect
    rw [hok, Dialect.ofPath?_eq_some_iff]
  · simp only [← Dialect.ofPath?_eq_some_iff]
    rw [dialectOf, h]
    cases Dialect.ofPath? path <;> simp
  · intro hends dir dialect
    rw [hok, hok, Dialect.ofPath?_append hends]

/-- The extension behind two dots of a component with slashes and a dot after it. -/
theorem dialect_of_path_dotted :
    standard.language = none ∧ Text.EndsInName "..hpp//./".toList ∧
      Dialect.cpp.IsOfPath "..hpp//./" ∧
      standard.dialectOf "..hpp//./" = .ok .cpp ∧
      standard.dialectOf "src.c/..hpp//./" = .ok .cpp := by
  have hnone : standard.language = none := rfl
  have hends : Text.EndsInName "..hpp//./".toList := by
    decide
  have hpath : Dialect.cpp.IsOfPath "..hpp//./" :=
    ⟨by decide, ['.'], "hpp".toList, by decide, by decide, by decide, by decide⟩
  obtain ⟨hok, -, hbelow⟩ := dialect_of_path hnone "..hpp//./"
  exact ⟨hnone, hends, hpath, (hok _).2 hpath, (hbelow hends "src.c" _).2 ((hok _).2 hpath)⟩

end Index

end CodeCursor
