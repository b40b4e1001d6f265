/-!
# File names and their extensions

A path is read as components with slashes between them.  Its file name is the last component
that is not empty or a single dot, and the extension of a file name is what follows its last
dot.
-/

namespace CodeCursor.Text

def components : List Char → List (List Char)
  | [] => [[]]
  | '/' :: rest => [] :: components rest
  | c :: rest =>
    match components rest with
    | [] => [[c]]
    | component :: others => (c :: component) :: others

theorem components_ne_nil (path : List Char) : components path ≠ [] := by
  fun_cases components path <;> simp

/-- The file name of a path: its last component once the empty ones and the ones that are a dot
are dropped from its end, unless that is two dots. -/
def fileName? (path : List Char) : Option (List Char) :=
  match (components path).reverse.dropWhile fun part => part == [] || part == ['.'] with
  | [] => none
  | name :: _ => if name = ['.', '.'] then none else some name

/-- The part of a file name after its last dot, unless nothing stands before that dot. -/
def nameExtension? (name : List Char) : Option (List Char) :=
  match name.reverse.dropWhile (· != '.') with
  | '.' :: _ :: _ => some (name.reverse.takeWhile (· != '.')).reverse
  | _ => none

def extension? (path : List Char) : Option (List Char) :=
  (fileName? path).bind nameExtension?

/-- Putting the slashes back between the components gives the path. -/
theorem intercalate_components (path : List Char) : ['/'].intercalate (components path) = path := by
  fun_induction components path with
  | case1 => rfl
  | case2 rest ih =>
    cases h : components rest with
    | nil => simp_all [components_ne_nil]
    | cons part others => simp_all [List.intercalate, List.intersperse]
  | case3 c rest hc hnone ih => simp_all [components_ne_nil]
  | case4 c rest hc part others h ih =>
    rw [h] at ih
    cases others <;> simp_all [List.intercalate, List.intersperse]

end CodeCursor.Text
