/-!
# Lines

A line ends at a line feed, together with one carriage return right before it.  A carriage
return anywhere else is a character of its line, and a line feed at the end of the text opens no
further line.
-/

namespace CodeCursor.Text

/-- The lines of a text without their ends. -/
def lines : List Char → List (List Char)
  | [] => []
  | '\n' :: rest => [] :: lines rest
  | '\r' :: '\n' :: rest => [] :: lines rest
  | c :: rest =>
    match lines rest with
    | [] => [[c]]
    | line :: others => (c :: line) :: others

theorem not_mem_of_mem_lines {text line : List Char} (h : line ∈ lines text) : '\n' ∉ line := by
  fun_induction lines text generalizing line with
  | case1 => simp at h
  | case2 rest ih =>
    rcases List.mem_cons.1 h with rfl | h
    · simp
    · exact ih h
  | case3 rest ih =>
    rcases List.mem_cons.1 h with rfl | h
    · simp
    · exact ih h
  | case4 c rest hc _ hl _ =>
    rcases List.mem_singleton.1 h with rfl
    simpa using fun h : '\n' = c => hc h.symm
  | case5 c rest hc _ first others hl ih =>
    rw [hl] at ih
    rcases List.mem_cons.1 h with rfl | h
    · have : '\n' ∉ first := ih (by simp)
      simp_all [eq_comm]
    · exact ih (by simp [h])

end CodeCursor.Text
