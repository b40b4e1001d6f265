import CodeCursor.Text.Quoted
import Mathlib.Logic.Function.Basic
import Mathlib.Tactic.SplitIfs

/-!
# Quoted texts can be read off

A quoted text shows by itself where it ends and what it was written for, whatever comes after it.
Between the quotes each character is shown bare, by a letter after a backslash or by its number,
and no way of showing one character is the beginning of a way of showing another.  None begins with
a quote, so that the first quote met where a character could begin is the closing one.  Which
characters are shown by their numbers does not matter for this.
-/

namespace CodeCursor.Text

theorem digitChar_inj {m n : Nat} (hm : m < 16) (hn : n < 16)
    (h : m.digitChar = n.digitChar) : m = n := by
  have table : ∀ m < 16, ∀ n < 16, m.digitChar = n.digitChar → m = n := by decide
  exact table m hm n hn h

/-- The last digit stands for the remainder, and the digits before it for the quotient. -/
theorem toDigits_eq_append {base : Nat} (hbase : 1 < base) (n : Nat) :
    Nat.toDigits base n =
      (if n < base then [] else Nat.toDigits base (n / base)) ++ [(n % base).digitChar] := by
  rw [Nat.toDigits_eq_if hbase]
  split
  · rename_i hlt
    rw [Nat.mod_eq_of_lt hlt, List.nil_append]
  · rfl

theorem mem_toDigits {base n : Nat} {c : Char} (hbase : 1 < base)
    (h : c ∈ Nat.toDigits base n) : ∃ d < base, c = d.digitChar := by
  induction n using Nat.strongRecOn with
  | ind n ih =>
    rw [toDigits_eq_append hbase] at h
    rcases List.mem_append.1 h with hfront | hlast
    · split at hfront
      · contradiction
      · rename_i hle
        have hpos : 0 < n := by omega
        exact ih (n / base) (Nat.div_lt_self hpos hbase) hfront
    · exact ⟨n % base, Nat.mod_lt n (by omega), List.mem_singleton.1 hlast⟩

theorem toDigits_inj {base m n : Nat} (hbase : 1 < base) (hle : base ≤ 16)
    (h : Nat.toDigits base m = Nat.toDigits base n) : m = n := by
  induction m using Nat.strongRecOn generalizing n with
  | ind m ih =>
    rw [toDigits_eq_append hbase m, toDigits_eq_append hbase n] at h
    obtain ⟨hfront, hlast⟩ := List.append_inj' h rfl
    have hmod : m % base = n % base := by
      have hm : m % base < base := Nat.mod_lt m (by omega)
      have hn : n % base < base := Nat.mod_lt n (by omega)
      exact digitChar_inj (by omega) (by omega) (List.singleton_inj.1 hlast)
    split_ifs at hfront with hm hn hn
    · rwa [Nat.mod_eq_of_lt hm, Nat.mod_eq_of_lt hn] at hmod
    · exact absurd hfront.symm Nat.toDigits_ne_nil
    · exact absurd hfront Nat.toDigits_ne_nil
    · have hpos : 0 < m := by omega
      have hdiv : m / base = n / base := ih (m / base) (Nat.div_lt_self hpos hbase) hfront
      calc
        m = base * (m / base) + m % base := (Nat.div_add_mod m base).symm
        _ = base * (n / base) + n % base := by rw [hdiv, hmod]
        _ = n := Nat.div_add_mod n base

theorem hexDigits_injective : Function.Injective hexDigits :=
  fun _ _ h => toDigits_inj (by decide) (by decide) h

theorem brace_not_mem_hexDigits (n : Nat) : '\x7d' ∉ hexDigits n := by
  intro h
  obtain ⟨d, -, hd⟩ := mem_toDigits (by decide) h
  exact Nat.digitChar_ne '\x7d' (by decide) hd.symm

/-- Whether a way of writing values lets the value and what follows it be told apart. -/
def SelfDelimiting {α : Type} (write : α → List Char) : Prop :=
  ∀ ⦃a b : α⦄ ⦃x y : List Char⦄, write a ++ x = write b ++ y → a = b ∧ x = y

theorem append_stop_inj {s t x y : List Char} {stop : Char} (hs : stop ∉ s) (ht : stop ∉ t)
    (h : s ++ stop :: x = t ++ stop :: y) : s = t ∧ x = y := by
  induction s generalizing t with
  | nil =>
    cases t with
    | nil => exact ⟨rfl, (List.cons.inj h).2⟩
    | cons d t =>
      obtain rfl := (List.cons.inj h).1
      exact absurd List.mem_cons_self ht
  | cons c s ih =>
    cases t with
    | nil =>
      obtain rfl := (List.cons.inj h).1
      exact absurd List.mem_cons_self hs
    | cons d t =>
      obtain ⟨rfl, hrest⟩ := List.cons.inj h
      obtain ⟨rfl, rfl⟩ := ih (List.not_mem_of_not_mem_cons hs)
        (List.not_mem_of_not_mem_cons ht) hrest
      exact ⟨rfl, rfl⟩

namespace SelfDelimiting

variable {α : Type} {write : α → List Char} {stop : Char}

/-- Values end by themselves if each is followed by a character that none of them has. -/
theorem of_stop (hinj : Function.Injective write) (hstop : ∀ a, stop ∉ write a) :
    SelfDelimiting fun a => write a ++ [stop] := by
  intro a b x y h
  rw [List.append_assoc, List.append_assoc] at h
  obtain ⟨hwrite, hrest⟩ := append_stop_inj (hstop a) (hstop b) h
  exact ⟨hinj hwrite, hrest⟩

theorem append_left (fixed : List Char) (h : SelfDelimiting write) :
    SelfDelimiting fun a => fixed ++ write a := by
  intro a b x y heq
  rw [List.append_assoc, List.append_assoc] at heq
  exact h (List.append_cancel_left heq)

/-- A list of values that end by themselves does so too if it is followed by a character with
which no value begins. -/
theorem flatMap_stop (h : SelfDelimiting write)
    (hstop : ∀ a, ∃ first rest, write a = first :: rest ∧ first ≠ stop) :
    SelfDelimiting fun values : List α => values.flatMap write ++ [stop] := by
  have began : ∀ {a : α} {x y : List Char}, write a ++ x ≠ stop :: y := by
    intro a x y heq
    obtain ⟨first, rest, hwrite, hne⟩ := hstop a
    rw [hwrite] at heq
    exact hne (List.cons.inj heq).1
  intro s t x y heq
  simp only [List.append_assoc, List.singleton_append] at heq
  induction s generalizing t with
  | nil =>
    cases t with
    | nil => exact ⟨rfl, (List.cons.inj heq).2⟩
    | cons b t =>
      rw [List.flatMap_cons, List.append_assoc] at heq
      exact absurd heq.symm began
  | cons a s ih =>
    cases t with
    | nil =>
      rw [List.flatMap_cons, List.append_assoc] at heq
      exact absurd heq began
    | cons b t =>
      rw [List.flatMap_cons, List.flatMap_cons, List.append_assoc, List.append_assoc] at heq
      obtain ⟨rfl, hrest⟩ := h heq
      obtain ⟨rfl, rfl⟩ := ih hrest
      exact ⟨rfl, rfl⟩

end SelfDelimiting

/-- The character that a backslash and this letter stand for. -/
def letterMeaning? : Char → Option Char
  | '0' => some '\x00'
  | 't' => some '\t'
  | 'n' => some '\n'
  | 'r' => some '\r'
  | '"' => some '"'
  | '\\' => some '\\'
  | _ => none

/-- The ways to show a character between quotes. -/
inductive Shows (c : Char) : List Char → Prop
  | bare (plain : c ≠ '\\') (unquoted : c ≠ '"') : Shows c [c]
  | letter {name : Char} (means : letterMeaning? name = some c) : Shows c ['\\', name]
  | number : Shows c (['\\', 'u', '\x7b'] ++ (hexDigits c.toNat ++ ['\x7d']))

theorem shows_escaped (c : Char) : Shows c (escaped c) := by
  unfold escaped
  split_ifs with hnull htab hfeed hreturn hquote hslash hnumber
  · exact .letter (by rw [hnull]; rfl)
  · exact .letter (by rw [htab]; rfl)
  · exact .letter (by rw [hfeed]; rfl)
  · exact .letter (by rw [hreturn]; rfl)
  · exact .letter (by rw [hquote]; rfl)
  · exact .letter (by rw [hslash]; rfl)
  · rw [List.append_assoc]
    exact .number
  · exact .bare hslash hquote

theorem selfDelimiting_number :
    SelfDelimiting fun c : Char =>
      ['\\', 'u', '\x7b'] ++ (hexDigits c.toNat ++ ['\x7d']) := by
  apply SelfDelimiting.append_left
  apply SelfDelimiting.of_stop
  · intro c d h
    exact Char.toNat_inj.1 (hexDigits_injective h)
  · exact fun c => brace_not_mem_hexDigits c.toNat

/-- No way of showing a character is the beginning of a way of showing another. -/
theorem Shows.inj {c d : Char} {s t x y : List Char} (hs : Shows c s) (ht : Shows d t)
    (h : s ++ x = t ++ y) : c = d ∧ x = y := by
  cases hs with
  | bare plain unquoted =>
    cases ht with
    | bare => exact List.cons.inj h
    | letter means => exact absurd (List.cons.inj h).1 plain
    | number => exact absurd (List.cons.inj h).1 plain
  | letter means =>
    cases ht with
    | bare plain unquoted => exact absurd (List.cons.inj h).1.symm plain
    | letter means' =>
      obtain ⟨rfl, hrest⟩ := List.cons.inj (List.cons.inj h).2
      exact ⟨Option.some.inj (means.symm.trans means'), hrest⟩
    | number =>
      obtain ⟨rfl, -⟩ := List.cons.inj (List.cons.inj h).2
      contradiction
  | number =>
    cases ht with
    | bare plain unquoted => exact absurd (List.cons.inj h).1.symm plain
    | letter means =>
      obtain ⟨rfl, -⟩ := List.cons.inj (List.cons.inj h).2
      contradiction
    | number => exact selfDelimiting_number h

theorem Shows.begins {c : Char} {s : List Char} (h : Shows c s) :
    ∃ first rest, s = first :: rest ∧ first ≠ '"' := by
  cases h with
  | bare plain unquoted => exact ⟨c, [], rfl, unquoted⟩
  | letter means => exact ⟨'\\', _, rfl, by decide⟩
  | number => exact ⟨'\\', _, rfl, by decide⟩

theorem selfDelimiting_escaped : SelfDelimiting escaped :=
  fun c d _ _ h => (shows_escaped c).inj (shows_escaped d) h

/-- What a quoted text was written for, and what comes after it, can be read off. -/
theorem selfDelimiting_quoted : SelfDelimiting quoted :=
  (selfDelimiting_escaped.flatMap_stop fun c => (shows_escaped c).begins).append_left ['"']

end CodeCursor.Text
