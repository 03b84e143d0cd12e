/-!
# Parts of a text

A text occurs in another when some suffix of the other begins with it.
-/

namespace Rollout.Text

/-- Recognise the texts in which `t` occurs. -/
def occursIn (t : List Char) : List Char → Bool
  | [] => t.isEmpty
  | c :: s => t.isPrefixOf (c :: s) || occursIn t s

/-- Cut a text at every occurrence of a separating character; there is always one piece more
than there are separators. -/
def splitAt (sep : Char) : List Char → List (List Char)
  | [] => [[]]
  | c :: s =>
    match splitAt sep s with
    | [] => [[c]]
    | piece :: pieces => if c == sep then [] :: piece :: pieces else (c :: piece) :: pieces

theorem splitAt_eq_splitOn (sep : Char) (s : List Char) : splitAt sep s = s.splitOn sep := by
  induction s with
  | nil => rfl
  | cons c s ih =>
    rw [splitAt, ih, List.splitOn_cons_eq_if_modifyHead]
    cases h : s.splitOn sep with
    | nil => exact absurd h (List.splitOn_ne_nil sep s)
    | cons piece pieces => rfl

end Rollout.Text
