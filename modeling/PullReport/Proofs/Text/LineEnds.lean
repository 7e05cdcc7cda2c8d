import Mathlib.Data.List.DropRight
import PullReport.Proofs.Text.Pieces
import PullReport.Text.Lines

/-!
# Lines and what ends them

Cutting a text into its lines is cutting it at its line feeds and then tidying up: every piece but
the last one loses a carriage return at its end, and the last piece counts only if it is not empty.
Everything about lines that are joined, cut again, or ended in another way follows from that, since
line feeds can be counted on: joining and cutting at line feeds are inverse to each other.

Carriage returns cannot be counted on. One cut drops one of them from a line, and a text may have
any number. So two lines are compared by what is left when all of them are dropped from their ends.

## Main definitions

* `Text.dropReturn`, `Text.trimReturns`: a line without one carriage return, and without any, at
  its end.
* `Text.tidy`: what becomes of the pieces between line feeds.
* `Text.withReturns`: a text in which a carriage return stands before every line feed.

## Main results

* `Text.lines_eq_tidy`: the lines of a text are its tidied pieces.
* `Text.lines_unlines`, `Text.lines_append_feed`: the lines of joined lines and of joined texts.
* `Text.map_trimReturns_lines_withReturns`: more carriage returns at line ends leave the lines as
  they are but for carriage returns at their ends.
-/

namespace PullReport

namespace Text

/-! ### Carriage returns at the end of a line -/

/-- A line without the carriage return at its end, if there is one. -/
def dropReturn (line : List Char) : List Char :=
  if line.getLast? = some '\r' then line.dropLast else line

/-- A line without all the carriage returns at its end. -/
def trimReturns (line : List Char) : List Char := line.rdropWhile (· = '\r')

@[simp] theorem dropReturn_nil : dropReturn [] = [] := rfl

@[simp] theorem dropReturn_concat_return (line : List Char) :
    dropReturn (line ++ ['\r']) = line := by
  simp [dropReturn]

/-- Whether a line ends in a carriage return does not depend on its first character, unless that is
all there is. -/
theorem dropReturn_cons {c : Char} {line : List Char} (h : c ≠ '\r' ∨ line ≠ []) :
    dropReturn (c :: line) = c :: dropReturn line := by
  cases line with
  | nil =>
    have hc : c ≠ '\r' := h.resolve_right fun hne => hne rfl
    simp [dropReturn, hc]
  | cons d line =>
    rw [dropReturn, dropReturn, List.getLast?_cons_cons, List.dropLast_cons_cons]
    split <;> rfl

@[simp] theorem trimReturns_concat_return (line : List Char) :
    trimReturns (line ++ ['\r']) = trimReturns line :=
  List.rdropWhile_concat_pos _ _ _ (by simp)

@[simp] theorem trimReturns_trimReturns (line : List Char) :
    trimReturns (trimReturns line) = trimReturns line :=
  List.rdropWhile_idempotent _ _

/-- What does not see one carriage return at the end of a line does not see any number of them. -/
theorem apply_trimReturns {α : Type} {f : List Char → α}
    (h : ∀ line, f (line ++ ['\r']) = f line) (line : List Char) :
    f (trimReturns line) = f line := by
  induction line using List.reverseRecOn with
  | nil => rfl
  | append_singleton line c ih =>
    by_cases hc : c = '\r'
    · rw [hc, trimReturns_concat_return, ih, h]
    · rw [trimReturns, List.rdropWhile_concat_neg _ _ _ (by simpa using hc)]

@[simp] theorem trimReturns_dropReturn (line : List Char) :
    trimReturns (dropReturn line) = trimReturns line := by
  induction line using List.reverseRecOn with
  | nil => rfl
  | append_singleton line c =>
    by_cases hc : c = '\r'
    · rw [hc, dropReturn_concat_return, trimReturns_concat_return]
    · rw [dropReturn, if_neg (by simpa using hc)]

/-! ### Pieces between line feeds -/

/-- The lines that pieces between line feeds stand for. -/
def tidy : List (List Char) → List (List Char)
  | [] => []
  | [last] => if last = [] then [] else [last]
  | piece :: next :: rest => dropReturn piece :: tidy (next :: rest)

theorem tidy_cons {piece : List Char} {rest : List (List Char)} (h : rest ≠ []) :
    tidy (piece :: rest) = dropReturn piece :: tidy rest := by
  cases rest with
  | nil => exact absurd rfl h
  | cons next rest => rfl

theorem tidy_append {front back : List (List Char)} (h : back ≠ []) :
    tidy (front ++ back) = front.map dropReturn ++ tidy back := by
  induction front with
  | nil => rfl
  | cons piece front ih =>
    have hne : front ++ back ≠ [] := List.append_ne_nil_of_right_ne_nil _ h
    rw [List.cons_append, tidy_cons hne, ih, List.map_cons, List.cons_append]

/-- Every piece but the last loses a carriage return, and the last one counts if it is not empty. -/
theorem tidy_eq (pieces : List (List Char)) :
    tidy pieces = pieces.dropLast.map dropReturn ++ pieces.getLast?.toList.filter (· ≠ []) := by
  match pieces with
  | [] => rfl
  | [last] => by_cases hlast : last = [] <;> simp [tidy, hlast]
  | piece :: next :: rest =>
    rw [tidy_cons (List.cons_ne_nil _ _), tidy_eq (next :: rest), List.dropLast_cons_cons,
      List.getLast?_cons_cons, List.map_cons, List.cons_append]

/-- A character in front of the first piece is one in front of the first line, unless it is a
carriage return that ends that line. -/
theorem tidy_modifyHead_cons {c : Char} {pieces : List (List Char)} (hne : pieces ≠ [])
    (h : c = '\r' → ∀ rest, pieces = [] :: rest → rest = []) :
    tidy (pieces.modifyHead (c :: ·)) = LineCut.extend c (tidy pieces) := by
  match pieces with
  | [] => exact absurd rfl hne
  | [last] =>
    by_cases hlast : last = []
    · simp [tidy, hlast, LineCut.extend]
    · simp [tidy, hlast, LineCut.extend]
  | piece :: next :: rest =>
    have hc : c ≠ '\r' ∨ piece ≠ [] := by
      by_contra hcon
      simp only [not_or, not_not] at hcon
      exact List.cons_ne_nil _ _ (h hcon.1 (next :: rest) (by rw [hcon.2]))
    rw [List.modifyHead_cons, tidy_cons (List.cons_ne_nil _ _), dropReturn_cons hc,
      tidy_cons (List.cons_ne_nil _ _)]
    rfl

/-- **What the lines of a text are**: the pieces between its line feeds, tidied up. -/
theorem lines_eq_tidy (cs : List Char) : lines cs = tidy (cs.splitOn '\n') := by
  induction cs with
  | nil => rfl
  | cons c cs ih =>
    have hne : cs.splitOn '\n' ≠ [] := List.splitOn_ne_nil _ _
    rw [List.splitOn_cons_eq_if_modifyHead]
    by_cases hfeed : c = '\n'
    · rw [hfeed, lines_cons_feed, if_pos (by simp), tidy_cons hne, ih, dropReturn_nil]
    · rw [if_neg (by simpa using hfeed)]
      by_cases hret : c = '\r' ∧ cs.head? = some '\n'
      · -- the one place where cutting drops a character
        obtain ⟨rfl, hhead⟩ := hret
        obtain ⟨cs, rfl⟩ := List.head?_eq_some_iff.1 hhead
        have hne' : cs.splitOn '\n' ≠ [] := List.splitOn_ne_nil _ _
        rw [lines_cons_feed] at ih
        rw [lines_cons_return_feed, ih, List.splitOn_cons_eq_if_modifyHead, if_pos (by simp),
          List.modifyHead_cons, tidy_cons hne', tidy_cons hne', dropReturn_nil]
        rfl
      · rw [lines_cons_of_ne hfeed hret, ih, tidy_modifyHead_cons hne]
        rintro rfl rest hrest
        cases cs with
        | nil => simpa using hrest.symm
        | cons d cs =>
          have hd : d ≠ '\n' := fun hd => hret ⟨rfl, by rw [hd]; rfl⟩
          rw [List.splitOn_cons_eq_if_modifyHead, if_neg (by simpa using hd)] at hrest
          cases hpieces : cs.splitOn '\n' with
          | nil => exact absurd hpieces (List.splitOn_ne_nil _ _)
          | cons piece pieces => simp [hpieces] at hrest

/-! ### Joined lines and joined texts -/

/-- Joined lines are cut where they were joined, and each is cut again at its end. -/
theorem lines_unlines {ls : List (List Char)} (h : ∀ line ∈ ls, '\n' ∉ line) :
    lines (unlines ls) = tidy ls := by
  by_cases hls : ls = []
  · rw [hls]
    rfl
  · rw [lines_eq_tidy, unlines, List.splitOn_intercalate '\n' h hls]

/-- The lines of two texts with a line feed between them. -/
theorem lines_append_feed (front back : List Char) :
    lines (front ++ '\n' :: back) = (front.splitOn '\n').map dropReturn ++ lines back := by
  rw [lines_eq_tidy, List.splitOn_append_cons_self, tidy_append (List.splitOn_ne_nil _ _),
    lines_eq_tidy]

/-! ### More carriage returns -/

/-- A text with a carriage return put before every line feed. -/
def withReturns (cs : List Char) : List Char :=
  cs.flatMap fun c => if c = '\n' then ['\r', '\n'] else [c]

/-- Pieces of which all but the last are followed by a carriage return. -/
def piecesWithReturns : List (List Char) → List (List Char)
  | [] => []
  | [last] => [last]
  | piece :: next :: rest => (piece ++ ['\r']) :: piecesWithReturns (next :: rest)

theorem piecesWithReturns_cons {piece : List Char} {rest : List (List Char)} (h : rest ≠ []) :
    piecesWithReturns (piece :: rest) = (piece ++ ['\r']) :: piecesWithReturns rest := by
  cases rest with
  | nil => exact absurd rfl h
  | cons next rest => rfl

theorem piecesWithReturns_ne_nil {pieces : List (List Char)} (h : pieces ≠ []) :
    piecesWithReturns pieces ≠ [] := by
  match pieces with
  | [] => exact absurd rfl h
  | [last] => exact List.cons_ne_nil _ _
  | piece :: next :: rest => exact List.cons_ne_nil _ _

theorem piecesWithReturns_modifyHead_cons (c : Char) (pieces : List (List Char)) :
    piecesWithReturns (pieces.modifyHead (c :: ·)) =
      (piecesWithReturns pieces).modifyHead (c :: ·) := by
  match pieces with
  | [] => rfl
  | [last] => rfl
  | piece :: next :: rest => rfl

theorem splitOn_withReturns (cs : List Char) :
    (withReturns cs).splitOn '\n' = piecesWithReturns (cs.splitOn '\n') := by
  induction cs with
  | nil => rfl
  | cons c cs ih =>
    have hne : cs.splitOn '\n' ≠ [] := List.splitOn_ne_nil _ _
    rw [withReturns, List.flatMap_cons, ← withReturns, List.splitOn_cons_eq_if_modifyHead c]
    by_cases hfeed : c = '\n'
    · rw [if_pos hfeed, if_pos (by simpa using hfeed), piecesWithReturns_cons hne, ← ih]
      simp [List.splitOn_cons_eq_if_modifyHead]
    · rw [if_neg hfeed, if_neg (by simpa using hfeed), piecesWithReturns_modifyHead_cons, ← ih,
        List.singleton_append, List.splitOn_cons_eq_if_modifyHead, if_neg (by simpa using hfeed)]

/-- Tidying drops the carriage return that was put behind a piece, where it would otherwise have
dropped one that was there before. -/
theorem map_trimReturns_tidy_piecesWithReturns (pieces : List (List Char)) :
    (tidy (piecesWithReturns pieces)).map trimReturns = (tidy pieces).map trimReturns := by
  match pieces with
  | [] => rfl
  | [last] => rfl
  | piece :: next :: rest =>
    have hne : next :: rest ≠ [] := List.cons_ne_nil _ _
    have ih := map_trimReturns_tidy_piecesWithReturns (next :: rest)
    rw [piecesWithReturns_cons hne, tidy_cons (piecesWithReturns_ne_nil hne), tidy_cons hne,
      List.map_cons, List.map_cons, ih, dropReturn_concat_return, trimReturns_dropReturn]

/-- **Other line ends.** Line by line, a text and the same text with a carriage return before every
line feed differ in carriage returns at the ends of lines only. -/
theorem map_trimReturns_lines_withReturns (cs : List Char) :
    (lines (withReturns cs)).map trimReturns = (lines cs).map trimReturns := by
  rw [lines_eq_tidy, lines_eq_tidy, splitOn_withReturns, map_trimReturns_tidy_piecesWithReturns]

end Text

end PullReport
