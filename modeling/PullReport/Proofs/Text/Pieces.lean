/-!
# Pieces and what joins them

Cutting a text at a separator and joining the pieces again. The characters of the whole are those of
the pieces and of the separator, and no piece has the separator in it.

## Main definitions

* `Text.feedLines`: what stands between the line feeds of a text.

## Main results

* `mem_or_mem_of_mem_intercalate`, `mem_intercalate_of_mem`: what joined pieces consist of.
* `intercalate_inj`: joined pieces can be told apart if they do not have the separator in them.
* `append_cons_inj_of_notMem_front`, `append_cons_inj_of_notMem_back`: a text is cut at its first
  and at its last separator.
* `exists_eq_append_cons_of_append`: a text is cut before a last part without the separator.
* `Text.feedLines_intercalate`: lines are found again in their text.
* `Text.not_mem_of_mem_splitOn`, `Text.mem_of_mem_splitOn`: what pieces consist of.
-/

namespace PullReport

/-! ### Joining -/

section Intercalate

variable {α : Type} {sep : List α} {ls : List (List α)}

theorem mem_or_mem_of_mem_intercalate {a : α} (h : a ∈ sep.intercalate ls) :
    a ∈ sep ∨ ∃ l ∈ ls, a ∈ l := by
  induction ls with
  | nil => cases h
  | cons l ls ih =>
    cases ls with
    | nil => exact Or.inr ⟨l, List.mem_cons_self, by simpa using h⟩
    | cons l' ls =>
      rw [List.intercalate_cons_cons, List.mem_append, List.mem_append] at h
      rcases h with (h | h) | h
      · exact Or.inr ⟨l, List.mem_cons_self, h⟩
      · exact Or.inl h
      · rcases ih h with h | ⟨k, hk, h⟩
        · exact Or.inl h
        · exact Or.inr ⟨k, List.mem_cons_of_mem _ hk, h⟩

theorem mem_intercalate_of_mem {l : List α} {a : α} (hl : l ∈ ls) (ha : a ∈ l) :
    a ∈ sep.intercalate ls := by
  induction ls with
  | nil => cases hl
  | cons k ls ih =>
    cases ls with
    | nil => simpa [List.mem_singleton.1 hl] using ha
    | cons k' ls =>
      rw [List.intercalate_cons_cons, List.mem_append, List.mem_append]
      rcases List.mem_cons.1 hl with rfl | hl
      · exact Or.inl (Or.inl ha)
      · exact Or.inr (ih hl)

theorem filter_intercalate {p : α → Bool} (hsep : sep.filter p = []) :
    (sep.intercalate ls).filter p = ls.flatMap (·.filter p) := by
  induction ls with
  | nil => rfl
  | cons l ls ih =>
    cases ls with
    | nil => simp
    | cons l' ls =>
      rw [List.intercalate_cons_cons, List.filter_append, List.filter_append, hsep,
        List.append_nil, ih, List.flatMap_cons (x := l)]

/-- Between two pieces that are joined by one character, that character stands. -/
theorem intercalate_cons_eq_flatMap {a : α} (l : List α) (ls : List (List α)) :
    [a].intercalate (l :: ls) = l ++ ls.flatMap (a :: ·) := by
  induction ls generalizing l with
  | nil => simp
  | cons k ls ih => simp [List.intercalate_cons_cons, ih]

theorem intercalate_ne_nil (hls : ls ≠ []) (h : ∀ l ∈ ls, l ≠ []) : sep.intercalate ls ≠ [] := by
  obtain ⟨l, hl⟩ := List.exists_mem_of_ne_nil _ hls
  obtain ⟨a, ha⟩ := List.exists_mem_of_ne_nil _ (h l hl)
  exact List.ne_nil_of_mem (mem_intercalate_of_mem hl ha)

/-- Pieces that do not have the separator in them can be told apart after they have been joined. -/
theorem intercalate_inj [BEq α] [LawfulBEq α] {a : α} {ks : List (List α)} (hls : ls ≠ [])
    (hks : ks ≠ []) (h : ∀ l ∈ ls, a ∉ l) (h' : ∀ l ∈ ks, a ∉ l)
    (heq : [a].intercalate ls = [a].intercalate ks) : ls = ks := by
  rw [← List.splitOn_intercalate a h hls, heq, List.splitOn_intercalate a h' hks]

end Intercalate

/-! ### Cutting -/

section Cut

variable {α : Type} {a : α} {front front' back back' : List α}

/-- A text is cut at the first separator. -/
theorem append_cons_inj_of_notMem_front (hfront : a ∉ front) (hfront' : a ∉ front')
    (h : front ++ a :: back = front' ++ a :: back') : front = front' ∧ back = back' := by
  induction front generalizing front' with
  | nil =>
    cases front' with
    | nil => exact ⟨rfl, (List.cons.inj h).2⟩
    | cons c front' => exact absurd ((List.cons.inj h).1 ▸ List.mem_cons_self) hfront'
  | cons c front ih =>
    cases front' with
    | nil => exact absurd ((List.cons.inj h).1 ▸ List.mem_cons_self) hfront
    | cons c' front' =>
      obtain ⟨rfl, hrest⟩ := List.cons.inj h
      rw [List.mem_cons, not_or] at hfront hfront'
      obtain ⟨rfl, rfl⟩ := ih hfront.2 hfront'.2 hrest
      exact ⟨rfl, rfl⟩

/-- A text is cut at the last separator. -/
theorem append_cons_inj_of_notMem_back (hback : a ∉ back) (hback' : a ∉ back')
    (h : front ++ a :: back = front' ++ a :: back') : front = front' ∧ back = back' := by
  have hreverse : back.reverse ++ a :: front.reverse = back'.reverse ++ a :: front'.reverse := by
    simpa using congrArg List.reverse h
  obtain ⟨hbacks, hfronts⟩ := append_cons_inj_of_notMem_front (by rwa [List.mem_reverse])
    (by rwa [List.mem_reverse]) hreverse
  exact ⟨List.reverse_inj.1 hfronts, List.reverse_inj.1 hbacks⟩

/-- A separator that is not in the last part of a text is in what stands before that part. -/
theorem exists_eq_append_cons_of_append {text tail : List α} (ha : a ∉ tail)
    (h : text ++ tail = front ++ a :: back) : ∃ back', text = front ++ a :: back' := by
  rcases List.append_eq_append_iff.1 h with ⟨between, -, htail⟩ | ⟨between, htext, hback⟩
  · exact absurd (htail ▸ List.mem_append_right between List.mem_cons_self) ha
  · cases between with
    | nil =>
      have hmem : a ∈ tail := (show a :: back = tail from hback) ▸ List.mem_cons_self
      exact absurd hmem ha
    | cons b between =>
      obtain ⟨rfl, -⟩ := List.cons.inj hback
      exact ⟨between, htext⟩

end Cut

namespace Text

/-- No piece between separators has the separator in it. -/
theorem not_mem_of_mem_splitOn {sep : Char} {cs piece : List Char} (h : piece ∈ cs.splitOn sep) :
    sep ∉ piece := by
  induction cs generalizing piece with
  | nil =>
    rw [List.splitOn_nil, List.mem_singleton] at h
    rw [h]
    exact List.not_mem_nil
  | cons c cs ih =>
    rw [List.splitOn_cons_eq_if_modifyHead] at h
    split at h
    · rcases List.mem_cons.1 h with rfl | h
      · exact List.not_mem_nil
      · exact ih h
    · rename_i hc
      cases hpieces : cs.splitOn sep with
      | nil => exact absurd hpieces (List.splitOn_ne_nil _ _)
      | cons first rest =>
        rw [hpieces, List.modifyHead_cons] at h
        rcases List.mem_cons.1 h with rfl | h
        · have hfirst : sep ∉ first := ih (by rw [hpieces]; exact List.mem_cons_self)
          rw [List.mem_cons]
          rintro (rfl | hmem)
          · exact hc (by simp)
          · exact hfirst hmem
        · exact ih (by rw [hpieces]; exact List.mem_cons_of_mem _ h)

/-- Cutting a text makes no new characters. -/
theorem mem_of_mem_splitOn {c sep : Char} {cs piece : List Char} (hpiece : piece ∈ cs.splitOn sep)
    (hc : c ∈ piece) : c ∈ cs := by
  have hjoined : [sep].intercalate (cs.splitOn sep) = cs := List.intercalate_splitOn sep
  rw [← hjoined]
  exact mem_intercalate_of_mem hpiece hc

/-! ### Lines -/

/-- The lines of a text: what stands between its line feeds. -/
def feedLines (text : String) : List String := (text.toList.splitOn '\n').map String.ofList

/-- **Lines** are found again in their text. -/
theorem feedLines_intercalate {ls : List String} (hls : ls ≠ []) (h : ∀ l ∈ ls, '\n' ∉ l.toList) :
    feedLines ("\n".intercalate ls) = ls := by
  rw [feedLines, String.toList_intercalate, show "\n".toList = ['\n'] from rfl,
    List.splitOn_intercalate '\n' (List.forall_mem_map.2 h) (by simpa using hls), List.map_map,
    show String.ofList ∘ String.toList = id from funext fun l => String.ofList_toList, List.map_id]

end Text

end PullReport
