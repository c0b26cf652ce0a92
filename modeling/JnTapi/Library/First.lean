/-
This file develops the change of the first element of a list that fits.

Where the change keeps what makes an element fit, the same search finds the
changed element afterwards, and a search for something else finds what it found
before, changed if it was the same element.
-/

import Mathlib.Data.List.Basic

namespace JnTapi.Library

variable {Item : Type*} {fits : Item → Bool} {change : Item → Item}

/-- The list with its first fitting element changed -/
def updateFirst (fits : Item → Bool) (change : Item → Item) : List Item → List Item
  | [] => []
  | item :: rest => if fits item then change item :: rest else item :: updateFirst fits change rest

theorem find_updateFirst (keeps : ∀ item, fits (change item) = fits item) (items : List Item) :
    (updateFirst fits change items).find? fits = (items.find? fits).map change := by
  induction items with
  | nil => rfl
  | cons item rest inductionHypothesis =>
    rw [updateFirst]
    by_cases found : fits item = true
    · rw [if_pos found, List.find?_cons_of_pos (by rw [keeps, found]), List.find?_cons_of_pos found]
      rfl
    · rw [if_neg found, List.find?_cons_of_neg found, List.find?_cons_of_neg found,
        inductionHypothesis]

/-- A search that no changed element fits finds what it found before. -/
theorem find_updateFirst_other {other : Item → Bool}
    (apart : ∀ item, fits item = true → other item = false ∧ other (change item) = false)
    (items : List Item) : (updateFirst fits change items).find? other = items.find? other := by
  induction items with
  | nil => rfl
  | cons item rest inductionHypothesis =>
    rw [updateFirst]
    by_cases found : fits item = true
    · obtain ⟨before, after⟩ := apart item found
      rw [if_pos found, List.find?_cons_of_neg (by simp [after]),
        List.find?_cons_of_neg (by simp [before])]
    · rw [if_neg found, List.find?_cons, List.find?_cons, inductionHypothesis]

/-- What the change keeps of an element is kept of all. -/
theorem map_updateFirst {View : Type*} {view : Item → View}
    (keeps : ∀ item, view (change item) = view item) (items : List Item) :
    (updateFirst fits change items).map view = items.map view := by
  induction items with
  | nil => rfl
  | cons item rest inductionHypothesis =>
    rw [updateFirst]
    split
    · rw [List.map_cons, List.map_cons, keeps]
    · rw [List.map_cons, List.map_cons, inductionHypothesis]

/-- Where no two elements have the same key, a search finds all the elements with its key. -/
theorem filter_eq_find {Key : Type*} [DecidableEq Key] {key : Item → Key} {items : List Item}
    (distinct : (items.map key).Nodup) (sought : Key) :
    items.filter (fun item => key item = sought) =
      (items.find? fun item => key item = sought).toList := by
  induction items with
  | nil => rfl
  | cons item rest inductionHypothesis =>
    rw [List.map_cons, List.nodup_cons] at distinct
    by_cases found : key item = sought
    · have absent : rest.filter (fun item => key item = sought) = [] := by
        refine List.filter_eq_nil_iff.mpr fun other member same => distinct.1 ?_
        rw [found, ← of_decide_eq_true same]
        exact List.mem_map_of_mem member
      rw [List.filter_cons_of_pos (by simp [found]), List.find?_cons_of_pos (by simp [found]),
        absent]
      rfl
    · rw [List.filter_cons_of_neg (by simp [found]), List.find?_cons_of_neg (by simp [found]),
        inductionHypothesis distinct.2]

end JnTapi.Library
