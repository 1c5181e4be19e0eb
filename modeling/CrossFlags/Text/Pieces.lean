/-!
# Cutting a list at marked elements

Search paths are cut at `:`, a command's output at blanks, a path at separators. All three are
one operation on lists: drop the marked elements and keep what stands between them. Nothing is
skipped, so two neighbouring marks leave an empty piece; who does not want those filters them
out.
-/

set_option autoImplicit false

namespace CrossFlags.Text

variable {α : Type}

/-- What stands between the elements that `mark` picks out, in order. There is always one more
piece than there are marks. -/
def pieces (mark : α → Bool) : List α → List (List α)
  | [] => [[]]
  | a :: rest =>
    if mark a then [] :: pieces mark rest
    else match pieces mark rest with
      | [] => [[a]]
      | first :: more => (a :: first) :: more

/-- There is a first piece, if only an empty one. -/
theorem pieces_ne_nil (mark : α → Bool) (as : List α) : pieces mark as ≠ [] := by
  cases as with
  | nil => simp [pieces]
  | cons a rest =>
    simp only [pieces]
    split
    · simp
    · split <;> simp

/-- Pieces hold no marked element. -/
theorem mark_eq_false_of_mem_pieces {mark : α → Bool} {as piece : List α} {a : α}
    (hp : piece ∈ pieces mark as) (ha : a ∈ piece) : mark a = false := by
  induction as generalizing piece with
  | nil => simp [pieces] at hp; simp [hp] at ha
  | cons b rest ih =>
    simp only [pieces] at hp
    split at hp
    · rcases List.mem_cons.mp hp with rfl | h
      · simp at ha
      · exact ih h ha
    · rename_i hb
      split at hp
      · rename_i hnil; exact absurd hnil (pieces_ne_nil mark rest)
      · rename_i first more hcons
        rcases List.mem_cons.mp hp with rfl | h
        · rcases List.mem_cons.mp ha with rfl | h'
          · simpa using hb
          · exact ih (by rw [hcons]; exact List.mem_cons_self) h'
        · exact ih (by rw [hcons]; exact List.mem_cons_of_mem _ h) ha

end CrossFlags.Text
