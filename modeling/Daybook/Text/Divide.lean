/-!
Texts divided at marks: at the first one, or at all of them. A text with the mark is what stands
before it, the mark, and what stands after it (`eq_of_divide`).
-/

namespace Daybook.Text

/-- What stands before the first mark, and what stands after it, if there is one. -/
def divide (isMark : Char → Bool) (cs : List Char) : List Char × Option (List Char) :=
  (cs.takeWhile (!isMark ·), (cs.dropWhile (!isMark ·)).tail?)

theorem eq_of_divide {isMark : Char → Bool} {cs before after : List Char}
    (h : divide isMark cs = (before, some after)) :
    ∃ mark, isMark mark = true ∧ cs = before ++ mark :: after := by
  obtain ⟨hbefore, hafter⟩ := Prod.mk.inj h
  have hsplit : cs.takeWhile (!isMark ·) ++ cs.dropWhile (!isMark ·) = cs :=
    List.takeWhile_append_dropWhile
  match hrest : cs.dropWhile (!isMark ·) with
  | [] => simp [hrest] at hafter
  | mark :: rest =>
    rw [hrest] at hafter hsplit
    obtain rfl : rest = after := by simpa using hafter
    refine ⟨mark, ?_, by rw [← hbefore, hsplit]⟩
    have hhead := List.head_dropWhile_not (p := (!isMark ·)) (l := cs) (by simp [hrest])
    simpa [hrest] using hhead

/-- The pieces between all marks. -/
def pieces (isMark : Char → Bool) : List Char → List (List Char)
  | [] => [[]]
  | c :: rest =>
    if isMark c then [] :: pieces isMark rest
    else
      match pieces isMark rest with
      | piece :: more => (c :: piece) :: more
      | [] => [[c]]

end Daybook.Text
