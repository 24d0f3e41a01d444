import Daybook.Id
import Daybook.Proofs.Text.Padded

/-!
Identifiers that are written and read again. The hyphens stand where the reader looks for them and nowhere
else, and the 32 digits between them are the number (`Uuid.ofChars_toChars`).
-/

namespace Daybook

namespace Uuid

theorem toNat_lt (u : Uuid) : u.toNat < 16 ^ 32 :=
  u.bits.isLt

theorem length_digits (u : Uuid) : u.digits.length = 32 :=
  Text.length_padded (by decide) (by decide) u.toNat_lt

theorem hexDigit?_digitChar {d : Nat} (h : d < 16) : hexDigit? d.digitChar = some d := by
  revert d
  decide

/-- The digits spell the number. -/
theorem hexNumber?_digits (u : Uuid) : hexNumber? u.digits = some u.toNat := by
  refine Text.foldl_padded some (by decide) fun m d hd => ?_
  rw [hexDigit?_digitChar hd]
  rfl

theorem ofDigits?_digits (u : Uuid) : ofDigits? u.digits = some u := by
  rw [ofDigits?, if_pos u.length_digits, hexNumber?_digits, Option.map_some, toNat, BitVec.ofNat_toNat,
    BitVec.setWidth_eq]

/-- No digit is a hyphen. -/
theorem filter_of_digits {u : Uuid} {cs : List Char} (h : ∀ c ∈ cs, c ∈ u.digits) :
    cs.filter (· != '-') = cs := by
  refine List.filter_eq_self.2 fun c hc => ?_
  obtain ⟨d, -, rfl⟩ := Text.exists_of_mem_padded (by decide) (h c hc)
  rw [bne_iff_ne]
  exact Nat.digitChar_ne '-' rfl

/-- Without the hyphens there are the digits in their order. -/
theorem filter_toChars (u : Uuid) : u.toChars.filter (· != '-') = u.digits := by
  have htake : ∀ i j, ((u.digits.drop i).take j).filter (· != '-') = (u.digits.drop i).take j :=
    fun i j => filter_of_digits fun c hc => List.mem_of_mem_drop (List.mem_of_mem_take hc)
  have hfirst := htake 0 8
  have hlast : (u.digits.drop 20).filter (· != '-') = u.digits.drop 20 :=
    filter_of_digits fun c hc => List.mem_of_mem_drop hc
  have hhyphen : ∀ cs : List Char, ('-' :: cs).filter (· != '-') = cs.filter (· != '-') :=
    fun cs => List.filter_cons_of_neg (by decide)
  rw [List.drop_zero] at hfirst
  simp only [toChars, List.cons_append, List.append_assoc, List.filter_append, hhyphen, hfirst, htake, hlast]
  calc
    u.digits.take 8 ++ ((u.digits.drop 8).take 4 ++ ((u.digits.drop 12).take 4 ++
        ((u.digits.drop 16).take 4 ++ u.digits.drop 20))) =
        u.digits.take 8 ++ ((u.digits.drop 8).take 4 ++ ((u.digits.drop 12).take 4 ++ u.digits.drop 16)) := by
      rw [show u.digits.drop 20 = (u.digits.drop 16).drop 4 by rw [List.drop_drop], List.take_append_drop]
    _ = u.digits.take 8 ++ ((u.digits.drop 8).take 4 ++ u.digits.drop 12) := by
      rw [show u.digits.drop 16 = (u.digits.drop 12).drop 4 by rw [List.drop_drop], List.take_append_drop]
    _ = u.digits.take 8 ++ u.digits.drop 8 := by
      rw [show u.digits.drop 12 = (u.digits.drop 8).drop 4 by rw [List.drop_drop], List.take_append_drop]
    _ = u.digits := List.take_append_drop ..

/-- **An identifier that is written is read as it was.** -/
theorem ofChars_toChars (u : Uuid) : ofChars? u.toChars = some u := by
  have hlength : u.toChars.length = 36 := by
    simp [toChars, length_digits]
  have hhyphens : u.toChars[8]? = some '-' ∧ u.toChars[13]? = some '-' ∧ u.toChars[18]? = some '-' ∧
      u.toChars[23]? = some '-' := by
    simp [toChars, length_digits]
  rw [ofChars?, if_neg (by omega), if_pos hlength, ofHyphenated?, if_pos ⟨hlength, hhyphens⟩,
    filter_toChars, ofDigits?_digits]

theorem ofText_toText (u : Uuid) : ofText? u.toText = some u := by
  rw [ofText?, toText, String.toList_ofList]
  exact u.ofChars_toChars

end Uuid

namespace Id

variable {subject : Subject}

theorem ofText_toText (id : Id subject) : ofText? id.toText = some id := by
  rw [ofText?, toText, Uuid.ofText_toText]
  rfl

theorem ofJson_toJson (id : Id subject) : ofJson? id.toJson = some id := by
  rw [ofJson?, toJson, Json.string?, Option.bind_some]
  exact id.ofText_toText

theorem toJson_ne_null (id : Id subject) : id.toJson ≠ .null :=
  fun h => Json.noConfusion h

end Id

end Daybook
