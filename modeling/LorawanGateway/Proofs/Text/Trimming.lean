import LorawanGateway.Text.Blank

/-!
Texts without the blanks around them. What has no blank in it comes back from the blanks that stand
before and after it.
-/

namespace LorawanGateway.Text

variable {before solids after : List Char}

theorem dropWhile_isBlank_append (blank : ∀ c ∈ before, isBlank c = true)
    (solid : ∀ c ∈ solids, isBlank c = false) :
    (before ++ solids).dropWhile isBlank = solids := by
  rw [List.dropWhile_append_of_pos blank]
  cases solids with
  | nil => rfl
  | cons c rest => rw [List.dropWhile_cons_of_neg (by simp [solid c List.mem_cons_self])]

theorem trimChars_append (nonempty : solids ≠ []) (first : ∀ c ∈ before, isBlank c = true)
    (last : ∀ c ∈ after, isBlank c = true) (solid : ∀ c ∈ solids, isBlank c = false) :
    trimChars (before ++ (solids ++ after)) = solids := by
  have front : (before ++ (solids ++ after)).dropWhile isBlank = solids ++ after := by
    rw [List.dropWhile_append_of_pos first]
    cases solids with
    | nil => exact (nonempty rfl).elim
    | cons c rest =>
        rw [List.cons_append, List.dropWhile_cons_of_neg (by simp [solid c List.mem_cons_self])]
  have back : (after.reverse ++ solids.reverse).dropWhile isBlank = solids.reverse :=
    dropWhile_isBlank_append (by simpa using last) (by simpa using solid)
  rw [trimChars, front, List.reverse_append, back, List.reverse_reverse]

theorem trim_of_solid {text : String} (solid : ∀ c ∈ text.toList, isBlank c = false) :
    trim text = text := by
  have front {chars : List Char} (solid : ∀ c ∈ chars, isBlank c = false) :
      chars.dropWhile isBlank = chars := by
    have nothing : ∀ c ∈ ([] : List Char), isBlank c = true := fun _ => nofun
    exact dropWhile_isBlank_append nothing solid
  have back : text.toList.reverse.dropWhile isBlank = text.toList.reverse :=
    front fun c member => solid c (List.mem_reverse.mp member)
  rw [trim, trimChars, front solid, back, List.reverse_reverse, String.ofList_toList]

end LorawanGateway.Text
