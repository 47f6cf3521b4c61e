import QueryFlow.Graph.Builder

/-!
Node ids tell apart what they are made of. An id ends in its number and the number holds no
underscore, so the last underscore of an id parts the number from the start of its kind.
-/

namespace QueryFlow.Builder

theorem idStart_injective {k l : NodeKind} (h : idStart k = idStart l) : k = l := by
  cases k <;> cases l <;> simp_all [idStart]

theorem toDigits_injective {m n : Nat} (h : Nat.toDigits 10 m = Nat.toDigits 10 n) : m = n := by
  have hm := Nat.ofDigitChars_toDigits (b := 10) (n := m) (by decide) (by decide)
  rw [h, Nat.ofDigitChars_toDigits (by decide) (by decide)] at hm
  exact hm.symm

/-- The last occurrence of a separator splits a text in only one way. -/
theorem append_separator_inj {α : Type} {x : α} {a b d e : List α} (hd : x ∉ d) (he : x ∉ e)
    (h : a ++ x :: d = b ++ x :: e) : a = b ∧ d = e := by
  rcases List.append_eq_append_iff.mp h with ⟨more, hb, htail⟩ | ⟨more, ha, htail⟩
  · cases more with
    | nil => exact ⟨by simpa using hb.symm, by simpa using htail⟩
    | cons y ys =>
      have hx : d = ys ++ x :: e := (List.cons.inj htail).2
      exact absurd (by simp [hx]) hd
  · cases more with
    | nil => exact ⟨by simpa using ha, by simpa using htail.symm⟩
    | cons y ys =>
      have hx : e = ys ++ x :: d := (List.cons.inj htail).2
      exact absurd (by simp [hx]) he

theorem nodeId_toList (kind : NodeKind) (number : Nat) :
    (nodeId kind number).toList = (idStart kind).toList ++ '_' :: Nat.toDigits 10 number := by
  simp [nodeId, toString]

theorem nodeId_injective {k l : NodeKind} {m n : Nat} (h : nodeId k m = nodeId l n) :
    k = l ∧ m = n := by
  have hl := congrArg String.toList h
  rw [nodeId_toList, nodeId_toList] at hl
  obtain ⟨hstart, hdigits⟩ := append_separator_inj Nat.underscore_not_in_toDigits
    Nat.underscore_not_in_toDigits hl
  exact ⟨idStart_injective (String.toList_inj.mp hstart), toDigits_injective hdigits⟩

end QueryFlow.Builder
