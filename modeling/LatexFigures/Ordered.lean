/-! Lists whose items have keys, in the order in which the keys first came. -/

namespace LatexFigures.Ordered

variable {α κ : Type} [DecidableEq κ] (key : α → κ)

/-- Puts (item) in the place of the first item with its key, or at the end if there is none. -/
def put (item : α) : List α → List α
  | [] => [item]
  | first :: more => if key first = key item then item :: more else first :: put item more

/-- The keys stay in their order, and a new one comes last. -/
theorem map_put (item : α) (items : List α)
    : (put key item items).map key
      = if key item ∈ items.map key then items.map key else items.map key ++ [key item] := by
  induction items with
  | nil => simp [put]
  | cons first more ih =>
      by_cases same : key first = key item
      · simp [put, same]
      · have other : key item ≠ key first := fun h => same h.symm
        simp only [put, same, if_false, List.map_cons, ih, List.mem_cons, other, false_or]
        split <;> simp

/-- Distinct keys stay distinct. -/
theorem nodup_put {items : List α} (h : (items.map key).Nodup) (item : α)
    : ((put key item items).map key).Nodup := by
  rw [map_put]
  split
  · exact h
  · rename_i absent
    exact List.nodup_append.mpr
      ⟨h, by simp, fun a ha b hb => by
        rw [List.mem_singleton.mp hb]
        exact fun same => absent (same ▸ ha)⟩

/-- The item is there, and nothing else has its key any longer. -/
theorem mem_put {items : List α} (h : (items.map key).Nodup) (item other : α)
    : other ∈ put key item items ↔ other = item ∨ (other ∈ items ∧ key other ≠ key item) := by
  induction items with
  | nil => simp [put]
  | cons first more ih =>
      obtain ⟨once, distinct⟩ := List.nodup_cons.mp h
      by_cases same : key first = key item
      · have elsewhere : other ∈ more → key other ≠ key item := fun member here =>
          once (same.trans here.symm ▸ List.mem_map_of_mem member)
        rw [put, if_pos same, List.mem_cons, List.mem_cons]
        constructor
        · rintro (rfl | member)
          · exact .inl rfl
          · exact .inr ⟨.inr member, elsewhere member⟩
        · rintro (rfl | ⟨rfl | member, differs⟩)
          · exact .inl rfl
          · exact absurd same differs
          · exact .inr member
      · rw [put, if_neg same, List.mem_cons, List.mem_cons, ih distinct]
        constructor
        · rintro (rfl | rfl | ⟨member, differs⟩)
          · exact .inr ⟨.inl rfl, same⟩
          · exact .inl rfl
          · exact .inr ⟨.inr member, differs⟩
        · rintro (rfl | ⟨rfl | member, differs⟩)
          · exact .inr (.inl rfl)
          · exact .inl rfl
          · exact .inr (.inr ⟨member, differs⟩)

end LatexFigures.Ordered
