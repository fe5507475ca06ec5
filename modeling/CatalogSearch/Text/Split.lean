/-!
Cutting a text at a separator character: once at the first one, or into all its pieces. `List.splitOn` gives the
pieces between separators, empty ones included, so there is always at least one.
-/
namespace CatalogSearch.Text
variable {sep : Char} {s : List Char}

theorem not_mem_of_mem_splitOn {piece : List Char} (h : piece ∈ s.splitOn sep) : sep ∉ piece := by
  induction s generalizing piece with
  | nil =>
    rw [List.splitOn_nil, List.mem_singleton] at h
    rw [h]
    exact List.not_mem_nil
  | cons c rest ih =>
    obtain ⟨first, pieces, hpieces⟩ := List.exists_cons_of_ne_nil (List.splitOn_ne_nil sep rest)
    rw [List.splitOn_cons_eq_if_modifyHead] at h
    split at h
    · rcases List.mem_cons.1 h with rfl | h
      · exact List.not_mem_nil
      · exact ih h
    · next hc =>
      rw [hpieces] at ih h
      rcases List.mem_cons.1 h with rfl | h
      · have hfirst : sep ∉ first := ih List.mem_cons_self
        have hne : sep ≠ c := fun heq => hc (beq_iff_eq.2 heq.symm)
        rw [List.mem_cons, not_or]
        exact ⟨hne, hfirst⟩
      · exact ih (List.mem_cons_of_mem _ h)

def cut (sep : Char) : List Char → Option (List Char × List Char)
  | [] => none
  | c :: rest =>
    if c = sep then some ([], rest) else (cut sep rest).map fun (before, after) => (c :: before, after)

theorem cut_eq_some {before after : List Char} (h : cut sep s = some (before, after)) :
    s = before ++ sep :: after := by
  induction s generalizing before with
  | nil => simp [cut] at h
  | cons c rest ih =>
    simp only [cut] at h
    split at h
    · next hc => simp at h; simp [hc, h.1.symm, h.2]
    · obtain ⟨⟨b, a⟩, hr, he⟩ := Option.map_eq_some_iff.1 h
      simp only [Prod.mk.injEq] at he
      obtain ⟨rfl, rfl⟩ := he
      simp [ih hr]

end CatalogSearch.Text
