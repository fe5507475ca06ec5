/-!
Finite tables kept as lists of entries in order of first insertion. The main statement is `find?_insert`, which
says what one write does to every look-up.
-/
namespace CatalogSearch

abbrev Table (κ : Type) (α : Type) := List (κ × α)

namespace Table
variable {κ α : Type} [DecidableEq κ]

def find? (t : Table κ α) (key : κ) : Option α :=
  match t with
  | [] => none
  | (k, a) :: rest => if k = key then some a else find? rest key

/-- Replaces the entry in its place, or adds it at the end. -/
def insert (t : Table κ α) (key : κ) (value : α) : Table κ α :=
  match t with
  | [] => [(key, value)]
  | (k, a) :: rest => if k = key then (k, value) :: rest else (k, a) :: insert rest key value

def ofList (entries : List (κ × α)) : Table κ α :=
  entries.foldl (fun t (key, value) => insert t key value) []

def keys (t : Table κ α) : List κ := t.map Prod.fst

theorem find?_insert (t : Table κ α) (key k : κ) (value : α) :
    find? (insert t key value) k = if key = k then some value else find? t k := by
  induction t with
  | nil => simp [insert, find?]
  | cons entry rest ih =>
    obtain ⟨k', a⟩ := entry
    by_cases h : k' = key
    · subst h
      by_cases hk : k' = k <;> simp [insert, find?, hk]
    · by_cases hk : k' = k
      · subst hk
        simp [insert, find?, h, Ne.symm h]
      · simp [insert, find?, h, hk, ih]

theorem mem_keys_iff (t : Table κ α) (key : κ) : key ∈ keys t ↔ (find? t key).isSome := by
  induction t with
  | nil => simp [keys, find?]
  | cons entry rest ih =>
    obtain ⟨k, a⟩ := entry
    by_cases h : k = key
    · simp [keys, find?, h]
    · simp only [keys, find?, List.map_cons, List.mem_cons, h, if_false] at ih ⊢
      simp [ih, Ne.symm h]

theorem mem_of_find? {t : Table κ α} {key : κ} {value : α} (h : find? t key = some value) :
    (key, value) ∈ t := by
  induction t with
  | nil => cases h
  | cons entry rest ih =>
    obtain ⟨k, a⟩ := entry
    rw [find?] at h
    by_cases hk : k = key
    · rw [if_pos hk] at h
      cases h
      rw [hk]
      exact List.mem_cons_self
    · rw [if_neg hk] at h
      exact List.mem_cons_of_mem _ (ih h)

theorem mem_insert {t : Table κ α} {key : κ} {value : α} {entry : κ × α} (h : entry ∈ insert t key value) :
    entry = (key, value) ∨ entry ∈ t := by
  induction t with
  | nil => exact .inl (List.mem_singleton.1 h)
  | cons first rest ih =>
    obtain ⟨k, a⟩ := first
    rw [insert] at h
    by_cases hk : k = key
    · rw [if_pos hk] at h
      rcases List.mem_cons.1 h with rfl | hrest
      · exact .inl (by rw [hk])
      · exact .inr (List.mem_cons_of_mem _ hrest)
    · rw [if_neg hk] at h
      rcases List.mem_cons.1 h with rfl | hrest
      · exact .inr List.mem_cons_self
      · exact (ih hrest).imp_right (List.mem_cons_of_mem _)

end Table
end CatalogSearch
