import CatalogSearch.Search.Request
import Mathlib.Algebra.Order.Ring.Nat
/-!
Consecutive pages. `Page.window` are the places of the result list that a page shows. The main statement is
`pages_tile`: a page starts after all entries of the pages before it, as far as that can be counted in 64 bits;
and the windows of the first pages of one size, one after the other, are the first places in order.
-/
namespace CatalogSearch

namespace Page

/-- The places of the entries on a page, counted from zero. -/
def window (page : Page) : List Nat := List.range' page.offset.toNat page.size.toNat

def firstPages (size : UInt64) (count : Nat) : List Page :=
  (List.range count).map fun i => ⟨UInt64.ofNat (i + 1), size⟩

/-- There is no page before the first one, so a page number of zero is read as one. -/
theorem toNat_offset_max (page : Page) :
    page.offset.toNat = min ((max page.number.toNat 1 - 1) * page.size.toNat) (2 ^ 64 - 1) := by
  have hnumber : max page.number.toNat 1 - 1 = page.number.toNat - 1 := by omega
  rw [toNat_offset, hnumber]
  rfl

theorem offset_le_offset {m n : UInt64} (h : m ≤ n) (size : UInt64) :
    (⟨m, size⟩ : Page).offset ≤ (⟨n, size⟩ : Page).offset := by
  rw [UInt64.le_iff_toNat_le] at h ⊢
  have hmul : (m.toNat - 1) * size.toNat ≤ (n.toNat - 1) * size.toNat :=
    Nat.mul_le_mul_right _ (by omega)
  rw [toNat_offset, toNat_offset]
  simp only
  omega

section Tiling
variable {size : UInt64} {count : Nat}

theorem toNat_ofNat_succ {i : Nat} (h : i + 1 ≤ 2 ^ 64 - 1) : (UInt64.ofNat (i + 1)).toNat = i + 1 := by
  apply UInt64.toNat_ofNat_of_lt'
  simp only [UInt64.size]
  omega

/-- While the places can be counted in 64 bits, each page starts after all entries of the pages before it. -/
theorem toNat_offset_ofNat {i : Nat} (hsize : 1 ≤ size.toNat) (hfits : i * size.toNat + size.toNat ≤ 2 ^ 64 - 1) :
    (⟨UInt64.ofNat (i + 1), size⟩ : Page).offset.toNat = i * size.toNat := by
  have hi : i ≤ i * size.toNat := Nat.le_mul_of_pos_right i hsize
  have hnumber := toNat_ofNat_succ (i := i) (by omega)
  rw [toNat_offset_max]
  simp only [hnumber]
  have hbefore : max (i + 1) 1 - 1 = i := by omega
  rw [hbefore]
  omega

theorem fits_of_lt {i : Nat} (h : i < count) (hfits : count * size.toNat ≤ 2 ^ 64 - 1) :
    i * size.toNat + size.toNat ≤ 2 ^ 64 - 1 := by
  have hmul : (i + 1) * size.toNat ≤ count * size.toNat := Nat.mul_le_mul_right _ h
  rw [Nat.add_mul, Nat.one_mul] at hmul
  omega

theorem firstPages_succ (size : UInt64) (count : Nat) :
    firstPages size (count + 1) = firstPages size count ++ [⟨UInt64.ofNat (count + 1), size⟩] := by
  rw [firstPages, List.range_succ, List.map_append]
  rfl

theorem flatMap_window_firstPages (hsize : 1 ≤ size.toNat) (hfits : count * size.toNat ≤ 2 ^ 64 - 1) :
    (firstPages size count).flatMap window = List.range (count * size.toNat) := by
  induction count with
  | zero => simp [firstPages]
  | succ count ih =>
    have hlast := fits_of_lt (Nat.lt_succ_self count) hfits
    have hbefore := ih (by omega)
    have hoffset := toNat_offset_ofNat hsize hlast
    rw [firstPages_succ, List.flatMap_append, hbefore, List.flatMap_singleton, window, hoffset, Nat.succ_mul,
      List.range_eq_range', List.range_eq_range', ← List.range'_append, Nat.zero_add, Nat.one_mul]

theorem pairwise_firstPages (hsize : 1 ≤ size.toNat) (hfits : count * size.toNat ≤ 2 ^ 64 - 1) :
    (firstPages size count).Pairwise fun p q => p.offset.toNat + p.size.toNat ≤ q.offset.toNat := by
  rw [firstPages, List.pairwise_map]
  apply List.pairwise_lt_range.imp_of_mem
  intro i j hi hj hlt
  have hfirst := toNat_offset_ofNat hsize (fits_of_lt (List.mem_range.1 hi) hfits)
  have hsecond := toNat_offset_ofNat hsize (fits_of_lt (List.mem_range.1 hj) hfits)
  have hmul : (i + 1) * size.toNat ≤ j * size.toNat := Nat.mul_le_mul_right _ hlt
  rw [Nat.add_mul, Nat.one_mul] at hmul
  rw [hfirst, hsecond]
  exact hmul

theorem map_number_firstPages (hsize : 1 ≤ size.toNat) (hfits : count * size.toNat ≤ 2 ^ 64 - 1) :
    (firstPages size count).map (fun page => page.number.toNat) = List.range' 1 count := by
  have hcount : count ≤ count * size.toNat := Nat.le_mul_of_pos_right count hsize
  rw [firstPages, List.map_map, List.range'_eq_map_range]
  apply List.map_congr_left
  intro i hi
  rw [List.mem_range] at hi
  have hnumber := toNat_ofNat_succ (i := i) (by omega)
  rw [Function.comp_apply, hnumber, Nat.add_comm]

end Tiling
end Page

namespace SearchRequest

theorem toNat_start (r : SearchRequest) :
    r.start.toNat = min ((max r.page.number.toNat 1 - 1) * r.page.size.toNat) (2 ^ 64 - 1) :=
  r.page.toNat_offset_max

theorem find?_from (r : SearchRequest) :
    ∃ members, r.body = .object members ∧ Table.find? members "from" = some (.ofWord r.start) :=
  ⟨_, rfl, rfl⟩

end SearchRequest

namespace Page

/-- A page and a search request for it say the same number of entries before it, the product kept to 64 bits; this
number is in the body of the request. No page of a size comes before an earlier one. The pages `1` to `count` show
the places up to the end of the last one, each place once and in order. -/
theorem pages_tile :
    (∀ page : Page, page.offset.toNat =
      min ((max page.number.toNat 1 - 1) * page.size.toNat) (2 ^ 64 - 1)) ∧
    (∀ r : SearchRequest,
      r.start.toNat = min ((max r.page.number.toNat 1 - 1) * r.page.size.toNat) (2 ^ 64 - 1) ∧
      ∃ members, r.body = .object members ∧ Table.find? members "from" = some (.ofNat r.start.toNat)) ∧
    (∀ m n size : UInt64, m ≤ n → (⟨m, size⟩ : Page).offset ≤ (⟨n, size⟩ : Page).offset) ∧
    ∀ (size : UInt64) (count : Nat), 1 ≤ size.toNat → count * size.toNat ≤ 2 ^ 64 - 1 →
      (firstPages size count).map (fun page => page.number.toNat) = List.range' 1 count ∧
      ((firstPages size count).Pairwise fun p q => p.offset.toNat + p.size.toNat ≤ q.offset.toNat) ∧
      (firstPages size count).flatMap window = List.range (count * size.toNat) := by
  refine ⟨toNat_offset_max, ?_, ?_, ?_⟩
  · intro r
    exact ⟨r.toNat_start, r.find?_from⟩
  · intro m n size h
    exact offset_le_offset h size
  · intro size count hsize hfits
    exact ⟨map_number_firstPages hsize hfits, pairwise_firstPages hsize hfits,
      flatMap_window_firstPages hsize hfits⟩

theorem pages_tile_greatest :
    (firstPages 6148914691236517205 3).map (fun page => page.number.toNat) = List.range' 1 3 ∧
      (firstPages 6148914691236517205 3).flatMap window = List.range (2 ^ 64 - 1) := by
  obtain ⟨hnumbers, -, hplaces⟩ := pages_tile.2.2.2 6148914691236517205 3 (by decide) (by decide)
  exact ⟨hnumbers, hplaces⟩

example : (⟨9223372036854775807, 9223372036854775807⟩ : Page).offset = 18446744073709551615 := by decide

end Page
end CatalogSearch
