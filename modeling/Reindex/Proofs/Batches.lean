import Mathlib.Algebra.GroupWithZero.Nat
import Reindex.Run.Ingest

/-!
# Batches as pieces

`batches` cuts a list front to back.  Here each batch is described by its place alone: batch number
`i`, counted from zero, is `piece size i`, and there are `batchCount` of them.
-/

namespace Reindex

variable {α : Type}

/-- How many pieces of length `size` cover a list of length `n`: the quotient, rounded up. -/
def batchCount (size n : Nat) : Nat := (n + size - 1) / size

/-- The elements of `xs` from place `i * size` on, at most `size` of them. -/
def piece (size i : Nat) (xs : List α) : List α := (xs.drop (i * size)).take size

/-! ## The recursion -/

theorem batches_nil (size : Nat) : batches size ([] : List α) = [] := by
  rw [batches, dif_pos (.inr rfl)]

theorem batches_step {size : Nat} {xs : List α} (hsize : size ≠ 0) (hxs : xs ≠ []) :
    batches size xs = xs.take size :: batches size (xs.drop size) := by
  rw [batches, dif_neg (not_or.mpr ⟨hsize, hxs⟩)]

theorem batchCount_step {size n : Nat} (hsize : size ≠ 0) (hn : n ≠ 0) :
    batchCount size n = batchCount size (n - size) + 1 := by
  unfold batchCount
  -- A short list is covered by the one piece, which the subtraction cuts off at zero.
  by_cases hle : size ≤ n
  · rw [show n + size - 1 = (n - size + size - 1) + size by omega,
      Nat.add_div_right _ (Nat.pos_of_ne_zero hsize)]
  · rw [show n - size = 0 by omega, Nat.div_eq_of_lt (show 0 + size - 1 < size by omega),
      show n + size - 1 = (n - 1) + size by omega, Nat.add_div_right _ (Nat.pos_of_ne_zero hsize),
      Nat.div_eq_of_lt (show n - 1 < size by omega)]

theorem batchCount_zero {size : Nat} (hsize : size ≠ 0) : batchCount size 0 = 0 :=
  Nat.div_eq_of_lt (by omega)

theorem piece_zero (size : Nat) (xs : List α) : piece size 0 xs = xs.take size := by
  rw [piece, Nat.zero_mul, List.drop_zero]

theorem piece_succ (size i : Nat) (xs : List α) :
    piece size (i + 1) xs = piece size i (xs.drop size) := by
  rw [piece, piece, List.drop_drop, Nat.succ_mul, Nat.add_comm]

/-! ## The batches by their places -/

/-- The batches are the pieces, in order. -/
theorem batches_eq_map_piece {size : Nat} (hsize : size ≠ 0) (xs : List α) :
    batches size xs = (List.range (batchCount size xs.length)).map (piece size · xs) := by
  by_cases hxs : xs = []
  · subst hxs
    rw [batches_nil, List.length_nil, batchCount_zero hsize, List.range_zero, List.map_nil]
  · have hpos : xs.length ≠ 0 := fun h => hxs (List.eq_nil_of_length_eq_zero h)
    rw [batches_step hsize hxs, batches_eq_map_piece hsize (xs.drop size),
      batchCount_step hsize hpos, List.range_succ_eq_map, List.map_cons, List.map_map,
      piece_zero, List.length_drop]
    congr 1
    -- A piece of what is left is the next piece of the whole.
    exact List.map_congr_left fun i _ => (piece_succ size i xs).symm
termination_by xs.length
decreasing_by simp only [List.length_drop]; omega

theorem length_batches {size : Nat} (hsize : size ≠ 0) (xs : List α) :
    (batches size xs).length = batchCount size xs.length := by
  rw [batches_eq_map_piece hsize, List.length_map, List.length_range]

theorem getElem_batches {size i : Nat} {xs : List α} (hsize : size ≠ 0)
    (hi : i < (batches size xs).length) : (batches size xs)[i] = piece size i xs := by
  simp only [batches_eq_map_piece hsize, List.getElem_map, List.getElem_range]

theorem piece_mem_batches {size i : Nat} {xs : List α} (hsize : size ≠ 0)
    (hi : i < batchCount size xs.length) : piece size i xs ∈ batches size xs := by
  have hlt : i < (batches size xs).length := by
    rw [length_batches hsize]
    exact hi
  rw [← getElem_batches hsize hlt]
  exact List.getElem_mem hlt

/-- Together the batches are the whole list. -/
theorem flatten_batches {size : Nat} (hsize : size ≠ 0) (xs : List α) :
    (batches size xs).flatten = xs := by
  by_cases hxs : xs = []
  · subst hxs
    rw [batches_nil, List.flatten_nil]
  · have hpos : xs.length ≠ 0 := fun h => hxs (List.eq_nil_of_length_eq_zero h)
    rw [batches_step hsize hxs, List.flatten_cons, flatten_batches hsize (xs.drop size),
      List.take_append_drop]
termination_by xs.length
decreasing_by simp only [List.length_drop]; omega

/-- No batch is empty. -/
theorem ne_nil_of_mem_batches {size : Nat} {xs b : List α} (hb : b ∈ batches size xs) :
    b ≠ [] := by
  by_cases h : size = 0 ∨ xs = []
  · rw [batches, dif_pos h] at hb
    exact absurd hb List.not_mem_nil
  · obtain ⟨hsize, hxs⟩ := not_or.mp h
    have hpos : xs.length ≠ 0 := fun h => hxs (List.eq_nil_of_length_eq_zero h)
    rw [batches_step hsize hxs] at hb
    rcases List.mem_cons.mp hb with rfl | hb
    · intro htake
      rw [List.take_eq_nil_iff] at htake
      exact htake.elim hsize hxs
    · exact ne_nil_of_mem_batches hb
termination_by xs.length
decreasing_by simp only [List.length_drop]; omega

theorem mem_of_mem_batches {size : Nat} {xs b : List α} (hb : b ∈ batches size xs) {x : α}
    (hx : x ∈ b) : x ∈ xs := by
  by_cases hsize : size = 0
  · rw [batches, dif_pos (.inl hsize)] at hb
    exact absurd hb List.not_mem_nil
  · rw [← flatten_batches hsize xs]
    exact List.mem_flatten_of_mem hb hx

theorem sum_length_batches {size : Nat} (hsize : size ≠ 0) (xs : List α) :
    ((batches size xs).map List.length).sum = xs.length := by
  rw [← List.length_flatten, flatten_batches hsize]

example : batches 2 ["a", "b", "c"] = [["a", "b"], ["c"]] := by decide +kernel

/-! ## The first pieces -/

theorem lt_batchCount_iff {size : Nat} (hsize : size ≠ 0) (i n : Nat) :
    i < batchCount size n ↔ i * size < n := by
  unfold batchCount
  rw [← Nat.succ_le_iff, Nat.le_div_iff_mul_le (Nat.pos_of_ne_zero hsize), Nat.succ_mul]
  omega

theorem length_piece (size i : Nat) (xs : List α) :
    (piece size i xs).length = min size (xs.length - i * size) := by
  rw [piece, List.length_take, List.length_drop]

/-- The first pieces together are the beginning of the list. -/
theorem flatten_pieces (size k : Nat) (xs : List α) :
    ((List.range k).map (piece size · xs)).flatten = xs.take (k * size) := by
  induction k with
  | zero => rw [Nat.zero_mul, List.take_zero, List.range_zero, List.map_nil, List.flatten_nil]
  | succ k ih =>
    rw [List.range_succ, List.map_append, List.flatten_append, ih, Nat.succ_mul, List.take_add]
    simp [piece]

theorem sum_length_pieces (size k : Nat) (xs : List α) :
    ((List.range k).map fun i => (piece size i xs).length).sum = min (k * size) xs.length := by
  rw [← List.length_take, ← flatten_pieces, List.length_flatten, List.map_map]
  rfl

/-- The places where the pieces end come one after another. -/
theorem ends_increase {size : Nat} (hsize : size ≠ 0) (n : Nat) :
    ((List.range (batchCount size n)).map fun i => min ((i + 1) * size) n).Pairwise (· < ·) := by
  rw [List.pairwise_map]
  refine List.pairwise_lt_range.imp_of_mem fun {i j} _ hj hij => ?_
  -- The later piece begins before the end of the list, and not before the end of the earlier one.
  have hbegin := (lt_batchCount_iff hsize j n).mp (List.mem_range.mp hj)
  have hend : (i + 1) * size ≤ j * size := Nat.mul_le_mul_right size hij
  rw [Nat.succ_mul j]
  omega

/-- The slices are cut off a list one after another, `size` elements at a time.  Only a slice that
ends the list is shorter, and none is empty. -/
structure CutInto (size : Nat) (xs : List α) (slices : List (List α)) : Prop where
  start : slices.flatten <+: xs
  ne_nil : ∀ slice ∈ slices, slice ≠ []
  full : ∀ before slice after, slices = before ++ slice :: after →
    slice.length = size ∨ slice.length < size ∧ before.flatten ++ slice = xs

theorem cutInto_pieces {size k : Nat} {xs : List α} (hsize : size ≠ 0)
    (hk : k ≤ batchCount size xs.length) :
    CutInto size xs ((List.range k).map (piece size · xs)) where
  start := by
    rw [flatten_pieces]
    exact List.take_prefix ..
  ne_nil slice hslice := by
    obtain ⟨i, hi, rfl⟩ := List.mem_map.mp hslice
    have hlt := (lt_batchCount_iff hsize i xs.length).mp (by have := List.mem_range.mp hi; omega)
    apply List.ne_nil_of_length_pos
    rw [length_piece]
    omega
  full before slice after heq := by
    -- The slice is the piece at its place, and before it stand the pieces before it.
    have hlt : before.length < k := by
      have hlength := congrArg List.length heq
      simp only [List.length_map, List.length_range, List.length_append, List.length_cons]
        at hlength
      omega
    have hslice : slice = piece size before.length xs := by
      have hget := congrArg (·[before.length]?) heq
      simpa [List.getElem?_range hlt, eq_comm] using hget
    have hbefore : before = (List.range before.length).map (piece size · xs) := by
      have htake := congrArg (List.take before.length) heq
      rw [List.take_left, ← List.map_take, List.take_range,
        Nat.min_eq_left (Nat.le_of_lt hlt)] at htake
      exact htake.symm
    rw [hbefore, flatten_pieces, hslice, length_piece]
    by_cases hshort : xs.length - before.length * size < size
    · have hrest : piece size before.length xs = xs.drop (before.length * size) :=
        List.take_of_length_le (by rw [List.length_drop]; omega)
      refine .inr ⟨by omega, ?_⟩
      rw [hrest, List.take_append_drop]
    · exact .inl (by omega)

end Reindex
