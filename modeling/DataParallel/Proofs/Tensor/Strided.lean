import DataParallel.Tensor.Strided
import Mathlib.Data.List.Basic

/-!
# What lies in memory

Every order of memory holds the same items: the places that its axes lead to, in row-major order,
are those where the elements were put one after the other.
-/

namespace DataParallel

theorem map_range_mul {α : Type} (f : Nat → α) (m n : Nat) :
    (List.range (m * n)).map f =
      (List.range m).flatMap fun i => (List.range n).map fun j => f (i * n + j) := by
  induction m with
  | zero => simp
  | succ m ih =>
    rw [Nat.succ_mul, List.range_add, List.map_append, ih, List.range_succ, List.flatMap_append,
      List.map_map]
    simp [Function.comp_def]

/-- Pieces of one length, one behind the other. -/
theorem take_drop_flatMap {α β : Type} {f : α → List β} {n : Nat} (hf : ∀ a, (f a).length = n)
    {as : List α} {i : Nat} (hi : i < as.length) :
    ((as.flatMap f).drop (n * i)).take n = f as[i] := by
  induction as generalizing i with
  | nil => exact absurd hi (Nat.not_lt_zero i)
  | cons a as ih =>
    rw [List.flatMap_cons]
    cases i with
    | zero => rw [Nat.mul_zero, List.drop_zero, List.take_left' (hf a), List.getElem_cons_zero]
    | succ i =>
      have hdrop : (f a ++ as.flatMap f).drop (n * (i + 1)) = (as.flatMap f).drop (n * i) := by
        rw [Nat.mul_succ, Nat.add_comm, ← List.drop_drop, List.drop_left' (hf a)]
      rw [hdrop, ih (Nat.lt_of_succ_lt_succ hi), List.getElem_cons_succ]

theorem flatMap_range_pieces {α : Type} {n count : Nat} {as : List α}
    (h : as.length = count * n) :
    ((List.range count).flatMap fun i => (as.drop (n * i)).take n) = as := by
  induction count generalizing as with
  | zero =>
    rw [Nat.zero_mul] at h
    rw [List.eq_nil_of_length_eq_zero h]
    rfl
  | succ count ih =>
    have hrest : (as.drop n).length = count * n := by
      rw [List.length_drop, h, Nat.succ_mul, Nat.add_sub_cancel]
    have hlater (i : Nat) : (as.drop (n * (i + 1))).take n = ((as.drop n).drop (n * i)).take n := by
      rw [List.drop_drop, Nat.mul_succ, Nat.add_comm]
    rw [List.range_succ_eq_map, List.flatMap_cons, List.flatMap_map, Nat.mul_zero, List.drop_zero]
    simp only [hlater, ih hrest, List.take_append_drop]

namespace Axis

@[simp] theorem map_length_rowMajor (shape : Shape) : (rowMajor shape).map length = shape := by
  induction shape with
  | nil => rfl
  | cons d rest ih => rw [rowMajor, List.map_cons, ih]

@[simp] theorem map_length_columnMajor (unit : Nat) (shape : Shape) :
    (columnMajor unit shape).map length = shape := by
  induction shape generalizing unit with
  | nil => rfl
  | cons d rest ih => rw [columnMajor, List.map_cons, ih]

theorem places_inBytes (itemSize : Nat) (axes : List Axis) (start : Int) :
    places (axes.map (inBytes itemSize)) (itemSize * start) =
      (places axes start).map fun (place : Int) => itemSize * place := by
  induction axes generalizing start with
  | nil => rfl
  | cons a axes ih =>
    have hstep (i : Nat) : (itemSize : Int) * start + i * (itemSize * a.stride) =
        itemSize * (start + i * a.stride) := by
      rw [Int.mul_add, Int.mul_left_comm]
    simp only [List.map_cons, places, inBytes, hstep, ih, List.map_flatMap]

theorem places_rowMajor (shape : Shape) (start : Nat) :
    places (rowMajor shape) start =
      (List.range shape.size).map fun i => ((start + i : Nat) : Int) := by
  induction shape generalizing start with
  | nil => simp [places, rowMajor, Shape.size]
  | cons d rest ih =>
    have hstep (i : Nat) : (start : Int) + i * (Shape.size rest : Int) =
        ((start + i * Shape.size rest : Nat) : Int) := by
      simp
    simp only [rowMajor, places, Shape.size, map_range_mul, hstep, ih, Nat.add_assoc]

end Axis

namespace MemoryOrder

/-- The places of a shape in row-major order: they are those of its axes, each of them lies within
the block, and they hold the elements from the first to the last. -/
structure Lays (order : MemoryOrder) (shape : Shape) (places : List Nat) : Prop where
  reached : Axis.places (order.axes shape) (order.origin shape) =
    places.map fun (place : Nat) => (place : Int)
  within : ∀ place ∈ places, place < shape.size
  inTurn : places.map (order.position shape) = List.range shape.size

theorem lays_rowMajor (shape : Shape) : rowMajor.Lays shape (List.range shape.size) where
  reached := by
    have hplaces := Axis.places_rowMajor shape 0
    simp only [Nat.zero_add] at hplaces
    exact hplaces
  within := fun _ => List.mem_range.1
  inTurn := List.map_id _

/-- Where the first dimension runs fastest, a place counts the indices from the last to the
first; the index of the first dimension is what is left over. -/
theorem places_columnMajor (shape : Shape) :
    ∃ places : List Nat,
      (∀ (unit : Nat) (start : Int), Axis.places (Axis.columnMajor unit shape) start =
        places.map fun (place : Nat) => start + unit * place) ∧
      (∀ place ∈ places, place < shape.size) ∧
      ∀ before, places.map (fun place => Shape.transposedIndex shape place before) =
        (List.range shape.size).map fun i => before * shape.size + i := by
  induction shape with
  | nil =>
    refine ⟨[0], fun unit start => ?_, fun place hplace => ?_, fun before => ?_⟩
    · simp [Axis.columnMajor, Axis.places]
    · simpa [Shape.size] using hplace
    · simp [Shape.transposedIndex, Shape.size]
  | cons d rest ih =>
    obtain ⟨places, hreached, hwithin, hinTurn⟩ := ih
    refine ⟨(List.range d).flatMap fun i => places.map fun place => i + d * place,
      fun unit start => ?_, fun place hplace => ?_, fun before => ?_⟩
    · have hstep (i place : Nat) : start + i * (unit : Int) + ((unit * d : Nat) : Int) * place =
          start + unit * ((i + d * place : Nat) : Int) := by
        rw [Int.natCast_mul, Int.natCast_add, Int.natCast_mul, Int.mul_add, Int.add_assoc,
          Int.mul_comm i, Int.mul_assoc]
      simp only [Axis.columnMajor, Axis.places, hreached, hstep, List.map_flatMap, List.map_map,
        Function.comp_def]
    · obtain ⟨i, hi, hplace⟩ := List.mem_flatMap.1 hplace
      obtain ⟨last, hlast, rfl⟩ := List.mem_map.1 hplace
      have hi := List.mem_range.1 hi
      calc i + d * last < d * (last + 1) := by rw [Nat.mul_succ]; omega
        _ ≤ d * Shape.size rest := Nat.mul_le_mul_left d (hwithin last hlast)
    · have hindex (i : Nat) (hi : i ∈ List.range d) :
          (places.map fun place => i + d * place).map
              (fun place => Shape.transposedIndex (d :: rest) place before) =
            (List.range (Shape.size rest)).map fun j =>
              before * (d * Shape.size rest) + (i * Shape.size rest + j) := by
        have hi := List.mem_range.1 hi
        have hstep (place : Nat) : Shape.transposedIndex (d :: rest) (i + d * place) before =
            Shape.transposedIndex rest place (before * d + i) := by
          rw [Shape.transposedIndex, Nat.add_mul_div_left _ _ (Nat.zero_lt_of_lt hi),
            Nat.div_eq_of_lt hi, Nat.zero_add, Nat.add_mul_mod_self_left, Nat.mod_eq_of_lt hi]
        simp only [List.map_map, Function.comp_def, hstep, hinTurn, Nat.add_mul, Nat.mul_assoc,
          Nat.add_assoc]
      rw [List.map_flatMap, Shape.size, map_range_mul, List.flatMap_congr hindex]

theorem lays_reversedRows (d : Nat) (rest : Shape) :
    reversedRows.Lays (d :: rest) ((List.range d).flatMap fun i =>
      (List.range (Shape.size rest)).map fun j => (d - 1 - i) * Shape.size rest + j) where
  reached := by
    have hrow (i : Nat) (hi : i ∈ List.range d) :
        Axis.places (Axis.rowMajor rest)
            (((d - 1) * Shape.size rest : Nat) + i * -(Shape.size rest : Int)) =
          ((List.range (Shape.size rest)).map fun j => (d - 1 - i) * Shape.size rest + j).map
            fun (place : Nat) => (place : Int) := by
      have hi := List.mem_range.1 hi
      have hle : i * Shape.size rest ≤ (d - 1) * Shape.size rest :=
        Nat.mul_le_mul_right _ (by omega)
      have hstart : (((d - 1) * Shape.size rest : Nat) : Int) + i * -(Shape.size rest : Int) =
          ((d - 1 - i) * Shape.size rest : Nat) := by
        rw [Nat.sub_mul (d - 1), Int.ofNat_sub hle, Int.mul_neg, Int.natCast_mul i]
        rfl
      rw [hstart, Axis.places_rowMajor, List.map_map]
      rfl
    rw [List.map_flatMap, ← List.flatMap_congr hrow]
    rfl
  within place hplace := by
    obtain ⟨i, hi, hplace⟩ := List.mem_flatMap.1 hplace
    obtain ⟨j, hj, rfl⟩ := List.mem_map.1 hplace
    have hi := List.mem_range.1 hi
    have hj := List.mem_range.1 hj
    calc (d - 1 - i) * Shape.size rest + j < (d - 1 - i + 1) * Shape.size rest := by
          rw [Nat.succ_mul]; omega
      _ ≤ d * Shape.size rest := Nat.mul_le_mul_right _ (by omega)
  inTurn := by
    have hrow (i : Nat) (hi : i ∈ List.range d) :
        ((List.range (Shape.size rest)).map fun j => (d - 1 - i) * Shape.size rest + j).map
            (reversedRows.position (d :: rest)) =
          (List.range (Shape.size rest)).map fun j => i * Shape.size rest + j := by
      have hi := List.mem_range.1 hi
      rw [List.map_map]
      refine List.map_congr_left fun j hj => ?_
      have hj := List.mem_range.1 hj
      have hpos : 0 < Shape.size rest := Nat.zero_lt_of_lt hj
      have hback : d - 1 - (d - 1 - i) = i := by omega
      have hdiv : ((d - 1 - i) * Shape.size rest + j) / Shape.size rest = d - 1 - i := by
        rw [Nat.add_comm, Nat.add_mul_div_right _ _ hpos, Nat.div_eq_of_lt hj, Nat.zero_add]
      have hmod : ((d - 1 - i) * Shape.size rest + j) % Shape.size rest = j := by
        rw [Nat.add_comm, Nat.add_mul_mod_self_right, Nat.mod_eq_of_lt hj]
      show (d - 1 - ((d - 1 - i) * Shape.size rest + j) / Shape.size rest) * Shape.size rest +
        ((d - 1 - i) * Shape.size rest + j) % Shape.size rest = _
      rw [hdiv, hmod, hback]
    have hall := map_range_mul id d (Shape.size rest)
    rw [List.map_id] at hall
    rw [List.map_flatMap, List.flatMap_congr hrow]
    exact hall.symm

theorem map_length_axes (order : MemoryOrder) (shape : Shape) :
    (order.axes shape).map Axis.length = shape := by
  cases order with
  | rowMajor => exact Axis.map_length_rowMajor shape
  | columnMajor => exact Axis.map_length_columnMajor 1 shape
  | reversedRows =>
    cases shape with
    | nil => rfl
    | cons d rest => rw [axes, List.map_cons, Axis.map_length_rowMajor]

theorem exists_lays (order : MemoryOrder) (shape : Shape) : ∃ places, order.Lays shape places := by
  cases order with
  | rowMajor => exact ⟨_, lays_rowMajor shape⟩
  | columnMajor =>
    obtain ⟨places, hreached, hwithin, hinTurn⟩ := places_columnMajor shape
    refine ⟨places, ?_, hwithin, ?_⟩
    · have hplaces := hreached 1 0
      simp only [Int.natCast_one, Int.one_mul, Int.zero_add] at hplaces
      exact hplaces
    · have hpositions := hinTurn 0
      simp only [Nat.zero_mul, Nat.zero_add, List.map_id'] at hpositions
      exact hpositions
  | reversedRows =>
    cases shape with
    | nil => exact ⟨[0], rfl, by simp [Shape.size], rfl⟩
    | cons d rest => exact ⟨_, lays_reversedRows d rest⟩

end MemoryOrder

namespace Strided

theorem length_places (axes : List Axis) (start : Int) :
    (Axis.places axes start).length = Shape.size (axes.map Axis.length) := by
  induction axes generalizing start with
  | nil => rfl
  | cons a axes ih =>
    rw [Axis.places, Bytes.length_flatMap_of_forall fun i => ih _, List.length_range]
    rfl

theorem length_bytes (a : Strided) : a.bytes.length = a.shape.size * a.item.size := by
  have hitem (address : Int) : (a.itemAt address).length = a.item.size := by
    rw [itemAt, List.length_map, List.length_range]
  rw [bytes, Bytes.length_flatMap_of_forall hitem, length_places, shape]

variable {item : ItemType} {axes : List Axis} {origin : Nat} {block : List UInt8}

theorem shape_inBlock : (inBlock item axes origin block).shape = axes.map Axis.length := by
  rw [shape, inBlock, List.map_map]
  rfl

theorem itemAt_inBlock {place : Nat} (h : item.size * place + item.size ≤ block.length) :
    (inBlock item axes origin block).itemAt (item.size * place : Nat) =
      (block.drop (item.size * place)).take item.size := by
  apply List.ext_getElem
  · simp only [itemAt, inBlock, List.length_map, List.length_range, List.length_take,
      List.length_drop]
    omega
  · intro k hk _
    have hk : k < item.size := by simpa [itemAt, inBlock] using hk
    have haddress : (((item.size * place : Nat) : Int) + (k : Int)).toNat =
      item.size * place + k := by omega
    have hinside : item.size * place + k < block.length := by omega
    rw [List.getElem_take, List.getElem_drop]
    simp only [itemAt, inBlock, List.getElem_map, List.getElem_range, haddress,
      Array.getD_eq_getD_getElem?, List.getElem?_toArray, List.getElem?_eq_getElem hinside,
      Option.getD_some]

theorem bytes_inBlock {places : List Nat}
    (hreached : Axis.places axes origin = places.map fun (place : Nat) => (place : Int))
    (hwithin : ∀ place ∈ places, item.size * place + item.size ≤ block.length) :
    (inBlock item axes origin block).bytes =
      places.flatMap fun place => (block.drop (item.size * place)).take item.size := by
  have hscaled := Axis.places_inBytes item.size axes origin
  rw [hreached, List.map_map] at hscaled
  have hitem (place : Nat) (hplace : place ∈ places) :
      (inBlock item axes origin block).itemAt (item.size * (place : Int)) =
        (block.drop (item.size * place)).take item.size := by
    rw [← Int.natCast_mul]
    exact itemAt_inBlock (hwithin place hplace)
  show (Axis.places (axes.map (Axis.inBytes item.size)) (item.size * origin : Nat)).flatMap _ = _
  rw [Int.natCast_mul, hscaled, List.flatMap_map]
  exact List.flatMap_congr hitem

theorem bytes_rowMajor {shape : Shape} (h : block.length = shape.size * item.size) :
    (inBlock item (Axis.rowMajor shape) 0 block).bytes = block := by
  have hlays := MemoryOrder.lays_rowMajor shape
  have hinside : ∀ place ∈ List.range shape.size,
      item.size * place + item.size ≤ block.length := fun place hplace => by
    rw [h, Nat.mul_comm, ← Nat.succ_mul]
    exact Nat.mul_le_mul_right _ (hlays.within place hplace)
  exact (bytes_inBlock hlays.reached hinside).trans (flatMap_range_pieces h)

theorem shape_ofTensor (t : Tensor) (order : MemoryOrder) : (ofTensor t order).shape = t.shape := by
  rw [ofTensor, shape_inBlock, MemoryOrder.map_length_axes]

/-- The bytes of a tensor do not depend on how its elements lie in memory. -/
theorem bytes_ofTensor (t : Tensor) (order : MemoryOrder) : (ofTensor t order).bytes = t.bytes := by
  let element (i : Nat) : List UInt8 := t.dtype.toBytes (t.cell i)
  have hsize (i : Nat) : (element i).length = t.dtype.itemSize := t.dtype.length_toBytes (t.cell i)
  have hcount : (order.positions t.shape).length = t.shape.size := by
    rw [MemoryOrder.positions, List.length_map, List.length_range]
  obtain ⟨places, hlays⟩ := order.exists_lays t.shape
  have hitem (place : Nat) (hplace : place ∈ places) :
      (((order.positions t.shape).flatMap element).drop (t.dtype.itemSize * place)).take
          t.dtype.itemSize = element (order.position t.shape place) := by
    have hinside : place < (order.positions t.shape).length := hcount ▸ hlays.within place hplace
    rw [take_drop_flatMap hsize hinside]
    simp [MemoryOrder.positions]
  have hcells : (List.range t.shape.size).map t.cell = t.cells := by
    apply List.ext_getElem
    · rw [List.length_map, List.length_range, t.length_cells]
    · intro i _ hi
      simp [Tensor.cell, hi]
  have hbytes : (ofTensor t order).bytes = places.flatMap fun place =>
      (((order.positions t.shape).flatMap element).drop (t.dtype.itemSize * place)).take
        t.dtype.itemSize := by
    have hinside : ∀ place ∈ places, t.dtype.itemSize * place + t.dtype.itemSize ≤
        ((order.positions t.shape).flatMap element).length := fun place hplace => by
      rw [Bytes.length_flatMap_of_forall hsize, hcount, Nat.mul_comm, ← Nat.succ_mul]
      exact Nat.mul_le_mul_right _ (hlays.within place hplace)
    exact bytes_inBlock hlays.reached hinside
  calc (ofTensor t order).bytes
      = places.flatMap fun place => element (order.position t.shape place) := by
        rw [hbytes, List.flatMap_congr hitem]
    _ = (List.range t.shape.size).flatMap element := by
        rw [← hlays.inTurn, List.flatMap_map]
    _ = t.bytes := by
        rw [Tensor.bytes, ← hcells, List.flatMap_map]

end Strided

end DataParallel
