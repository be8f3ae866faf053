import Switchboard.Wire.Stream

/-!
# Buffered reading

A reader reads a connection through a buffer, and only as far as a limit: at the limit the
connection reads as if it ended there. `Reader.view` is everything that a reader will ever read,
whatever the pieces and the buffer. The main statements say what the operations do to it:

* `Reader.view_fill`: filling the buffer changes nothing;
* `Reader.line_eq`: a line is read up to the first line feed of the view, or else up to its end;
* `Reader.exactly_eq`: so many bytes are read off the view, if it has them;
* `Reader.total_line` and `Reader.total_exactly`: what was consumed, what is in the buffer and
  what may still be read always add up to the same;
* `Reader.extent_line`: so do what was consumed and what is left of the view.
-/

namespace Switchboard

/-- A reader. -/
structure Reader where
  /-- What is still to come over the connection. -/
  coming : Stream
  /-- How many bytes may still be read off the connection. -/
  limit : Nat
  /-- What was read off the connection and not consumed. -/
  buffer : List UInt8 := []
  /-- How many bytes were consumed. -/
  consumed : Nat := 0
  deriving DecidableEq, Repr, Inhabited

namespace Reader

/-- The reader of a connection up to a limit. -/
def ofStream (s : Stream) (limit : Nat) : Reader := { coming := s, limit }

/-! ### Views -/

/-- Everything that will ever be read. -/
def view (r : Reader) : List UInt8 := r.buffer ++ r.coming.bytes.take r.limit

/-- Whether after that nothing more comes in time, instead of the end. -/
def stalls (r : Reader) : Bool := r.coming.stalls && r.coming.bytes.length < r.limit

/-- How many bytes may still be consumed. -/
def budget (r : Reader) : Nat := r.buffer.length + r.limit

/-- How many bytes may be consumed in all. -/
def total (r : Reader) : Nat := r.consumed + r.budget

/-- How many bytes there are in all, consumed or still to be read. -/
def extent (r : Reader) : Nat := r.consumed + r.view.length

/-! ### Consuming and filling the buffer -/

/-- How many bytes are read off a connection at once, at most. -/
def bufferSize : Nat := 8192

/-- Consumes so many bytes of the buffer. -/
def consume (r : Reader) (n : Nat) : Reader :=
  { r with buffer := r.buffer.drop n, consumed := r.consumed + n }

/-- Everything in the buffer is consumed. -/
def flush (r : Reader) : Reader := r.consume r.buffer.length

/-- Reads once off the connection. Nothing at the limit, or if nothing more comes. -/
def fill? (r : Reader) : Option Reader :=
  if r.limit = 0 then none
  else
    (r.coming.read? (min r.limit bufferSize)).map fun (got, coming) =>
      { r with coming, limit := r.limit - got.length, buffer := r.buffer ++ got }

section

variable {r f : Reader}

/-- What filling comes from. -/
private theorem read_of_fill (h : r.fill? = some f) :
    ∃ got coming, 0 < r.limit ∧ r.coming.read? (min r.limit bufferSize) = some (got, coming) ∧
      got.length ≤ r.limit ∧
      f = { r with coming, limit := r.limit - got.length, buffer := r.buffer ++ got } := by
  unfold fill? at h
  by_cases hl : r.limit = 0
  · simp [hl] at h
  · rw [if_neg hl] at h
    obtain ⟨⟨got, coming⟩, hr, rfl⟩ := Option.map_eq_some_iff.1 h
    exact ⟨got, coming, by omega, hr,
      Nat.le_trans (Stream.length_read hr) (Nat.min_le_left _ _), rfl⟩

/-- Filling takes something off what is to come. -/
theorem size_fill (h : r.fill? = some f) : f.coming.size < r.coming.size := by
  obtain ⟨got, coming, pos, hr, -, rfl⟩ := read_of_fill h
  exact Stream.size_read hr (by simp [bufferSize]; omega)

theorem view_fill (h : r.fill? = some f) : f.view = r.view := by
  obtain ⟨got, coming, -, hr, hl, rfl⟩ := read_of_fill h
  simp [view, Stream.bytes_read hr, List.take_append, List.take_of_length_le hl]

theorem stalls_fill (h : r.fill? = some f) : f.stalls = r.stalls := by
  obtain ⟨got, coming, -, hr, hl, rfl⟩ := read_of_fill h
  have lengths := congrArg List.length (Stream.bytes_read hr)
  simp only [List.length_append] at lengths
  simp only [stalls, Stream.stalls_read hr]
  congr 1
  exact decide_eq_decide.2 (by omega)

theorem total_fill (h : r.fill? = some f) : f.total = r.total := by
  obtain ⟨got, coming, -, -, hl, rfl⟩ := read_of_fill h
  simp only [total, budget, List.length_append]
  omega

theorem extent_fill (h : r.fill? = some f) : f.extent = r.extent := by
  obtain ⟨got, coming, -, -, -, rfl⟩ := read_of_fill h
  rw [extent, extent, view_fill h]

/-- Where nothing can be read off the connection, the buffer is all there is. -/
theorem view_of_fill_eq_none (h : r.fill? = none) : r.view = r.buffer := by
  unfold fill? at h
  by_cases hl : r.limit = 0
  · simp [view, hl]
  · rw [if_neg hl, Option.map_eq_none_iff] at h
    simp [view, Stream.bytes_of_read_eq_none h]

@[simp] theorem buffer_flush (r : Reader) : r.flush.buffer = [] := by simp [flush, consume]

@[simp] theorem stalls_flush (r : Reader) : r.flush.stalls = r.stalls := rfl

/-- The view after consuming bytes that are there. -/
theorem view_consume {n : Nat} (h : n ≤ r.buffer.length) :
    (r.consume n).view = r.view.drop n := by
  simp [consume, view, List.drop_append, Nat.sub_eq_zero_of_le h]

theorem total_consume {n : Nat} (h : n ≤ r.buffer.length) : (r.consume n).total = r.total := by
  simp only [consume, total, budget, List.length_drop]
  omega

theorem extent_consume {n : Nat} (h : n ≤ r.buffer.length) : (r.consume n).extent = r.extent := by
  have hview : r.buffer.length ≤ r.view.length := by simp [view]
  rw [extent, extent, view_consume h, List.length_drop]
  simp only [consume]
  omega

theorem view_eq_flush (r : Reader) : r.view = r.buffer ++ r.flush.view := by
  simp [flush, consume, view]

end

/-! ### Reading -/

/-- Reads on up to a line feed, which is consumed, or up to the end. Nothing if nothing more comes
in time. -/
def lineFrom (r : Reader) (before : List UInt8) : Option (List UInt8) × Reader :=
  let line := r.buffer.takeWhile (· != 0x0A)
  if line.length < r.buffer.length then (some (before ++ line), r.consume (line.length + 1))
  else
    match _h : r.flush.fill? with
    | some f => f.lineFrom (before ++ line)
    | none => (if r.stalls then none else some (before ++ line), r.flush)
termination_by r.coming.size
decreasing_by exact size_fill (r := r.flush) _h

/-- Reads a line, without the line feed. The end reads as an empty line. -/
def line (r : Reader) : Option (List UInt8) × Reader := r.lineFrom []

/-- Reads on so many bytes. Nothing if there are fewer. -/
def exactlyFrom (r : Reader) (n : Nat) (before : List UInt8) : Option (List UInt8) × Reader :=
  if n ≤ r.buffer.length then (some (before ++ r.buffer.take n), r.consume n)
  else
    match _h : r.flush.fill? with
    | some f => f.exactlyFrom (n - r.buffer.length) (before ++ r.buffer)
    | none => (none, r.flush)
termination_by r.coming.size
decreasing_by exact size_fill (r := r.flush) _h

/-- Reads so many bytes. -/
def exactly (r : Reader) (n : Nat) : Option (List UInt8) × Reader := r.exactlyFrom n []

/-! ### What reading does to the view -/

/-- What is not before the first line feed. -/
private theorem drop_length_line (bytes : List UInt8) :
    bytes.drop (bytes.takeWhile (· != 0x0A)).length = bytes.dropWhile (· != 0x0A) := by
  have split := List.takeWhile_append_dropWhile (p := fun b : UInt8 => b != 0x0A) (l := bytes)
  have left : (bytes.takeWhile (· != 0x0A) ++ bytes.dropWhile (· != 0x0A)).drop
      (bytes.takeWhile (· != 0x0A)).length = bytes.dropWhile (· != 0x0A) := List.drop_left
  rwa [split] at left

/-- A buffer that ends before its line feed, or has none. -/
private theorem line_of_not_lt {bytes : List UInt8}
    (h : ¬ (bytes.takeWhile (· != 0x0A)).length < bytes.length) :
    bytes.takeWhile (· != 0x0A) = bytes ∧ bytes.dropWhile (· != 0x0A) = [] := by
  have split := List.takeWhile_append_dropWhile (p := fun b : UInt8 => b != 0x0A) (l := bytes)
  have lengths := congrArg List.length split
  rw [List.length_append] at lengths
  have none : bytes.dropWhile (· != 0x0A) = [] := List.length_eq_zero_iff.1 (by omega)
  exact ⟨by rw [none, List.append_nil] at split; exact split, none⟩

/-- What reading a line comes to, in terms of the view. -/
private theorem lineFrom_spec (r : Reader) (before : List UInt8) :
    (r.lineFrom before).1 =
        (if (r.view.dropWhile (· != 0x0A)).isEmpty && r.stalls then none
          else some (before ++ r.view.takeWhile (· != 0x0A))) ∧
      (r.lineFrom before).2.view = (r.view.dropWhile (· != 0x0A)).drop 1 ∧
      (r.lineFrom before).2.stalls = r.stalls ∧ (r.lineFrom before).2.total = r.total := by
  fun_induction lineFrom r before with
  | case1 r before line h =>
    have left : r.buffer.dropWhile (· != 0x0A) ≠ [] := by
      intro none
      have := congrArg List.length
        (List.takeWhile_append_dropWhile (p := fun b : UInt8 => b != 0x0A) (l := r.buffer))
      rw [List.length_append, none] at this
      simp [line] at h
      simp at this
      omega
    have take : r.view.takeWhile (· != 0x0A) = line := by
      rw [view, List.takeWhile_append, if_neg (Nat.ne_of_lt h)]
    have drop : r.view.dropWhile (· != 0x0A) = r.view.drop line.length := by
      rw [← take, drop_length_line]
    refine ⟨?_, ?_, rfl, total_consume h⟩
    · have : (r.view.dropWhile (· != 0x0A)).isEmpty = false := by
        rw [view, List.dropWhile_append]
        simp [left]
      simp [this, take]
    · rw [view_consume h, drop, List.drop_drop]
  | case2 r before line h f hf ih =>
    obtain ⟨whole, none⟩ := line_of_not_lt h
    have hv : r.view = r.buffer ++ f.view := by rw [view_fill hf, ← view_eq_flush]
    have take : r.view.takeWhile (· != 0x0A) = line ++ f.view.takeWhile (· != 0x0A) := by
      rw [hv, List.takeWhile_append, if_pos (by rw [whole])]
      simp [line, whole]
    have drop : r.view.dropWhile (· != 0x0A) = f.view.dropWhile (· != 0x0A) := by
      rw [hv, List.dropWhile_append, none]
      simp
    have stalls : f.stalls = r.stalls := by rw [stalls_fill hf, stalls_flush]
    have total : f.total = r.total := by rw [total_fill hf, flush, total_consume (Nat.le_refl _)]
    obtain ⟨h1, h2, h3, h4⟩ := ih
    exact ⟨by rw [h1, take, drop, stalls, List.append_assoc], by rw [h2, drop],
      h3.trans stalls, h4.trans total⟩
  | case3 r before line h hf =>
    obtain ⟨whole, none⟩ := line_of_not_lt h
    have hv : r.view = r.buffer := by
      rw [view_eq_flush, view_of_fill_eq_none hf, buffer_flush, List.append_nil]
    refine ⟨?_, ?_, rfl, total_consume (Nat.le_refl _)⟩
    · simp [hv, none, line]
    · rw [view_of_fill_eq_none hf, hv, none, buffer_flush]
      rfl

private theorem lineFrom_extent (r : Reader) (before : List UInt8) :
    (r.lineFrom before).2.extent = r.extent := by
  fun_induction lineFrom r before with
  | case1 r before line h => exact extent_consume h
  | case2 r before line h f hf ih =>
    rw [ih, extent_fill hf, flush, extent_consume (Nat.le_refl _)]
  | case3 r before line h hf => exact extent_consume (Nat.le_refl _)

/-- A line is read up to the first line feed of the view, or else up to its end. -/
theorem line_eq (r : Reader) :
    r.line.1 =
      if (r.view.dropWhile (· != 0x0A)).isEmpty && r.stalls then none
      else some (r.view.takeWhile (· != 0x0A)) :=
  (lineFrom_spec r []).1

theorem view_line (r : Reader) : r.line.2.view = (r.view.dropWhile (· != 0x0A)).drop 1 :=
  (lineFrom_spec r []).2.1

theorem stalls_line (r : Reader) : r.line.2.stalls = r.stalls := (lineFrom_spec r []).2.2.1

theorem total_line (r : Reader) : r.line.2.total = r.total := (lineFrom_spec r []).2.2.2

theorem extent_line (r : Reader) : r.line.2.extent = r.extent := lineFrom_extent r []

/-- A line that is not empty is taken off the view. -/
theorem length_view_line {r : Reader} {bytes : List UInt8} (h : r.line.1 = some bytes)
    (hb : bytes ≠ []) : r.line.2.view.length < r.view.length := by
  rw [line_eq] at h
  split at h
  · simp at h
  · obtain rfl := Option.some.inj h
    have pos := List.length_pos_iff.2 hb
    have lengths := congrArg List.length
      (List.takeWhile_append_dropWhile (p := fun b : UInt8 => b != 0x0A) (l := r.view))
    rw [List.length_append] at lengths
    rw [view_line, List.length_drop]
    omega

/-- What reading so many bytes comes to, in terms of the view. -/
private theorem exactlyFrom_spec (r : Reader) (n : Nat) (before : List UInt8) :
    (r.exactlyFrom n before).1 =
        (if n ≤ r.view.length then some (before ++ r.view.take n) else none) ∧
      (r.exactlyFrom n before).2.view = r.view.drop n ∧
      (r.exactlyFrom n before).2.stalls = r.stalls ∧
      (r.exactlyFrom n before).2.total = r.total := by
  fun_induction exactlyFrom r n before with
  | case1 r n before h =>
    refine ⟨?_, view_consume h, rfl, total_consume h⟩
    rw [if_pos (by simp only [view, List.length_append]; omega), view, List.take_append,
      Nat.sub_eq_zero_of_le h, List.take_zero, List.append_nil]
  | case2 r n before h f hf ih =>
    have hv : r.view = r.buffer ++ f.view := by rw [view_fill hf, ← view_eq_flush]
    have hn : r.buffer.length ≤ n := by omega
    have stalls : f.stalls = r.stalls := by rw [stalls_fill hf, stalls_flush]
    have total : f.total = r.total := by rw [total_fill hf, flush, total_consume (Nat.le_refl _)]
    obtain ⟨h1, h2, h3, h4⟩ := ih
    refine ⟨?_, ?_, h3.trans stalls, h4.trans total⟩
    · rw [h1, hv, List.take_append, List.take_of_length_le hn, List.append_assoc,
        List.length_append]
      by_cases hl : n - r.buffer.length ≤ f.view.length
      · rw [if_pos hl, if_pos (by omega)]
      · rw [if_neg hl, if_neg (by omega)]
    · rw [h2, hv, List.drop_append, List.drop_of_length_le hn, List.nil_append]
  | case3 r n before h hf =>
    have hv : r.view = r.buffer := by
      rw [view_eq_flush, view_of_fill_eq_none hf, buffer_flush, List.append_nil]
    refine ⟨by rw [hv, if_neg h], ?_, rfl, total_consume (Nat.le_refl _)⟩
    rw [view_of_fill_eq_none hf, hv, buffer_flush, List.drop_of_length_le (by omega)]

/-- So many bytes are read off the view, if it has them. -/
theorem exactly_eq (r : Reader) (n : Nat) :
    (r.exactly n).1 = if n ≤ r.view.length then some (r.view.take n) else none :=
  (exactlyFrom_spec r n []).1

theorem view_exactly (r : Reader) (n : Nat) : (r.exactly n).2.view = r.view.drop n :=
  (exactlyFrom_spec r n []).2.1

theorem stalls_exactly (r : Reader) (n : Nat) : (r.exactly n).2.stalls = r.stalls :=
  (exactlyFrom_spec r n []).2.2.1

theorem total_exactly (r : Reader) (n : Nat) : (r.exactly n).2.total = r.total :=
  (exactlyFrom_spec r n []).2.2.2

end Reader

end Switchboard
