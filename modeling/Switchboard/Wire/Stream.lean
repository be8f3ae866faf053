/-!
# Streams

What comes over a connection comes in pieces, and after the last piece comes the end, or nothing
more in time. `Stream.read?` takes as much of the next piece as is asked for, so the bytes that
are read are the bytes of the stream, wherever the pieces end.
-/

namespace Switchboard

/-- What comes over a connection: bytes in pieces, and then the end, or nothing more in time. -/
structure Stream where
  pieces : List (List UInt8) := []
  stalls : Bool := false
  deriving DecidableEq, Repr, Inhabited

namespace Stream

/-- The bytes in one piece. -/
def ofBytes (bytes : List UInt8) (stalls : Bool) : Stream := { pieces := [bytes], stalls }

/-- All bytes. -/
def bytes (s : Stream) : List UInt8 := s.pieces.flatten

/-- How often something can be read at most. -/
def size (s : Stream) : Nat := s.bytes.length + s.pieces.length

/-- Reads once, at most so many bytes: as much of the next piece. Nothing after the last piece. -/
def read? (s : Stream) (most : Nat) : Option (List UInt8 × Stream) :=
  match s.pieces with
  | [] => none
  | piece :: rest =>
    some (piece.take most,
      { s with pieces := if piece.length ≤ most then rest else piece.drop most :: rest })

variable {s t : Stream} {most : Nat} {got : List UInt8}

/-- What is read comes off the front. -/
theorem bytes_read (h : s.read? most = some (got, t)) : s.bytes = got ++ t.bytes := by
  unfold read? at h
  split at h
  · simp at h
  · rename_i piece rest hp
    obtain ⟨rfl, rfl⟩ := Prod.mk.inj (Option.some.inj h)
    simp only [bytes, hp]
    split
    · rename_i hle
      simp [List.take_of_length_le hle]
    · simp [← List.append_assoc]

theorem length_read (h : s.read? most = some (got, t)) : got.length ≤ most := by
  unfold read? at h
  split at h
  · simp at h
  · obtain ⟨rfl, rfl⟩ := Prod.mk.inj (Option.some.inj h)
    rw [List.length_take]
    exact Nat.min_le_left _ _

theorem stalls_read (h : s.read? most = some (got, t)) : t.stalls = s.stalls := by
  unfold read? at h
  split at h
  · simp at h
  · obtain ⟨rfl, rfl⟩ := Prod.mk.inj (Option.some.inj h)
    rfl

/-- Reading takes something off the stream. -/
theorem size_read (h : s.read? most = some (got, t)) (pos : 0 < most) : t.size < s.size := by
  unfold read? at h
  split at h
  · simp at h
  · rename_i piece rest hp
    obtain ⟨rfl, rfl⟩ := Prod.mk.inj (Option.some.inj h)
    simp only [size, bytes, hp]
    split <;> simp <;> omega

theorem bytes_of_read_eq_none (h : s.read? most = none) : s.bytes = [] := by
  unfold read? at h
  split at h
  · rename_i hp
    simp [bytes, hp]
  · simp at h

end Stream

end Switchboard
