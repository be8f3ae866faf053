import Mathlib.Tactic
import Switchboard.Proofs.Bytes

/-!
# The order of texts and of their bytes

Texts are compared character by character, and characters by their code points. The bytes of a text
are in the same order: a character with a greater code point is written with more bytes or with
greater ones, and it differs from a smaller one before either of them ends.

* `utf8EncodeChar_lt_append`: two characters are told apart by their bytes, whatever follows.
* `utf8_lt_utf8_iff`: one text is before another exactly if its bytes are.
-/

namespace Switchboard

/-! ### Characters -/

/-- Of two numbers one is smaller at the first of the digits that bytes are made from at which they
differ. -/
theorem digits_lt {m n : ℕ} (h : m < n) :
    m / 262144 < n / 262144 ∨ m / 262144 = n / 262144 ∧
      (m / 4096 % 64 < n / 4096 % 64 ∨ m / 4096 % 64 = n / 4096 % 64 ∧
        (m / 64 % 64 < n / 64 % 64 ∨ m / 64 % 64 = n / 64 % 64 ∧ m % 64 < n % 64)) := by
  omega

theorem ofNat_cons_lt_iff {m n : ℕ} (hm : m < 256) (hn : n < 256) (x y : List UInt8) :
    UInt8.ofNat m :: x < UInt8.ofNat n :: y ↔ m < n ∨ m = n ∧ x < y := by
  rw [List.cons_lt_cons_iff, UInt8.ofNat_lt_iff_lt hm hn, ← UInt8.toNat_inj, UInt8.toNat_ofNat',
    UInt8.toNat_ofNat', Nat.mod_eq_of_lt hm, Nat.mod_eq_of_lt hn]

/-- The bytes of a smaller character are smaller, whatever follows. -/
theorem utf8EncodeChar_lt_append {c d : Char} (h : c < d) (x y : List UInt8) :
    String.utf8EncodeChar c ++ x < String.utf8EncodeChar d ++ y := by
  have hlt : c.val.toNat < d.val.toNat := h
  have hd : d.val.toNat < 0x110000 := by
    have := d.valid
    simp only [UInt32.isValidChar, Nat.isValidChar] at this
    omega
  have hdigits := digits_lt hlt
  simp only [String.utf8EncodeChar]
  -- a shorter character has the smaller first byte; of two as long the digits decide
  split_ifs <;> simp (disch := omega) only [List.cons_append, List.nil_append, ofNat_cons_lt_iff,
    Nat.mod_eq_of_lt, Nat.add_lt_add_iff_right, Nat.add_right_cancel_iff]
  all_goals omega

/-! ### Texts -/

theorem flatMap_utf8EncodeChar_lt {cs ds : List Char} (h : cs < ds) :
    cs.flatMap String.utf8EncodeChar < ds.flatMap String.utf8EncodeChar := by
  induction h with
  | nil =>
    rw [List.flatMap_nil, List.flatMap_cons]
    obtain ⟨b, bs, hb⟩ := List.exists_cons_of_ne_nil (String.utf8EncodeChar_ne_nil (c := _))
    rw [hb]
    exact List.nil_lt_cons _ _
  | rel h =>
    rw [List.flatMap_cons, List.flatMap_cons]
    exact utf8EncodeChar_lt_append h _ _
  | cons _ ih =>
    rw [List.flatMap_cons, List.flatMap_cons]
    exact List.append_left_lt ih

/-- A smaller text has smaller bytes. -/
theorem utf8_lt_utf8 {s t : String} (h : s < t) : utf8 s < utf8 t := by
  rw [utf8_eq, utf8_eq]
  exact flatMap_utf8EncodeChar_lt h

/-- **The order of bytes.** A text is before another exactly if its bytes are. -/
theorem utf8_lt_utf8_iff {s t : String} : utf8 s < utf8 t ↔ s < t := by
  refine ⟨fun h => ?_, utf8_lt_utf8⟩
  by_contra hle
  obtain hlt | rfl : t < s ∨ t = s := by
    by_cases hlt : t < s
    · exact .inl hlt
    · exact .inr (String.le_antisymm (String.not_lt.mp hle) (String.not_lt.mp hlt))
  · exact List.lt_asymm h (utf8_lt_utf8 hlt)
  · exact List.lt_irrefl _ h

theorem utf8_le_utf8_iff {s t : String} : utf8 s ≤ utf8 t ↔ s ≤ t := by
  rw [← String.not_lt, ← List.not_lt, utf8_lt_utf8_iff]

end Switchboard
