import Mathlib.Tactic
import Switchboard.Text.Bytes

/-!
# Texts as bytes

What the bytes of a text say about its characters: a text is read back from its bytes
(`textOfBytes?_utf8`), so that no two texts have the same ones (`utf8_injective`), and a byte of
ASCII among them is a character of its own (`mem_utf8_iff`, `getLast?_utf8`), so that line ends can
be looked for in either form.
-/

namespace Switchboard

/-! ### The bytes of a text -/

/-- What is left to collect of a byte array, after those collected so far. -/
private theorem toList_loop (b : ByteArray) (i : ℕ) (done : List UInt8) :
    ByteArray.toList.loop b i done = done.reverse ++ b.data.toList.drop i := by
  rw [ByteArray.toList.loop.eq_def]
  split
  · rename_i h
    have hi : i < b.data.toList.length := by simpa using h
    have hget : b.get! i = b.data.toList[i] := by
      simp only [ByteArray.get!, Array.getElem_toList]
      exact getElem!_pos b.data i (by simpa using h)
    rw [toList_loop b (i + 1), List.drop_eq_getElem_cons hi, hget, List.reverse_cons,
      List.append_assoc, List.singleton_append]
  · rename_i h
    rw [List.drop_of_length_le (by simpa using h), List.append_nil]
termination_by b.size - i

theorem utf8_eq (s : String) : utf8 s = s.toList.flatMap String.utf8EncodeChar := by
  rw [utf8, ByteArray.toList, toList_loop, List.reverse_nil, List.nil_append, List.drop_zero,
    String.toUTF8_eq_toByteArray, ← String.utf8Encode_toList, List.utf8Encode,
    List.toList_data_toByteArray]

@[simp] theorem utf8_empty : utf8 "" = [] := by
  rw [utf8_eq]
  rfl

theorem utf8_append (s t : String) : utf8 (s ++ t) = utf8 s ++ utf8 t := by
  simp [utf8_eq, String.toList_append]

theorem utf8_join (ss : List String) : utf8 (String.join ss) = ss.flatMap utf8 := by
  induction ss with
  | nil => exact utf8_empty
  | cons s ss ih => rw [String.join_cons, utf8_append, ih, List.flatMap_cons]

/-- A text is read back from its bytes. -/
theorem textOfBytes?_utf8 (s : String) : textOfBytes? (utf8 s) = some s := by
  have hbytes : ByteArray.mk (utf8 s).toArray = s.toByteArray := by
    rw [utf8, ByteArray.toList, toList_loop, List.reverse_nil, List.nil_append, List.drop_zero,
      String.toUTF8_eq_toByteArray, Array.toArray_toList]
  rw [textOfBytes?, hbytes, String.fromUTF8?, dif_pos s.isValidUTF8]
  rfl

/-- The bytes of a text that was read. -/
theorem utf8_of_textOfBytes? {bytes : List UInt8} {s : String} (h : textOfBytes? bytes = some s) :
    utf8 s = bytes := by
  rw [textOfBytes?, String.fromUTF8?] at h
  split at h
  · obtain rfl := Option.some.inj h
    rw [utf8_eq, ← List.toList_data_toByteArray (l := List.flatMap _ _), ← List.utf8Encode,
      String.utf8Encode_toList]
    rfl
  · cases h

/-- Texts with the same bytes are the same. -/
theorem utf8_injective : Function.Injective utf8 := fun s t h =>
  Option.some.inj ((textOfBytes?_utf8 s).symm.trans (h ▸ textOfBytes?_utf8 t))

theorem utf8_ne_nil {s : String} (h : s ≠ "") : utf8 s ≠ [] :=
  fun hnil => h (utf8_injective (hnil.trans utf8_empty.symm))

/-- A text has at least as many bytes as characters. -/
theorem length_toList_le_utf8 (s : String) : s.toList.length ≤ (utf8 s).length := by
  rw [utf8_eq]
  induction s.toList with
  | nil => exact Nat.le_refl _
  | cons c cs ih =>
    have hc : 0 < (String.utf8EncodeChar c).length := by
      rw [String.length_utf8EncodeChar]
      exact c.utf8Size_pos
    rw [List.flatMap_cons, List.length_append, List.length_cons]
    omega

/-! ### Bytes of ASCII -/

/-- A byte of ASCII in a character is that character. -/
theorem eq_of_mem_utf8EncodeChar {c : Char} {b : UInt8} (h : b ∈ String.utf8EncodeChar c)
    (hb : b < 0x80) : c = Char.ofNat b.toNat ∧ String.utf8EncodeChar c = [b] := by
  have hb : b.toNat < 128 := hb
  by_cases hc : c.val.toNat ≤ 127
  · simp only [String.utf8EncodeChar, if_pos hc, List.mem_singleton] at h ⊢
    have hn : b.toNat = c.toNat := by
      rw [h, UInt8.toNat_ofNat']
      exact Nat.mod_eq_of_lt (by omega)
    exact ⟨by rw [hn, Char.ofNat_toNat], by rw [h]⟩
  · -- every other character is written in bytes above ASCII
    have habove : ∀ x ∈ String.utf8EncodeChar c, 128 ≤ x.toNat := by
      simp only [String.utf8EncodeChar, if_neg hc]
      split_ifs <;> simp [UInt8.toNat_ofNat'] <;> omega
    have := habove b h
    omega

theorem utf8EncodeChar_ascii {c : Char} {b : UInt8} (hb : b < 0x80) (hc : c = Char.ofNat b.toNat) :
    String.utf8EncodeChar c = [b] := by
  have hb : b.toNat < 128 := hb
  have hv : c.val.toNat = b.toNat := by
    rw [hc, Char.ofNat, dif_pos (Or.inl (by omega))]
    rfl
  rw [String.utf8EncodeChar, if_pos (by omega), hv, UInt8.ofNat_toNat]

/-- A byte of ASCII is among the bytes of a text if it is among the characters. -/
theorem mem_utf8_iff {s : String} {b : UInt8} (hb : b < 0x80) :
    b ∈ utf8 s ↔ Char.ofNat b.toNat ∈ s.toList := by
  rw [utf8_eq, List.mem_flatMap]
  constructor
  · rintro ⟨c, hc, h⟩
    exact (eq_of_mem_utf8EncodeChar h hb).1 ▸ hc
  · intro h
    exact ⟨_, h, by rw [utf8EncodeChar_ascii hb rfl]; exact List.mem_singleton_self b⟩

/-- A byte of ASCII at the end of a text is its last character. -/
theorem getLast?_utf8 {s : String} {b : UInt8} (hb : b < 0x80) (h : (utf8 s).getLast? = some b) :
    s.toList.getLast? = some (Char.ofNat b.toNat) := by
  rw [utf8_eq] at h
  obtain hnil | ⟨cs, c, hcs⟩ := List.eq_nil_or_concat s.toList
  · rw [hnil] at h
    cases h
  · rw [hcs, List.concat_eq_append, List.flatMap_append, List.flatMap_singleton,
      List.getLast?_append_of_ne_nil _ String.utf8EncodeChar_ne_nil] at h
    rw [hcs, List.concat_eq_append, List.getLast?_concat,
      (eq_of_mem_utf8EncodeChar (List.mem_of_getLast? h) hb).1]

end Switchboard
