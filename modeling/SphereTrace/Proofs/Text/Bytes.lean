/-! # Bytes of texts

A text is told by its bytes. As few bit patterns start or continue a character, some bytes are in no
text, `0xff` among them, and can mark the end of one.
-/

namespace SphereTrace.Text

/-- The loop that lists the bytes of an array holds what it has read backwards. -/
theorem toList_loop (bytes : ByteArray) (place : Nat) (read : List UInt8) :
    ByteArray.toList.loop bytes place read = read.reverse ++ bytes.data.toList.drop place := by
  fun_induction ByteArray.toList.loop bytes place read with
  | case1 place read hlt ih =>
      have hlength : place < bytes.data.toList.length := by simpa using hlt
      rw [ih, List.drop_eq_getElem_cons hlength]
      simp [ByteArray.get!, hlt]
  | case2 place read hle =>
      rw [List.drop_eq_nil_of_le (by simpa using Nat.le_of_not_lt hle), List.append_nil]

theorem toList_byteArray (bytes : ByteArray) : bytes.toList = bytes.data.toList := by
  rw [ByteArray.toList, toList_loop, List.reverse_nil, List.nil_append, List.drop_zero]

theorem toList_toUTF8 (s : String) : s.toUTF8.toList = s.toList.flatMap String.utf8EncodeChar := by
  rw [String.toUTF8_eq_toByteArray, ← String.utf8Encode_toList, toList_byteArray, List.utf8Encode,
    List.toList_data_toByteArray]

/-- Each character takes a byte or more. -/
theorem length_le_utf8ByteSize (s : String) : s.toList.length ≤ s.utf8ByteSize := by
  have hbytes : s.utf8ByteSize = (s.toList.flatMap String.utf8EncodeChar).length := by
    rw [← toList_toUTF8, toList_byteArray]
    rfl
  rw [hbytes]
  induction s.toList with
  | nil => exact Nat.le_refl 0
  | cons c rest ih =>
      rw [List.flatMap_cons, List.length_append, String.length_utf8EncodeChar, List.length_cons]
      have hpos := c.utf8Size_pos
      omega

theorem toUTF8_inj {s t : String} (h : s.toUTF8.toList = t.toUTF8.toList) : s = t := by
  rw [String.toUTF8_eq_toByteArray, String.toUTF8_eq_toByteArray, toList_byteArray,
    toList_byteArray, Array.toList_inj] at h
  exact String.toByteArray_inj.mp (ByteArray.ext h)

/-- The greatest byte is one that starts a character of four bytes. -/
theorem exists_of_mem_utf8EncodeChar {c : Char} {byte : UInt8}
    (h : byte ∈ String.utf8EncodeChar c) : ∃ n < 0xf8, byte = UInt8.ofNat n := by
  unfold String.utf8EncodeChar at h
  dsimp only at h
  -- One case for each number of bytes that a character can have.
  split at h
  next hone => exact ⟨_, by omega, List.mem_singleton.mp h⟩
  next =>
    split at h
    next =>
      simp only [List.mem_cons, List.not_mem_nil, or_false] at h
      rcases h with rfl | rfl <;> exact ⟨_, by omega, rfl⟩
    next =>
      split at h
      next =>
        simp only [List.mem_cons, List.not_mem_nil, or_false] at h
        rcases h with rfl | rfl | rfl <;> exact ⟨_, by omega, rfl⟩
      next =>
        simp only [List.mem_cons, List.not_mem_nil, or_false] at h
        rcases h with rfl | rfl | rfl | rfl <;> exact ⟨_, by omega, rfl⟩

theorem notMem_toUTF8 (s : String) : 0xff ∉ s.toUTF8.toList := by
  rw [toList_toUTF8, List.mem_flatMap]
  rintro ⟨c, _, hbyte⟩
  obtain ⟨n, hn, heq⟩ := exists_of_mem_utf8EncodeChar hbyte
  have hmod : 0xff = n % 256 := (congrArg UInt8.toNat heq).trans (UInt8.toNat_ofNat')
  omega

end SphereTrace.Text
