import DevServer.Text.Utf8

/-!
# Reading what was encoded

The bytes of a text decode to the text. The reader sees one byte at a time: the first one of a
character has to give the length away and none of the others may be refused. Both are arithmetic on
the code point, with a case for each length.
-/
namespace DevServer.Text.Utf8

set_option autoImplicit false

section Bytes

variable {b lead : UInt8} {n : Nat}

theorem toNat_ofNat (h : n < 256) : (UInt8.ofNat n).toNat = n := by
  rw [UInt8.toNat_ofNat']
  exact Nat.mod_eq_of_lt h

theorem width_eq (b : UInt8) : width b =
    if b.toNat < 0x80 then 1
    else if 0xC2 ≤ b.toNat ∧ b.toNat ≤ 0xDF then 2
    else if 0xE0 ≤ b.toNat ∧ b.toNat ≤ 0xEF then 3
    else if 0xF0 ≤ b.toNat ∧ b.toNat ≤ 0xF4 then 4
    else 0 := by
  simp [width, UInt8.lt_iff_toNat_lt, UInt8.le_iff_toNat_le]

theorem isTail_iff : isTail b = true ↔ 0x80 ≤ b.toNat ∧ b.toNat ≤ 0xBF := by
  simp [isTail, UInt8.le_iff_toNat_le]

theorem isTail_ofNat (n : Nat) : isTail (UInt8.ofNat (n % 64 + 128)) = true := by
  rw [isTail_iff, toNat_ofNat (by omega)]
  omega

theorem low6_ofNat (n : Nat) : low6 (UInt8.ofNat (n % 64 + 128)) = n % 64 := by
  rw [low6, toNat_ofNat (by omega)]
  omega

/-- Behind most leading bytes any tail may follow; behind four of them only half of the tails. -/
theorem secondOk_of_bounds (h : isTail b = true) (he0 : lead.toNat = 0xE0 → 0xA0 ≤ b.toNat)
    (hed : lead.toNat = 0xED → b.toNat ≤ 0x9F) (hf0 : lead.toNat = 0xF0 → 0x90 ≤ b.toNat)
    (hf4 : lead.toNat = 0xF4 → b.toNat ≤ 0x8F) : secondOk lead b = true := by
  rw [isTail_iff] at h
  have hlead : ∀ m : UInt8, lead = m ↔ lead.toNat = m.toNat := fun m => UInt8.toNat_inj.symm
  simp only [secondOk, isTail, hlead, UInt8.le_iff_toNat_le]
  split
  · next hl => simpa using And.intro (he0 hl) h.2
  · split
    · next hl => simpa using And.intro h.1 (hed hl)
    · split
      · next hl => simpa using And.intro (hf0 hl) h.2
      · split
        · next hl => simpa using And.intro h.1 (hf4 hl)
        · simpa using h

end Bytes

theorem head_two {lead b : UInt8} (hw : width lead = 2) (hb : isTail b = true)
    (rest : List UInt8) :
    head lead (b :: rest) = .char (Char.ofNat (lead.toNat % 32 * 64 + low6 b)) 2 := by
  unfold head
  rw [hw]
  simp [hb]

theorem head_three {lead b c : UInt8} (hw : width lead = 3) (hb : secondOk lead b = true)
    (hc : isTail c = true) (rest : List UInt8) : head lead (b :: c :: rest) =
      .char (Char.ofNat (lead.toNat % 16 * 4096 + low6 b * 64 + low6 c)) 3 := by
  unfold head
  rw [hw]
  simp [hb, hc]

theorem head_four {lead b c d : UInt8} (hw : width lead = 4) (hb : secondOk lead b = true)
    (hc : isTail c = true) (hd : isTail d = true) (rest : List UInt8) :
    head lead (b :: c :: d :: rest) = .char
      (Char.ofNat (lead.toNat % 8 * 262144 + low6 b * 4096 + low6 c * 64 + low6 d)) 4 := by
  unfold head
  rw [hw]
  simp [hb, hc, hd]

section CodePoint

variable {n : Nat}

theorem head_encoded_one (h : n < 0x80) (rest : List UInt8) :
    head (UInt8.ofNat n) rest = .char (Char.ofNat n) 1 := by
  have hn : (UInt8.ofNat n).toNat = n := toNat_ofNat (by omega)
  unfold head
  rw [width_eq, hn, if_pos h]
  rfl

theorem head_encoded_two (hlow : 0x80 ≤ n) (hhigh : n < 0x800) (rest : List UInt8) :
    head (UInt8.ofNat (n / 64 % 32 + 0xC0)) (UInt8.ofNat (n % 64 + 0x80) :: rest) =
      .char (Char.ofNat n) 2 := by
  have hn := toNat_ofNat (n := n / 64 % 32 + 0xC0) (by omega)
  have hw : width (UInt8.ofNat (n / 64 % 32 + 0xC0)) = 2 := by
    rw [width_eq, hn, if_neg (by omega), if_pos (by omega)]
  have hvalue : (n / 64 % 32 + 0xC0) % 32 * 64 + n % 64 = n := by omega
  rw [head_two hw (isTail_ofNat n), hn, low6_ofNat, hvalue]

/-- The surrogates are no characters, and would be refused. -/
theorem head_encoded_three (hlow : 0x800 ≤ n) (hhigh : n < 0x10000)
    (hvalid : n < 0xD800 ∨ 0xDFFF < n) (rest : List UInt8) :
    head (UInt8.ofNat (n / 4096 % 16 + 0xE0)) (UInt8.ofNat (n / 64 % 64 + 0x80) ::
      UInt8.ofNat (n % 64 + 0x80) :: rest) = .char (Char.ofNat n) 3 := by
  have hn := toNat_ofNat (n := n / 4096 % 16 + 0xE0) (by omega)
  have hb := toNat_ofNat (n := n / 64 % 64 + 0x80) (by omega)
  have hw : width (UInt8.ofNat (n / 4096 % 16 + 0xE0)) = 3 := by
    rw [width_eq, hn, if_neg (by omega), if_neg (by omega), if_pos (by omega)]
  have hs : secondOk (UInt8.ofNat (n / 4096 % 16 + 0xE0))
      (UInt8.ofNat (n / 64 % 64 + 0x80)) = true := by
    apply secondOk_of_bounds (isTail_ofNat _) <;> rw [hn, hb] <;> omega
  have hvalue : (n / 4096 % 16 + 0xE0) % 16 * 4096 + n / 64 % 64 * 64 + n % 64 = n := by omega
  rw [head_three hw hs (isTail_ofNat n), hn, low6_ofNat, low6_ofNat, hvalue]

theorem head_encoded_four (hlow : 0x10000 ≤ n) (hhigh : n < 0x110000) (rest : List UInt8) :
    head (UInt8.ofNat (n / 262144 % 8 + 0xF0)) (UInt8.ofNat (n / 4096 % 64 + 0x80) ::
      UInt8.ofNat (n / 64 % 64 + 0x80) :: UInt8.ofNat (n % 64 + 0x80) :: rest) =
      .char (Char.ofNat n) 4 := by
  have hn := toNat_ofNat (n := n / 262144 % 8 + 0xF0) (by omega)
  have hb := toNat_ofNat (n := n / 4096 % 64 + 0x80) (by omega)
  have hw : width (UInt8.ofNat (n / 262144 % 8 + 0xF0)) = 4 := by
    rw [width_eq, hn, if_neg (by omega), if_neg (by omega), if_neg (by omega), if_pos (by omega)]
  have hs : secondOk (UInt8.ofNat (n / 262144 % 8 + 0xF0))
      (UInt8.ofNat (n / 4096 % 64 + 0x80)) = true := by
    apply secondOk_of_bounds (isTail_ofNat _) <;> rw [hn, hb] <;> omega
  have hvalue : (n / 262144 % 8 + 0xF0) % 8 * 262144 + n / 4096 % 64 * 4096 + n / 64 % 64 * 64 +
      n % 64 = n := by omega
  rw [head_four hw hs (isTail_ofNat _) (isTail_ofNat n), hn, low6_ofNat, low6_ofNat, low6_ofNat,
    hvalue]

end CodePoint

/-- A character is read from its own bytes, whatever follows them. -/
theorem head_encoded (c : Char) (rest : List UInt8) : ∃ lead tail,
    String.utf8EncodeChar c = lead :: tail ∧
      head lead (tail ++ rest) = .char c (tail.length + 1) := by
  have hvalid : c.val.toNat < 0xD800 ∨ 0xDFFF < c.val.toNat ∧ c.val.toNat < 0x110000 := c.valid
  have hc : Char.ofNat c.val.toNat = c := Char.ofNat_toNat c
  rw [String.utf8EncodeChar]
  generalize c.val.toNat = n at hvalid hc
  subst hc
  split
  · next h1 => exact ⟨_, _, rfl, head_encoded_one (Nat.lt_succ_of_le h1) rest⟩
  · next h1 =>
    split
    · next h2 => exact ⟨_, _, rfl, head_encoded_two (by omega) (by omega) rest⟩
    · next h2 =>
      split
      · next h3 => exact ⟨_, _, rfl, head_encoded_three (by omega) (by omega) (by omega) rest⟩
      · next h3 => exact ⟨_, _, rfl, head_encoded_four (by omega) (by omega) rest⟩

theorem decodeFrom_encoded (s : List Char) (offset : Nat) (read : List Char) :
    decodeFrom offset read (s.flatMap String.utf8EncodeChar) = .ok (read.reverse ++ s) := by
  induction s generalizing offset read with
  | nil => simp [decodeFrom]
  | cons c s ih =>
    obtain ⟨lead, tail, hc, hhead⟩ := head_encoded c (s.flatMap String.utf8EncodeChar)
    rw [List.flatMap_cons, hc, List.cons_append, decodeFrom, hhead]
    simp [ih]

theorem toList_loop (bs : ByteArray) (i : Nat) (acc : List UInt8) :
    ByteArray.toList.loop bs i acc = acc.reverse ++ bs.data.toList.drop i := by
  induction i, acc using ByteArray.toList.loop.induct bs with
  | case1 i acc hi ih =>
    have hlt : i < bs.data.toList.length := by simpa using hi
    have hget : bs.get! i = bs.data.toList[i] := by
      rw [Array.getElem_toList]
      exact getElem!_pos bs.data i hi
    rw [ByteArray.toList.loop, if_pos hi, ih, List.drop_eq_getElem_cons hlt, hget,
      List.reverse_cons, List.append_assoc]
    rfl
  | case2 i acc hi =>
    have hle : bs.data.toList.length ≤ i := by simpa using hi
    rw [ByteArray.toList.loop, if_neg hi, List.drop_eq_nil_of_le hle, List.append_nil]

theorem encode_eq (s : String) : encode s = s.toList.flatMap String.utf8EncodeChar := by
  rw [encode, String.toUTF8_eq_toByteArray, ByteArray.toList, toList_loop, ← String.utf8Encode_toList,
    List.utf8Encode, List.toList_data_toByteArray]
  rfl

/-- What was encoded is read as it was. -/
theorem decode_encode (s : String) : decode (encode s) = .ok s := by
  rw [decode, encode_eq, decodeFrom_encoded]
  exact congrArg Except.ok String.ofList_toList

end DevServer.Text.Utf8
