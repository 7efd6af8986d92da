import GoStub.Files.Tree
import GoStub.Syntax.Readings
import Mathlib.Tactic.SplitIfs

/-! Decoding: the bytes of a text are read as the text, and so is a file that holds them. A source
is read from its characters. -/

namespace GoStub

namespace Text

/-- What the second byte of a longer character can be. -/
def InSecondRange (lead b : UInt8) : Prop :=
  (secondRange lead).1.toNat ≤ b.toNat ∧ b.toNat ≤ (secondRange lead).2.toNat

theorem inSecondRange_iff {lead b : UInt8} : InSecondRange lead b ↔
    0x80 ≤ b.toNat ∧ b.toNat ≤ 0xBF ∧ (lead.toNat = 0xE0 → 0xA0 ≤ b.toNat) ∧
      (lead.toNat = 0xED → b.toNat ≤ 0x9F) ∧ (lead.toNat = 0xF0 → 0x90 ≤ b.toNat) ∧
      (lead.toNat = 0xF4 → b.toNat ≤ 0x8F) := by
  unfold InSecondRange secondRange
  simp only [← UInt8.toNat_inj]
  split_ifs <;> simp_all <;> omega

section Step

variable {lead b c d : UInt8} {rest : List UInt8}

theorem isContinuation_iff : isContinuation b = true ↔ 0x80 ≤ b.toNat ∧ b.toNat ≤ 0xBF := by
  simp [isContinuation, UInt8.le_iff_toNat_le]

theorem utf8Step_one (h : lead.toNat < 0x80) :
    utf8Step lead rest = .char (Char.ofNat lead.toNat) 1 :=
  if_pos (UInt8.lt_iff_toNat_lt.mpr h)

theorem utf8Step_two (hmin : 0xC2 ≤ lead.toNat) (hmax : lead.toNat < 0xE0)
    (hb : isContinuation b = true) :
    utf8Step lead (b :: rest) = .char (Char.ofNat (lead.toNat % 32 * 64 + b.toNat % 64)) 2 := by
  have hone : ¬ lead.toNat < 0x80 := by omega
  have hlow : ¬ lead.toNat < 0xC2 := by omega
  simp [utf8Step, tailBits, UInt8.lt_iff_toNat_lt, hone, hlow, hmax, hb]

theorem utf8Step_three (hmin : 0xE0 ≤ lead.toNat) (hmax : lead.toNat < 0xF0)
    (hb : InSecondRange lead b)
    (hc : isContinuation c = true) :
    utf8Step lead (b :: c :: rest) =
      .char (Char.ofNat (lead.toNat % 16 * 4096 + b.toNat % 64 * 64 + c.toNat % 64)) 3 := by
  have hone : ¬ lead.toNat < 0x80 := by omega
  have hlow : ¬ lead.toNat < 0xC2 := by omega
  have htwo : ¬ lead.toNat < 0xE0 := by omega
  simp [utf8Step, tailBits, UInt8.lt_iff_toNat_lt, hone, hlow, htwo, hmax, Nat.not_lt.mpr hb.1,
    Nat.not_lt.mpr hb.2, hc]

theorem utf8Step_four (hmin : 0xF0 ≤ lead.toNat) (hmax : lead.toNat < 0xF5)
    (hb : InSecondRange lead b)
    (hc : isContinuation c = true) (hd : isContinuation d = true) :
    utf8Step lead (b :: c :: d :: rest) = .char (Char.ofNat
      (lead.toNat % 8 * 262144 + b.toNat % 64 * 4096 + c.toNat % 64 * 64 + d.toNat % 64)) 4 := by
  have hone : ¬ lead.toNat < 0x80 := by omega
  have hlow : ¬ lead.toNat < 0xC2 := by omega
  have htwo : ¬ lead.toNat < 0xE0 := by omega
  have hthree : ¬ lead.toNat < 0xF0 := by omega
  simp [utf8Step, tailBits, UInt8.lt_iff_toNat_lt, hone, hlow, htwo, hthree, hmax,
    Nat.not_lt.mpr hb.1, Nat.not_lt.mpr hb.2, hc, hd]

end Step

/-- The bytes of a character are read as the character, whatever follows them. -/
theorem exists_utf8Step (c : Char) : ∃ lead tail, String.utf8EncodeChar c = lead :: tail ∧
    ∀ rest, utf8Step lead (tail ++ rest) = .char c (tail.length + 1) := by
  have hvalid : c.toNat < 0xD800 ∨ 0xDFFF < c.toNat ∧ c.toNat < 0x110000 := c.valid
  have hchar : ∀ {n : Nat}, n = c.toNat → Char.ofNat n = c := fun h => h ▸ Char.ofNat_toNat c
  have hbyte : ∀ {n : Nat}, n < 256 → (UInt8.ofNat n).toNat = n :=
    fun h => UInt8.toNat_ofNat_of_lt' h
  have htail : ∀ n, isContinuation (UInt8.ofNat (n % 64 + 128)) = true := by
    intro n
    rw [isContinuation_iff, hbyte (by omega)]
    omega
  simp only [String.utf8EncodeChar, ← Char.toNat.eq_1]
  generalize c.toNat = v at hvalid hchar ⊢
  have hlast := hbyte (show v % 64 + 128 < 256 by omega)
  split
  next hone =>
    refine ⟨_, _, rfl, fun rest => ?_⟩
    have hlead := hbyte (show v < 256 by omega)
    rw [List.nil_append, utf8Step_one (by omega), hchar hlead, List.length_nil]
  next hone =>
    split
    next htwo =>
      refine ⟨_, _, rfl, fun rest => ?_⟩
      have hlead := hbyte (show v / 64 % 32 + 192 < 256 by omega)
      rw [List.singleton_append, utf8Step_two (by omega) (by omega) (htail v), hchar (by omega),
        List.length_singleton]
    next htwo =>
      have hthird := hbyte (show v / 64 % 64 + 128 < 256 by omega)
      split
      next hthree =>
        refine ⟨_, _, rfl, fun rest => ?_⟩
        have hlead := hbyte (show v / 4096 % 16 + 224 < 256 by omega)
        rw [List.cons_append, List.singleton_append,
          utf8Step_three (by omega) (by omega) (inSecondRange_iff.mpr (by omega)) (htail v),
          hchar (by omega)]
        rfl
      next =>
        refine ⟨_, _, rfl, fun rest => ?_⟩
        have hlead := hbyte (show v / 262144 % 8 + 240 < 256 by omega)
        have hsecond := hbyte (show v / 4096 % 64 + 128 < 256 by omega)
        rw [List.cons_append, List.cons_append, List.singleton_append,
          utf8Step_four (by omega) (by omega) (inSecondRange_iff.mpr (by omega)) (htail _)
            (htail v), hchar (by omega)]
        rfl

/-- The rest of a character that was read already is passed over. -/
theorem decodeFrom_skip (index : Nat) (skipped rest : List UInt8) :
    decodeFrom index skipped.length (skipped ++ rest) =
      decodeFrom (index + skipped.length) 0 rest := by
  induction skipped generalizing index with
  | nil => rfl
  | cons b skipped ih =>
    rw [List.length_cons, List.cons_append, decodeFrom, ih, Nat.add_assoc, Nat.add_comm 1]

theorem decodeFrom_encode (index : Nat) (cs : List Char) :
    decodeFrom index 0 (cs.flatMap String.utf8EncodeChar) = .ok cs := by
  induction cs generalizing index with
  | nil => rfl
  | cons c cs ih =>
    obtain ⟨lead, tail, hencode, hstep⟩ := exists_utf8Step c
    rw [List.flatMap_cons, hencode, List.cons_append, decodeFrom, hstep]
    simp only [Nat.add_sub_cancel, decodeFrom_skip, ih]
    rfl

theorem toList_toByteArray_loop (bytes : List UInt8) (i : Nat) (read : List UInt8) :
    ByteArray.toList.loop bytes.toByteArray i read = read.reverse ++ bytes.drop i := by
  fun_induction ByteArray.toList.loop bytes.toByteArray i read with
  | case1 i read h ih =>
    have hlength : i < bytes.length := by simpa using h
    have hget : bytes.toByteArray.get! i = bytes[i] := by
      simp [ByteArray.get!, List.data_toByteArray, hlength]
    rw [ih, hget, List.drop_eq_getElem_cons hlength, List.reverse_cons, List.append_assoc,
      List.singleton_append]
  | case2 i read h =>
    have hlength : bytes.length ≤ i := by simpa using h
    rw [List.drop_eq_nil_of_le hlength, List.append_nil]

theorem decode_toUTF8 (text : String) : decode text.toUTF8 = .ok text := by
  have hbytes : text.toUTF8.toList = text.toList.flatMap String.utf8EncodeChar := by
    rw [String.toUTF8, ← String.utf8Encode_toList, List.utf8Encode, ByteArray.toList,
      toList_toByteArray_loop]
    rfl
  rw [decode, hbytes, decodeFrom_encode]
  exact congrArg Except.ok String.ofList_toList

end Text

theorem FileTree.readText_of_find {t : FileTree} {p : Path} {l : Location} {text : String}
    (h : t.find p = .ok (l, .file text.toUTF8)) : t.readText p = .ok text := by
  simp only [readText, readBytes, h, Text.decode_toUTF8]

theorem Syntax.SourceFile.read_pieces (as bs cs : List Char) :
    SourceFile.read (.ofList as ++ .ofList bs ++ .ofList cs) =
      .ofDerivation? (derive? (as ++ bs ++ cs)) := by
  unfold SourceFile.read
  simp only [String.toList_append, String.toList_ofList]

end GoStub
