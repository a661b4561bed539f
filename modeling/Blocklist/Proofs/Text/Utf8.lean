import Blocklist.Text.Cut
import Blocklist.Text.Utf8
import Blocklist.Token.Run
/-!
# Text — letters and their bytes

Letters of ASCII are one byte, and all other letters have bytes beyond
ASCII only. So a text may be put into lower case before or after it is
taken as bytes (`utf8_lower`), and takes as many of them.
-/

namespace Blocklist

namespace Text

/-- The bytes of a row of letters, one after the other. -/
theorem utf8_ofList (text : List Char) :
    utf8 (String.ofList text) = text.flatMap String.utf8EncodeChar := by
  rw [utf8, String.toList_ofList]

theorem utf8_ofList_append (front back : List Char) :
    utf8 (String.ofList (front ++ back))
      = utf8 (String.ofList front) ++ utf8 (String.ofList back) := by
  simp only [utf8_ofList, List.flatMap_append]

/-- A letter of ASCII is one byte. -/
theorem utf8EncodeChar_of_ascii {c : Char} (h : c.toNat < 128) :
    String.utf8EncodeChar c = [UInt8.ofNat c.toNat] := by
  have h : c.val.toNat ≤ 0x7f := Nat.le_of_lt_succ h
  simp only [String.utf8EncodeChar, h, if_true]
  rfl

/-- The bytes of any other letter are beyond ASCII. -/
theorem le_of_mem_utf8EncodeChar {c : Char} (h : 128 ≤ c.toNat) {b : UInt8}
    (hb : b ∈ String.utf8EncodeChar c) : 128 ≤ b.toNat := by
  have hlong : ¬ c.val.toNat ≤ 0x7f := by
    have : c.toNat = c.val.toNat := rfl
    omega
  simp only [String.utf8EncodeChar, hlong, if_false] at hb
  split at hb
  · simp only [List.mem_cons, List.not_mem_nil, or_false] at hb
    rcases hb with rfl | rfl <;> rw [UInt8.toNat_ofNat'] <;> omega
  · split at hb
    · simp only [List.mem_cons, List.not_mem_nil, or_false] at hb
      rcases hb with rfl | rfl | rfl <;> rw [UInt8.toNat_ofNat'] <;> omega
    · simp only [List.mem_cons, List.not_mem_nil, or_false] at hb
      rcases hb with rfl | rfl | rfl | rfl <;> rw [UInt8.toNat_ofNat'] <;> omega

/-- The last byte of a text that ends with a letter of ASCII. -/
theorem getLast?_utf8_append_ascii (front : List Char) {c : Char} (h : c.toNat < 128) :
    (utf8 (String.ofList (front ++ [c]))).getLast? = some (UInt8.ofNat c.toNat) := by
  rw [utf8_ofList_append, utf8_ofList [c], List.flatMap_singleton, utf8EncodeChar_of_ascii h,
    List.getLast?_concat]

theorem utf8_ofList_cons_of_ascii {c : Char} (h : c.toNat < 128) (text : List Char) :
    utf8 (String.ofList (c :: text)) = UInt8.ofNat c.toNat :: utf8 (String.ofList text) := by
  rw [utf8_ofList, utf8_ofList, List.flatMap_cons, utf8EncodeChar_of_ascii h]
  rfl

/-- The byte of a letter of ASCII stands for that letter alone. -/
theorem mem_utf8_iff_of_ascii {c : Char} (h : c.toNat < 128) {text : List Char} :
    UInt8.ofNat c.toNat ∈ utf8 (String.ofList text) ↔ c ∈ text := by
  rw [utf8_ofList, List.mem_flatMap]
  constructor
  · rintro ⟨d, hd, hmem⟩
    have hbyte : (UInt8.ofNat c.toNat).toNat = c.toNat := by
      rw [UInt8.toNat_ofNat']
      omega
    by_cases hascii : d.toNat < 128
    · rw [utf8EncodeChar_of_ascii hascii, List.mem_singleton] at hmem
      have hnat := congrArg UInt8.toNat hmem
      rw [hbyte, UInt8.toNat_ofNat'] at hnat
      have hsame : c = d := Char.toNat_inj.mp (by omega)
      exact hsame ▸ hd
    · have := le_of_mem_utf8EncodeChar (by omega) hmem
      omega
  · intro hc
    exact ⟨c, hc, by rw [utf8EncodeChar_of_ascii h]; exact List.mem_singleton_self _⟩

theorem utf8_ofList_injective {a b : List Char}
    (h : utf8 (String.ofList a) = utf8 (String.ofList b)) : a = b := by
  have hread := congrArg ofUtf8? h
  rw [ofUtf8?_utf8, ofUtf8?_utf8] at hread
  exact String.ofList_injective (Option.some.inj hread)

/-! ## Lengths -/

@[simp] theorem byteLength_append (front back : List Char) :
    byteLength (front ++ back) = byteLength front + byteLength back := by
  have hback : (back.map Char.utf8Size).foldl (· + ·) (byteLength front + 0)
      = byteLength front + byteLength back := List.foldl_assoc
  rw [byteLength, List.map_append, List.foldl_append]
  exact hback

@[simp] theorem byteLength_cons (c : Char) (text : List Char) :
    byteLength (c :: text) = c.utf8Size + byteLength text := by
  rw [← List.singleton_append, byteLength_append]
  exact congrArg (· + byteLength text) (Nat.zero_add c.utf8Size)

/-- The byte length of a text counts its bytes. -/
@[simp] theorem length_utf8_ofList (text : List Char) :
    (utf8 (String.ofList text)).length = byteLength text := by
  induction text with
  | nil => rfl
  | cons c text ih =>
    rw [utf8_ofList, List.flatMap_cons, List.length_append, String.length_utf8EncodeChar,
      ← utf8_ofList, ih, byteLength_cons]

/-! ## Lower case -/

theorem toNat_lowerByte (b : UInt8) :
    (Token.lowerByte b).toNat = if 65 ≤ b.toNat ∧ b.toNat ≤ 90 then b.toNat + 32 else b.toNat := by
  simp only [Token.lowerByte, Bool.and_eq_true, decide_eq_true_eq, UInt8.le_iff_toNat_le,
    UInt8.reduceToNat]
  split
  · next h =>
    rw [UInt8.toNat_add, show (0x20 : UInt8).toNat = 32 from rfl]
    omega
  · rfl

@[simp] theorem lowerByte_lowerByte (b : UInt8) :
    Token.lowerByte (Token.lowerByte b) = Token.lowerByte b := by
  apply UInt8.toNat_inj.mp
  rw [toNat_lowerByte (Token.lowerByte b), toNat_lowerByte]
  by_cases h : 65 ≤ b.toNat ∧ b.toNat ≤ 90
  · rw [if_pos h, if_neg (by omega)]
  · rw [if_neg h, if_neg h]

theorem isWordByte_iff {b : UInt8} :
    Token.isWordByte b ↔ (48 ≤ b.toNat ∧ b.toNat ≤ 57) ∨ (65 ≤ b.toNat ∧ b.toNat ≤ 90)
      ∨ (97 ≤ b.toNat ∧ b.toNat ≤ 122) := by
  simp only [Token.isWordByte, Bool.or_eq_true, Bool.and_eq_true, decide_eq_true_eq,
    UInt8.le_iff_toNat_le, UInt8.reduceToNat, or_assoc]

/-- Case does not matter to what a word may hold. -/
@[simp] theorem isWordByte_lowerByte (b : UInt8) :
    Token.isWordByte (Token.lowerByte b) = Token.isWordByte b := by
  rw [Bool.eq_iff_iff, isWordByte_iff, isWordByte_iff, toNat_lowerByte]
  split <;> omega

theorem toNat_toLower (c : Char) :
    c.toLower.toNat = if 65 ≤ c.toNat ∧ c.toNat ≤ 90 then c.toNat + 32 else c.toNat := by
  by_cases h : 65 ≤ c.toNat ∧ c.toNat ≤ 90
  · have hlower : c.toLower.val = c.val + 32 := congrArg Char.val (dif_pos h)
    rw [if_pos h]
    show c.toLower.val.toNat = c.val.toNat + 32
    have : c.val.toNat ≤ 90 := h.2
    rw [hlower, UInt32.toNat_add, show (32 : UInt32).toNat = 32 from rfl]
    omega
  · have hlower : c.toLower = c := dif_neg h
    rw [if_neg h, hlower]

theorem utf8EncodeChar_toLower (c : Char) :
    String.utf8EncodeChar c.toLower = (String.utf8EncodeChar c).map Token.lowerByte := by
  by_cases h : c.toNat < 128
  · have hlower : c.toLower.toNat < 128 := by
      rw [toNat_toLower]
      split <;> omega
    rw [utf8EncodeChar_of_ascii h, utf8EncodeChar_of_ascii hlower, List.map_singleton]
    congr 1
    apply UInt8.toNat_inj.mp
    rw [toNat_lowerByte, UInt8.toNat_ofNat', UInt8.toNat_ofNat', toNat_toLower]
    split <;> split <;> omega
  -- no other letter changes, and neither do its bytes
  · have hsame : c.toLower = c := by
      apply Char.toNat_inj.mp
      rw [toNat_toLower, if_neg (by omega)]
    rw [hsame]
    have hfixed : ∀ b ∈ String.utf8EncodeChar c, Token.lowerByte b = b := by
      intro b hb
      have := le_of_mem_utf8EncodeChar (by omega) hb
      apply UInt8.toNat_inj.mp
      rw [toNat_lowerByte, if_neg (by omega)]
    exact ((List.map_congr_left hfixed).trans (List.map_id'' (fun _ => rfl) _)).symm

/-- **Putting a text into lower case** puts its bytes into lower case. -/
theorem utf8_lower (text : List Char) :
    utf8 (String.ofList (lower text)) = (utf8 (String.ofList text)).map Token.lowerByte := by
  simp only [utf8_ofList, lower, List.flatMap_map, List.map_flatMap, utf8EncodeChar_toLower]

/-- Lower case takes as many bytes. -/
@[simp] theorem byteLength_lower (text : List Char) :
    byteLength (lower text) = byteLength text := by
  rw [← length_utf8_ofList, utf8_lower, List.length_map, length_utf8_ofList]

/-- Bytes in lower case stay as they are. -/
theorem map_lowerByte_map (bytes : List UInt8) :
    (bytes.map Token.lowerByte).map Token.lowerByte = bytes.map Token.lowerByte := by
  rw [List.map_map]
  exact List.map_congr_left fun b _ => lowerByte_lowerByte b

end Text

end Blocklist
