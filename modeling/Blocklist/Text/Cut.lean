/-!
# Text — cutting and trimming

Lines and options are taken apart as lists of characters. Every cut hands
back the pieces around it, so what was read and what is left are both at
hand and no offset is ever carried along.
-/

namespace Blocklist

namespace Text

variable {α : Type}

/-- What follows `opening`, where `text` begins with it. -/
def dropOpening? [BEq α] : (opening text : List α) → Option (List α)
  | [], text => some text
  | _ :: _, [] => none
  | o :: opening, t :: text => if o == t then dropOpening? opening text else none

/-- What precedes `closing`, where `text` ends with it. -/
def dropClosing? [BEq α] (closing text : List α) : Option (List α) :=
  (dropOpening? closing.reverse text.reverse).map List.reverse

/-- The text before the first `sep` and the text after it. -/
def cut? [BEq α] (sep : α) : List α → Option (List α × List α)
  | [] => none
  | t :: text =>
    if t == sep then some ([], text)
    else (cut? sep text).map fun parts => (t :: parts.1, parts.2)

/-- The text before the last `sep` and the text after it. -/
def cutLast? [BEq α] (sep : α) (text : List α) : Option (List α × List α) :=
  (cut? sep text.reverse).map fun parts => (parts.2.reverse, parts.1.reverse)

/-- Whether `part` stands in `text` after the first `offset` letters. -/
def standsAt [BEq α] (offset : Nat) (part text : List α) : Bool :=
  offset ≤ text.length && part.isPrefixOf (text.drop offset)

/-- Whether `part` occurs in `text` as a run of neighbours. -/
def contains [BEq α] (part : List α) : List α → Bool
  | [] => part.isEmpty
  | t :: text => part.isPrefixOf (t :: text) || contains part text

/-- Drops the letters that satisfy `p` from both ends. -/
def trimBy (p : α → Bool) (text : List α) : List α :=
  ((text.dropWhile p).reverse.dropWhile p).reverse

/-- The characters of Unicode's White_Space property. -/
def isBlank (c : Char) : Bool :=
  ('\t' ≤ c && c ≤ '\r') || c == ' ' || c == '\u0085' || c == '\u00A0' || c == '\u1680'
    || ('\u2000' ≤ c && c ≤ '\u200A') || c == '\u2028' || c == '\u2029' || c == '\u202F'
    || c == '\u205F' || c == '\u3000'

/-- The text without the blanks around it. -/
def trim (text : List Char) : List Char := trimBy isBlank text

/-- The maximal blank-free pieces of a text. -/
def words (text : List Char) : List (List Char) :=
  (text.splitOnP isBlank).filter (!·.isEmpty)

/-- Whether every character is below U+0080. -/
def isAscii (text : List Char) : Bool := text.all fun c => c.val < 0x80

/-- ASCII letters in lower case, all else as it is. -/
def lower (text : List Char) : List Char := text.map Char.toLower

/-- A letter or a digit of ASCII. -/
def isAlphanum (c : Char) : Bool := c.isAlphanum

/-! ## What the cuts lose -/

/-- Nothing but the opening goes. -/
theorem eq_append_of_dropOpening? [BEq α] [LawfulBEq α] {opening text rest : List α}
    (h : dropOpening? opening text = some rest) : text = opening ++ rest := by
  induction opening generalizing text with
  | nil => simpa [dropOpening?] using h
  | cons o opening ih =>
    cases text with
    | nil => simp [dropOpening?] at h
    | cons t text =>
      simp only [dropOpening?] at h
      split at h
      · rename_i hot
        simp [eq_of_beq hot, ih h]
      · simp at h

@[simp] theorem dropOpening?_append [BEq α] [LawfulBEq α] (opening rest : List α) :
    dropOpening? opening (opening ++ rest) = some rest := by
  induction opening with
  | nil => rfl
  | cons o opening ih => simp [dropOpening?, ih]

/-- Nothing but one separator goes, and none is left before it. -/
theorem eq_append_of_cut? [BEq α] [LawfulBEq α] {sep : α} {text front back : List α}
    (h : cut? sep text = some (front, back)) : text = front ++ sep :: back ∧ sep ∉ front := by
  induction text generalizing front with
  | nil => simp [cut?] at h
  | cons t text ih =>
    simp only [cut?] at h
    split at h
    · rename_i hts
      obtain ⟨rfl, rfl⟩ := Prod.mk.inj (Option.some.inj h)
      simp [eq_of_beq hts]
    · rename_i hts
      obtain ⟨⟨f, b⟩, hcut, hparts⟩ := Option.map_eq_some_iff.mp h
      obtain ⟨rfl, rfl⟩ := Prod.mk.inj hparts
      obtain ⟨htext, hfront⟩ := ih hcut
      have hne : t ≠ sep := fun e => hts (by simp [e])
      exact ⟨by rw [htext, List.cons_append], by simp [hfront, Ne.symm hne]⟩

end Text

end Blocklist
