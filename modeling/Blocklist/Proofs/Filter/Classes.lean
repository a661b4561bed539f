import Blocklist.Proofs.Filter.Brackets
import Blocklist.Proofs.Text.Utf8
/-!
# Filters — selectors of classes and ids

Where a selector has neither combinators nor brackets, all of it counts, and
where it is made of classes and ids, its tokens are theirs in turn: the comma
between two alternatives is passed over like the dots. Main statement:
`CosmeticFilter.selectorTokens_alternatives`.
-/

namespace Blocklist

namespace Token

variable {text body back : List UInt8} {b : UInt8} {allowed : UInt8 → Bool}

/-! ## Identifiers in turn -/

/-- What precedes a text does not change what its runs hold. -/
theorem map_body_runsFrom (before before' : Option UInt8) (text : List UInt8) :
    (runsFrom allowed before text).map Run.body = (runsFrom allowed before' text).map Run.body := by
  cases text with
  | nil => simp only [runsFrom]
  | cons b rest =>
    rw [runsFrom, runsFrom]
    split <;> rfl

theorem ofSelector_eq (text : List UInt8) :
    ofSelector text = ((runs isIdentByte text).map Run.body).map hashToken := by
  rw [ofSelector, List.map_map]
  rfl

@[simp] theorem ofSelector_nil : ofSelector [] = [] := by
  simp [ofSelector, runs, runsFrom]

theorem ofSelector_cons_of_not_ident (hb : isIdentByte b = false) (text : List UInt8) :
    ofSelector (b :: text) = ofSelector text := by
  rw [ofSelector_eq, ofSelector_eq, runs, runs, runsFrom, if_neg (by simp [hb]),
    map_body_runsFrom (some b) none]

/-- An identifier at the beginning is the first token. -/
theorem ofSelector_append (hne : body ≠ []) (hbody : ∀ b ∈ body, isIdentByte b)
    (hback : ∀ b ∈ back.head?, isIdentByte b = false) :
    ofSelector (body ++ back) = hashToken body :: ofSelector back := by
  obtain ⟨b, rest, rfl⟩ := List.exists_cons_of_ne_nil hne
  obtain ⟨hb, hrest⟩ := List.forall_mem_cons.mp hbody
  obtain ⟨htake, hdrop⟩ := Text.takeWhile_append_of_stop hrest hback
  rw [ofSelector_eq, ofSelector_eq, runs, runs, List.cons_append, runsFrom, if_pos hb]
  dsimp only
  rw [htake, hdrop, List.map_cons, List.map_cons, map_body_runsFrom (some b) none]

end Token

open Token

/-! ## Classes and ids -/

/-- A class or an id in a selector. -/
structure ClassOrId where
  /-- What stands before the name: a dot or a number sign. -/
  mark : Char
  /-- The name. -/
  name : List Char
  /-- There are no other marks. -/
  isMark : mark = '.' ∨ mark = '#'
  /-- The name is not empty. -/
  ne_nil : name ≠ []
  /-- It is an identifier. -/
  isIdent : ∀ b ∈ Text.utf8 (String.ofList name), isIdentByte b

namespace ClassOrId

/-- The text of some classes and ids, one after the other. -/
def textOf (parts : List ClassOrId) : List Char := parts.flatMap fun c => c.mark :: c.name

/-- The tokens that a page with these classes and ids shows. -/
def tokensOf (parts : List ClassOrId) : List UInt32 :=
  parts.map fun c => hashText (String.ofList c.name)

/-- The selector of what has all of these classes and ids, or all of those. -/
def alternatives (first second : List ClassOrId) : List Char :=
  textOf first ++ ',' :: ' ' :: textOf second

variable {parts first second : List ClassOrId} {text : List Char} {b : UInt8} {c : ClassOrId}

theorem toNat_mark_lt (c : ClassOrId) : c.mark.toNat < 128 := by
  rcases c.isMark with h | h <;> rw [h] <;> decide

/-- A mark is no part of an identifier. -/
theorem isIdentByte_mark (c : ClassOrId) : isIdentByte (UInt8.ofNat c.mark.toNat) = false := by
  rcases c.isMark with h | h <;> rw [h] <;> decide

theorem utf8_name_ne_nil (c : ClassOrId) : Text.utf8 (String.ofList c.name) ≠ [] := fun h =>
  c.ne_nil (Text.utf8_ofList_injective h)

theorem textOf_cons_append (c : ClassOrId) (parts : List ClassOrId) (text : List Char) :
    textOf (c :: parts) ++ text = c.mark :: (c.name ++ (textOf parts ++ text)) := by
  simp [textOf]

/-- Where no identifier begins behind them, none goes on there. -/
theorem isIdentByte_head?_textOf_append
    (htext : ∀ b ∈ (Text.utf8 (String.ofList text)).head?, isIdentByte b = false) :
    ∀ b ∈ (Text.utf8 (String.ofList (textOf parts ++ text))).head?, isIdentByte b = false := by
  cases parts with
  | nil => exact htext
  | cons c parts =>
    rw [textOf_cons_append, Text.utf8_ofList_cons_of_ascii c.toNat_mark_lt]
    rintro b hb
    exact Option.some.inj hb ▸ c.isIdentByte_mark

/-- **The tokens of classes and ids** are those of their names, in turn. -/
theorem ofSelector_textOf_append
    (htext : ∀ b ∈ (Text.utf8 (String.ofList text)).head?, isIdentByte b = false) :
    ofSelector (Text.utf8 (String.ofList (textOf parts ++ text)))
      = tokensOf parts ++ ofSelector (Text.utf8 (String.ofList text)) := by
  induction parts with
  | nil => rfl
  | cons c parts ih =>
    rw [textOf_cons_append, Text.utf8_ofList_cons_of_ascii c.toNat_mark_lt,
      ofSelector_cons_of_not_ident c.isIdentByte_mark, Text.utf8_ofList_append,
      ofSelector_append c.utf8_name_ne_nil c.isIdent (isIdentByte_head?_textOf_append htext), ih]
    rfl

/-! ## Alternatives -/

/-- A byte that neither parts compounds nor begins or ends an attribute. -/
def IsInner (b : UInt8) : Prop := CosmeticFilter.isPlain b ∧ CosmeticFilter.isCombinator b = false

theorem isInner_of_isIdentByte (h : isIdentByte b) : IsInner b := by
  constructor
  · by_contra hplain
    rw [CosmeticFilter.isIdentByte_of_stop (.inl (by simpa using hplain))] at h
    exact Bool.false_ne_true h
  · by_contra hcombinator
    rw [CosmeticFilter.isIdentByte_of_stop (.inr (by simpa using hcombinator))] at h
    exact Bool.false_ne_true h

theorem isInner_of_mem_textOf (h : b ∈ Text.utf8 (String.ofList (textOf parts))) : IsInner b := by
  induction parts with
  | nil => exact absurd h List.not_mem_nil
  | cons c parts ih =>
    have htext : textOf (c :: parts) = c.mark :: (c.name ++ textOf parts) := by simp [textOf]
    rw [htext, Text.utf8_ofList_cons_of_ascii c.toNat_mark_lt, Text.utf8_ofList_append,
      List.mem_cons, List.mem_append] at h
    rcases h with rfl | h | h
    · rcases c.isMark with hmark | hmark <;> rw [hmark] <;> exact ⟨by decide, by decide⟩
    · exact isInner_of_isIdentByte (c.isIdent b h)
    · exact ih h

/-- No compound ends and no attribute begins within alternatives. -/
theorem isInner_of_mem_alternatives
    (h : b ∈ Text.utf8 (String.ofList (alternatives first second))) : IsInner b := by
  rw [alternatives, Text.utf8_ofList_append, Text.utf8_ofList_cons_of_ascii (by decide),
    Text.utf8_ofList_cons_of_ascii (by decide), List.mem_append, List.mem_cons, List.mem_cons] at h
  rcases h with h | rfl | rfl | h
  · exact isInner_of_mem_textOf h
  · exact ⟨by decide, by decide⟩
  · exact ⟨by decide, by decide⟩
  · exact isInner_of_mem_textOf h

/-- The tokens of alternatives are those of the first and then those of the second. -/
theorem ofSelector_alternatives (first second : List ClassOrId) :
    ofSelector (Text.utf8 (String.ofList (alternatives first second)))
      = tokensOf (first ++ second) := by
  have hnone : ofSelector (Text.utf8 (String.ofList [])) = [] := ofSelector_nil
  have hsecond : ofSelector (Text.utf8 (String.ofList (textOf second ++ [])))
      = tokensOf second ++ ofSelector (Text.utf8 (String.ofList [])) :=
    ofSelector_textOf_append (by simp [Text.utf8])
  rw [List.append_nil, hnone, List.append_nil] at hsecond
  have hcomma : ∀ text, Text.utf8 (String.ofList (',' :: ' ' :: text))
      = 0x2C :: 0x20 :: Text.utf8 (String.ofList text) := fun text => by
    rw [Text.utf8_ofList_cons_of_ascii (by decide), Text.utf8_ofList_cons_of_ascii (by decide)]
    rfl
  have hstop : ∀ b ∈ (Text.utf8 (String.ofList (',' :: ' ' :: textOf second))).head?,
      isIdentByte b = false := by
    rw [hcomma]
    exact fun b hb => Option.some.inj hb ▸ by decide
  rw [alternatives, ofSelector_textOf_append hstop, hcomma, ofSelector_cons_of_not_ident (by decide),
    ofSelector_cons_of_not_ident (by decide), hsecond, tokensOf, tokensOf, tokensOf, List.map_append]

end ClassOrId

namespace CosmeticFilter

open ClassOrId

variable {f : CosmeticFilter} {text : List UInt8}

theorem lastCompound_of_isInner (h : ∀ b ∈ text, IsInner b) : lastCompound text = text := by
  have hall : text.reverse.takeWhile (!isCombinator ·) = text.reverse := by
    rw [List.takeWhile_eq_self_iff]
    intro b hb
    rw [(h b (List.mem_reverse.mp hb)).2]
    rfl
  rw [lastCompound, hall, List.reverse_reverse]

theorem outside_of_isInner (h : ∀ b ∈ text, IsInner b) : outside 0 text = [text] := by
  have hdrop : text.dropWhile isPlain = [] := List.dropWhile_eq_nil_iff.mpr fun b hb => (h b hb).1
  have htake : text.takeWhile isPlain = text := List.takeWhile_eq_self_iff.mpr fun b hb => (h b hb).1
  rw [outside, if_pos rfl, htake]
  split
  · rfl
  · next hrest => exact absurd (hdrop.symm.trans hrest) (List.cons_ne_nil _ _).symm

/-- **The tokens of a filter of alternatives** are those of both, as far as the buffer holds
them. -/
theorem selectorTokens_alternatives {first second : List ClassOrId} (hhide : f.action = .hide)
    (hselector : f.selector = String.ofList (alternatives first second)) :
    f.selectorTokens = (tokensOf (first ++ second)).take tokenCapacity := by
  have hinner : ∀ b ∈ Text.utf8 f.selector, IsInner b := by
    rw [hselector]
    exact fun b => isInner_of_mem_alternatives
  rw [selectorTokens, if_neg (by simp [hhide]), lastCompound_of_isInner hinner,
    outside_of_isInner hinner, hselector]
  dsimp only
  rw [List.flatMap_singleton, ofSelector_alternatives, TokenBuffer.tokens_extend]
  rfl

end CosmeticFilter

end Blocklist
