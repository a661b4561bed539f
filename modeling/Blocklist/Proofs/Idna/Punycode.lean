import Mathlib.Data.List.InsertIdx
import Blocklist.Idna.Punycode
import Blocklist.Proofs.Text.Cut
import Blocklist.Proofs.Text.Lower
/-!
# Internationalised names — the characters of Punycode

Numbers are written with letters and digits, and stand for characters outside
ASCII. So every other character of ASCII, but for the hyphen between, is in a
Punycode if it is in the label (`mem_encode`, `mem_of_decode?`).
-/

namespace Blocklist

namespace Punycode

variable {c : Char} {label code number plain : List Char}

/-- A character of ASCII that Punycode has no use for of its own. -/
def isSign (c : Char) : Bool := c.val < 0x80 && !c.isAlphanum && c != '-'

theorem isSign_iff : isSign c ↔ c.toNat < 128 ∧ ¬ c.isAlphanum ∧ c ≠ '-' := by
  rw [isSign, Bool.and_eq_true, Bool.and_eq_true, decide_eq_true_iff, Bool.not_eq_true',
    ← Bool.not_eq_true, bne_iff_ne, and_assoc]
  rfl

/-! ## Writing -/

theorem isAlphanum_digit {d : Nat} (hd : d < 36) : (digit d).isAlphanum := by
  have hall : ∀ d < 36, (digit d).isAlphanum := by decide
  exact hall d hd

theorem isAlphanum_of_mem_digits (bias k n : Nat) : ∀ c ∈ digits bias k n, c.isAlphanum := by
  fun_induction digits bias k n with
  | case1 k n t hlast =>
    have hthreshold : t ≤ 26 := threshold_le k bias
    rintro _ (_ | ⟨_, ⟨⟩⟩)
    exact isAlphanum_digit (by omega)
  | case2 k n t hmore ih =>
    have hthreshold : t ≤ 26 := threshold_le k bias
    have hrest : (n - t) % (36 - t) < 36 - t := Nat.mod_lt _ (by omega)
    rintro _ (_ | ⟨_, hmem⟩)
    · exact isAlphanum_digit (by omega)
    · exact ih _ hmem

/-- What is behind the hyphen is letters and digits. -/
def Writer.Numbers (w : Writer) : Prop := ∀ c ∈ w.back, c.isAlphanum

variable {w : Writer}

theorem Writer.Numbers.pass (h : w.Numbers) (basic m : Nat) (c : Char) :
    (w.pass basic m c).Numbers := by
  rw [Writer.pass]
  split
  · exact h
  · split
    · intro d hd
      rcases List.mem_append.mp hd with hd | hd
      · exact isAlphanum_of_mem_digits _ _ _ d (List.mem_reverse.mp hd)
      · exact h d hd
    · exact h

theorem Writer.Numbers.occurrences (h : w.Numbers) (label : List Char) (basic m : Nat) :
    (w.occurrences label basic m).Numbers := by
  have hrun : ∀ (text : List Char) (w : Writer), w.Numbers →
      (text.foldl (Writer.pass basic m) w).Numbers := by
    intro text
    induction text with
    | nil => exact fun _ hw => hw
    | cons c text ih => exact fun w hw => ih _ (hw.pass basic m c)
  exact hrun label { w with delta := _, next := m } h

theorem Writer.Numbers.foldl (h : w.Numbers) (label : List Char) (basic : Nat) (others : List Nat) :
    (others.foldl (Writer.occurrences label basic) w).Numbers := by
  induction others generalizing w with
  | nil => exact h
  | cons m others ih => exact ih (h.occurrences label basic m)

/-- The characters of a Punycode: those of ASCII in the label, a hyphen, and numbers. -/
theorem exists_encode_eq (label : List Char) : ∃ front number, encode label = front ++ number ∧
    (∀ c, c ≠ '-' → (c ∈ front ↔ c ∈ label ∧ c.toNat < 128)) ∧
    (∀ c ∈ front, c.toNat < 128) ∧ ∀ c ∈ number, c.isAlphanum := by
  have hbasic : ∀ c, c ∈ label.filter (fun c => c.val < 0x80) ↔ c ∈ label ∧ c.toNat < 128 := by
    intro c
    rw [List.mem_filter, decide_eq_true_iff]
    rfl
  refine ⟨_, _, rfl, ?_, ?_, ?_⟩
  · intro c hc
    rw [← hbasic]
    split
    · next hempty => simp [List.isEmpty_iff.mp hempty]
    · simp [hc]
  · intro c hc
    split at hc
    · cases hc
    · rcases List.mem_append.mp hc with hc | hc
      · exact ((hbasic c).mp hc).2
      · rw [List.mem_singleton.mp hc]
        decide
  · intro c hc
    have hnone : Writer.Numbers ⟨0x80, 0, 72, (label.filter fun c => c.val < 0x80).length, []⟩ := by
      simp [Writer.Numbers]
    exact hnone.foldl _ _ _ c (List.mem_reverse.mp hc)

/-- **A sign is written** where it is in the label. -/
theorem mem_encode (hc : isSign c) : c ∈ encode label ↔ c ∈ label := by
  obtain ⟨hascii, hsign, hhyphen⟩ := isSign_iff.mp hc
  obtain ⟨front, number, hencode, hfront, -, hnumber⟩ := exists_encode_eq label
  rw [hencode, List.mem_append, or_iff_left fun hmem => hsign (hnumber c hmem), hfront c hhyphen,
    and_iff_left hascii]

theorem toNat_lt_of_mem_encode (hc : c ∈ encode label) : c.toNat < 128 := by
  obtain ⟨front, number, hencode, -, hfront, hnumber⟩ := exists_encode_eq label
  rw [hencode] at hc
  rcases List.mem_append.mp hc with hc | hc
  · exact hfront c hc
  · have halnum := Text.isAlphanum_iff.mp (hnumber c hc)
    omega

/-! ## Reading -/

variable {r next : Reader}

theorem isAlphanum_of_digitValue? {d : Nat} (h : digitValue? c = some d) : c.isAlphanum := by
  rw [Text.isAlphanum_iff]
  simp only [digitValue?, Bool.and_eq_true, decide_eq_true_eq, Char.le_def,
    UInt32.le_iff_toNat_le] at h
  split at h
  · next hlower => exact .inr (.inl hlower)
  · split at h
    · next hupper => exact .inl hupper
    · split at h
      · next hdigit => exact .inr (.inr hdigit)
      · cases h

/-- One character is inserted, and it is not in ASCII. -/
theorem label_of_insert? (h : r.insert? = some next) (hr : 128 ≤ r.next) : 128 ≤ next.next ∧
    next.label ≠ [] ∧ ∀ c : Char, c.toNat < 128 → (c ∈ next.label ↔ c ∈ r.label) := by
  rw [Reader.insert?] at h
  obtain ⟨hvalid, h⟩ := Option.ite_none_right_eq_some.mp h
  cases h
  have hnext : 128 ≤ r.next + r.sum / (r.label.length + 1) := Nat.le_add_right_of_le hr
  have hplace : r.sum % (r.label.length + 1) ≤ r.label.length :=
    Nat.lt_succ_iff.mp (Nat.mod_lt _ (Nat.succ_pos _))
  refine ⟨hnext, List.ne_nil_of_mem (List.mem_insertIdx hplace |>.mpr (.inl rfl)), fun c hc => ?_⟩
  rw [List.mem_insertIdx hplace, or_iff_right]
  have hcode : ∀ n : Nat, n.isValidChar → (Char.ofNat n).toNat = n := by
    intro n hn
    rw [Char.ofNat, dif_pos hn]
    rfl
  rintro rfl
  rw [hcode _ hvalid] at hc
  omega

/-- What a reader makes of the digits it still gets. -/
structure Reader.Gives (r : Reader) (number label : List Char) : Prop where
  /-- They are digits. -/
  digits : ∀ c ∈ number, c.isAlphanum
  /-- They stand for no character of ASCII. -/
  basic : ∀ c : Char, c.toNat < 128 → (c ∈ label ↔ c ∈ r.label)
  /-- There is a character if there is one already, or a digit of one. -/
  ne_nil : r.label ≠ [] ∨ r.weight ≠ 1 ∨ number ≠ [] → label ≠ []

/-- **A reader makes of digits** the label so far, with characters outside ASCII. -/
theorem Reader.gives_of_read (h : r.read number = some label) (hr : 128 ≤ r.next) :
    r.Gives number label := by
  induction number generalizing r with
  | nil =>
    rw [Reader.read] at h
    obtain ⟨hweight, h⟩ := Option.ite_none_right_eq_some.mp h
    cases h
    exact ⟨by simp, fun _ _ => Iff.rfl, fun hsome => hsome.elim id fun hsome => by simp_all⟩
  | cons first number ih =>
    rw [Reader.read] at h
    obtain ⟨d, hd, h⟩ := Option.bind_eq_some_iff.mp h
    have hfirst : first.isAlphanum := isAlphanum_of_digitValue? hd
    have hdigits : ∀ {r' : Reader}, r'.Gives number label → ∀ c ∈ first :: number, c.isAlphanum :=
      fun hgives c hc => (List.mem_cons.mp hc).elim (fun heq => heq ▸ hfirst) (hgives.digits c)
    dsimp only at h
    split at h
    · -- the last digit of a number, which is inserted
      obtain ⟨next, hinsert, h⟩ := Option.bind_eq_some_iff.mp h
      obtain ⟨hnext, hne, hbasic⟩ := label_of_insert? hinsert hr
      have hgives := ih h hnext
      exact ⟨hdigits hgives, fun c hc => (hgives.basic c hc).trans (hbasic c hc),
        fun _ => hgives.ne_nil (.inl hne)⟩
    · -- a digit with more to follow, of which the weight tells
      have hgives := ih h hr
      have hthreshold := threshold_le r.k r.bias
      have hweight : r.weight * (36 - threshold r.k r.bias) ≠ 1 := by
        intro hone
        have := Nat.eq_one_of_mul_eq_one_left hone
        omega
      exact ⟨hdigits hgives, hgives.basic, fun _ => hgives.ne_nil (.inr (.inl hweight))⟩

/-- A label with its Punycode: what the numbers stand for is not in ASCII. -/
theorem gives_of_decode? (h : decode? code = some plain) : ∃ front number,
    (code = front ++ '-' :: number ∨ front = [] ∧ code = number) ∧
      Reader.Gives ⟨0x80, 0, 0, 1, 36, 72, front⟩ number plain := by
  rw [decode?] at h
  obtain ⟨-, h⟩ := Option.ite_none_right_eq_some.mp h
  refine ⟨_, _, ?_, Reader.gives_of_read h (Nat.le_refl 128)⟩
  cases hcut : Text.cutLast? '-' code with
  | none => exact .inr ⟨rfl, rfl⟩
  | some parts =>
    dsimp only
    split
    · exact .inr ⟨rfl, rfl⟩
    · exact .inl (Text.eq_append_of_cutLast? hcut).1

/-- **A sign is read** where it is written. -/
theorem mem_of_decode? (hc : isSign c) (h : decode? code = some plain) : c ∈ plain ↔ c ∈ code := by
  obtain ⟨hascii, hsign, hhyphen⟩ := isSign_iff.mp hc
  obtain ⟨front, number, hcode, hgives⟩ := gives_of_decode? h
  have hnumber : c ∉ number := fun hmem => hsign (hgives.digits c hmem)
  rw [hgives.basic c hascii]
  rcases hcode with rfl | ⟨rfl, rfl⟩
  · simp [hhyphen, hnumber]
  · simp [hnumber]

/-- A label that has a Punycode is not empty, but for one that is all hyphen. -/
theorem ne_nil_of_decode? (hlast : code.getLast?.any (· != '-')) (h : decode? code = some plain) :
    plain ≠ [] := by
  obtain ⟨front, number, hcode, hgives⟩ := gives_of_decode? h
  refine hgives.ne_nil (.inr (.inr ?_))
  rintro rfl
  rcases hcode with rfl | ⟨-, rfl⟩
  · simp at hlast
  · simp at hlast

end Punycode

end Blocklist
