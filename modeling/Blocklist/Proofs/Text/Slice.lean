import Blocklist.Proofs.Access
import Blocklist.Proofs.Text.Cut
import Blocklist.Proofs.Text.Utf8
/-!
# Text — slices by offset

A text may be sliced at offsets that count its bytes, but only where a
character begins or the text ends; a slice anywhere else is a fault. Those
are the positions of the text (`isSome_cutAt?_iff`). Where a text is put
together from parts, its slices at their offsets are the parts
(`slice_append`, `sliceFrom_append_cons`), and where a byte of ASCII stands, a
character begins and the next one follows (`exists_eq_append_of_utf8`).
-/

namespace Blocklist

namespace Text

variable {offset start stop : Nat} {text front part back rest : List Char} {sep c : Char}

/-! ## Slices -/

/-- The text up to an offset and from there on; none where no character begins. -/
def cutAt? : (offset : Nat) → (text : List Char) → Option (List Char × List Char)
  | 0, text => some ([], text)
  | _ + 1, [] => none
  | offset + 1, c :: text =>
    if offset + 1 < c.utf8Size then none
    else (cutAt? (offset + 1 - c.utf8Size) text).map fun parts => (c :: parts.1, parts.2)

/-- The text from one offset up to another. -/
def slice (start stop : Nat) (text : List Char) : Except Fault (List Char) :=
  match (cutAt? stop text).bind fun upTo => cutAt? start upTo.1 with
  | some (_, part) => .ok part
  | none => .error (.slice start stop (byteLength text))

/-- The text from an offset on. -/
def sliceFrom (start : Nat) (text : List Char) : Except Fault (List Char) :=
  slice start (byteLength text) text

example : slice 1 3 ['a', 'é', 'b'] = .ok ['é'] ∧
    sliceFrom 2 ['a', 'é', 'b'] = .error (.slice 2 4 4) :=
  ⟨rfl, rfl⟩

theorem byteLength_eq_zero_iff : byteLength text = 0 ↔ text = [] := by
  cases text with
  | nil => exact iff_of_true rfl rfl
  | cons c text =>
    rw [byteLength_cons]
    have := c.utf8Size_pos
    exact iff_of_false (by omega) (List.cons_ne_nil _ _)

/-- **A text is cut at an offset** where a part of it takes that many bytes. -/
theorem cutAt?_eq_some_iff :
    cutAt? offset text = some (front, back) ↔ text = front ++ back ∧ byteLength front = offset := by
  fun_induction cutAt? offset text generalizing front back with
  | case1 text =>
    rw [byteLength_eq_zero_iff, Option.some.injEq, Prod.mk.injEq]
    constructor
    · rintro ⟨rfl, rfl⟩
      exact ⟨rfl, rfl⟩
    · rintro ⟨rfl, rfl⟩
      exact ⟨rfl, rfl⟩
  | case2 offset =>
    refine iff_of_false (by simp) ?_
    rintro ⟨htext, hlength⟩
    obtain ⟨rfl, -⟩ := List.append_eq_nil_iff.mp htext.symm
    cases hlength
  | case3 offset c text hshort =>
    refine iff_of_false (by simp) ?_
    rintro ⟨htext, hlength⟩
    cases front with
    | nil => cases hlength
    | cons d front =>
      obtain ⟨rfl, -⟩ := List.cons.inj htext
      rw [byteLength_cons] at hlength
      omega
  | case4 offset c text hlong ih =>
    simp only [Option.map_eq_some_iff, Prod.exists, ih, Prod.mk.injEq]
    constructor
    · rintro ⟨front, back, ⟨rfl, hlength⟩, rfl, rfl⟩
      rw [byteLength_cons]
      exact ⟨rfl, by omega⟩
    · rintro ⟨htext, hlength⟩
      cases front with
      | nil => cases hlength
      | cons d front =>
        obtain ⟨rfl, rfl⟩ := List.cons.inj htext
        rw [byteLength_cons] at hlength
        exact ⟨front, back, ⟨rfl, by omega⟩, rfl, rfl⟩

theorem isSome_cutAt?_append (front back : List Char) :
    (cutAt? (byteLength front) (front ++ back)).isSome := by
  rw [cutAt?_eq_some_iff.mpr ⟨rfl, rfl⟩]
  rfl

theorem utf8ByteSize_ofList (text : List Char) :
    (String.ofList text).utf8ByteSize = byteLength text := by
  rw [← length_utf8_ofList, ← String.size_toByteArray, ← toByteArray_utf8, List.size_toByteArray]

/-- **A text may be cut at its positions**, and nowhere else. -/
theorem isSome_cutAt?_iff :
    (cutAt? offset text).isSome ↔ String.Pos.Raw.IsValid (String.ofList text) ⟨offset⟩ := by
  simp only [Option.isSome_iff_exists, Prod.exists, cutAt?_eq_some_iff,
    String.Pos.Raw.isValid_ofList, utf8ByteSize_ofList]
  constructor
  · rintro ⟨front, back, rfl, rfl⟩
    exact ⟨front.length, by rw [List.take_left]⟩
  · rintro ⟨i, rfl⟩
    exact ⟨text.take i, text.drop i, (List.take_append_drop i text).symm, rfl⟩

/-- **What is sliced** is a part of the text with its offsets. -/
theorem slice_eq_ok_iff : slice start stop text = .ok part ↔
    ∃ front back, text = front ++ part ++ back ∧ byteLength front = start
      ∧ start + byteLength part = stop := by
  have hcut : ∀ front, (cutAt? stop text).bind (fun upTo => cutAt? start upTo.1)
      = some (front, part) ↔ ∃ back, text = front ++ part ++ back ∧ byteLength front = start
        ∧ start + byteLength part = stop := by
    intro front
    simp only [Option.bind_eq_some_iff, Prod.exists, cutAt?_eq_some_iff]
    constructor
    · rintro ⟨_, back, ⟨rfl, rfl⟩, rfl, rfl⟩
      exact ⟨back, rfl, rfl, (byteLength_append front part).symm⟩
    · rintro ⟨back, rfl, rfl, rfl⟩
      exact ⟨front ++ part, back, ⟨rfl, byteLength_append front part⟩, rfl, rfl⟩
  simp only [← hcut]
  rw [slice]
  split
  · next front found h =>
    simp only [h, Except.ok.injEq, Option.some.injEq, Prod.mk.injEq, exists_eq_left']
  · next h => simp [h]

theorem slice_append (front part back : List Char) :
    slice (byteLength front) (byteLength front + byteLength part) (front ++ part ++ back)
      = .ok part :=
  slice_eq_ok_iff.mpr ⟨front, back, rfl, rfl, rfl⟩

theorem slice_zero_append (front back : List Char) :
    slice 0 (byteLength front) (front ++ back) = .ok front :=
  slice_eq_ok_iff.mpr ⟨[], back, rfl, rfl, Nat.zero_add _⟩

theorem sliceFrom_append (front back : List Char) :
    sliceFrom (byteLength front) (front ++ back) = .ok back :=
  slice_eq_ok_iff.mpr
    ⟨front, [], (List.append_nil _).symm, rfl, (byteLength_append front back).symm⟩

/-- What follows a character of one byte. -/
theorem sliceFrom_append_cons (hc : c.utf8Size = 1) (front back : List Char) :
    sliceFrom (byteLength front + 1) (front ++ c :: back) = .ok back := by
  have h := sliceFrom_append (front ++ [c]) back
  rwa [byteLength_append, byteLength_cons, hc, ← List.append_cons] at h

/-- The bytes of a slice are those between its offsets. -/
theorem utf8_of_slice (h : slice start stop text = .ok part) :
    utf8 (String.ofList part) = ((utf8 (String.ofList text)).drop start).take (stop - start) := by
  obtain ⟨front, back, rfl, rfl, rfl⟩ := slice_eq_ok_iff.mp h
  rw [List.append_assoc, utf8_ofList_append, utf8_ofList_append, Nat.add_sub_cancel_left,
    ← length_utf8_ofList front, ← length_utf8_ofList part, List.drop_left, List.take_left]

/-- The bytes of a text up to an offset found in it. -/
theorem access_slice_zero_append (front back : List Char) :
    Access.slice 0 (byteLength front) (utf8 (String.ofList (front ++ back)))
      = .ok (utf8 (String.ofList front)) := by
  rw [utf8_ofList_append, ← length_utf8_ofList, Access.slice_of_le (Nat.zero_le _)
    (by rw [List.length_append]; exact Nat.le_add_right ..), List.drop_zero, Nat.sub_zero,
    List.take_left]

/-- How much of a text is left behind an offset found in it. -/
theorem access_sub_append (front back : List Char) :
    Access.sub (byteLength (front ++ back)) (byteLength front) = .ok (byteLength back) := by
  rw [byteLength_append, Access.sub_of_le (Nat.le_add_right ..), Nat.add_sub_cancel_left]

/-- Between two places where a text may be cut, it may be sliced. -/
theorem exists_slice (hle : start ≤ stop) (hstart : (cutAt? start text).isSome)
    (hstop : (cutAt? stop text).isSome) : ∃ part, slice start stop text = .ok part := by
  obtain ⟨⟨front, rest⟩, hstart⟩ := Option.isSome_iff_exists.mp hstart
  obtain ⟨⟨upTo, back⟩, hstop⟩ := Option.isSome_iff_exists.mp hstop
  obtain ⟨rfl, rfl⟩ := cutAt?_eq_some_iff.mp hstart
  obtain ⟨htext, rfl⟩ := cutAt?_eq_some_iff.mp hstop
  rcases List.append_eq_append_iff.mp htext with ⟨part, rfl, rfl⟩ | ⟨part, rfl, rfl⟩
  · refine ⟨part, slice_eq_ok_iff.mpr ⟨front, back, (List.append_assoc ..).symm, rfl, ?_⟩⟩
    exact (byteLength_append front part).symm
  · -- the later place is not before the other, so they are the same
    rw [byteLength_append] at hle ⊢
    refine ⟨[], slice_eq_ok_iff.mpr ⟨upTo ++ part, rest, by simp, byteLength_append upTo part, ?_⟩⟩
    show byteLength upTo + byteLength part + 0 = byteLength upTo
    omega

/-- **A slice is no fault** if it begins and ends at positions of the text, in that order. -/
theorem exists_slice_iff : (∃ part, slice start stop text = .ok part) ↔
    start ≤ stop ∧ String.Pos.Raw.IsValid (String.ofList text) ⟨start⟩
      ∧ String.Pos.Raw.IsValid (String.ofList text) ⟨stop⟩ := by
  rw [← isSome_cutAt?_iff, ← isSome_cutAt?_iff]
  constructor
  · rintro ⟨part, hpart⟩
    obtain ⟨front, back, rfl, rfl, rfl⟩ := slice_eq_ok_iff.mp hpart
    refine ⟨Nat.le_add_right .., ?_, ?_⟩
    · rw [List.append_assoc]
      exact isSome_cutAt?_append front (part ++ back)
    · rw [← byteLength_append]
      exact isSome_cutAt?_append (front ++ part) back
  · rintro ⟨hle, hstart, hstop⟩
    exact exists_slice hle hstart hstop

/-! ## Offsets -/

/-- The offset of the first character that satisfies `p`. -/
def offset? (p : Char → Bool) : List Char → Option Nat
  | [] => none
  | c :: text => if p c then some 0 else (offset? p text).map (c.utf8Size + ·)

/-- The offset of the last character that satisfies `p`. -/
def lastOffset? (p : Char → Bool) : List Char → Option Nat
  | [] => none
  | c :: text =>
    match lastOffset? p text with
    | some offset => some (c.utf8Size + offset)
    | none => if p c then some 0 else none

/-- The first separator is where the text is cut. -/
theorem offset?_beq (sep : Char) (text : List Char) :
    offset? (· == sep) text = (cut? sep text).map fun parts => byteLength parts.1 := by
  induction text with
  | nil => rfl
  | cons c text ih =>
    rw [offset?, cut?, ih]
    split
    · rfl
    · rw [Option.map_map, Option.map_map]
      exact congrArg (Option.map · _) (funext fun parts => (byteLength_cons c parts.1).symm)

/-- Where there is none, the text goes on to its end. -/
theorem getD_offset? (p : Char → Bool) (text : List Char) :
    (offset? p text).getD (byteLength text) = byteLength (text.takeWhile (!p ·)) := by
  induction text with
  | nil => rfl
  | cons c text ih =>
    rw [offset?, List.takeWhile_cons]
    cases p c with
    | true => rfl
    | false =>
      rw [if_neg Bool.false_ne_true, Bool.not_false, if_pos rfl, byteLength_cons, byteLength_cons,
        ← ih]
      cases offset? p text <;> rfl

theorem lastOffset?_of_not_mem (h : sep ∉ text) : lastOffset? (· == sep) text = none := by
  induction text with
  | nil => rfl
  | cons c text ih =>
    obtain ⟨hne, htext⟩ := not_or.mp (mt List.mem_cons.mpr h)
    rw [lastOffset?, ih htext]
    exact if_neg fun heq => hne (eq_of_beq heq).symm

/-- The last separator is where the text is cut from behind. -/
theorem lastOffset?_beq (sep : Char) (text : List Char) :
    lastOffset? (· == sep) text = (cutLast? sep text).map fun parts => byteLength parts.1 := by
  cases hcut : cutLast? sep text with
  | none => exact lastOffset?_of_not_mem (cutLast?_eq_none_iff.mp hcut)
  | some parts =>
    obtain ⟨front, back⟩ := parts
    obtain ⟨rfl, hback⟩ := eq_append_of_cutLast? hcut
    rw [Option.map_some]
    clear hcut
    induction front with
    | nil =>
      rw [List.nil_append, lastOffset?, lastOffset?_of_not_mem hback]
      exact if_pos (beq_self_eq_true sep)
    | cons c front ih =>
      rw [List.cons_append, lastOffset?, ih, byteLength_cons]

/-! ## Bytes of ASCII -/

/-- **A byte of ASCII is a character of its own**, and characters begin on either side. -/
theorem exists_eq_append_of_utf8 {before behind : List UInt8} {b : UInt8} (hb : b.toNat < 128)
    (h : utf8 (String.ofList text) = before ++ b :: behind) :
    ∃ front c back, text = front ++ c :: back ∧ utf8 (String.ofList front) = before
      ∧ String.utf8EncodeChar c = [b] ∧ utf8 (String.ofList back) = behind := by
  induction text generalizing before with
  | nil => simp [utf8] at h
  | cons c text ih =>
    rw [utf8_ofList, List.flatMap_cons, ← utf8_ofList] at h
    have hmore : ∀ before', before = String.utf8EncodeChar c ++ before' →
        utf8 (String.ofList text) = before' ++ b :: behind → ∃ front d back,
          c :: text = front ++ d :: back ∧ utf8 (String.ofList front) = before
            ∧ String.utf8EncodeChar d = [b] ∧ utf8 (String.ofList back) = behind := by
      rintro before' rfl htext
      obtain ⟨front, d, back, rfl, rfl, hd, hback⟩ := ih htext
      refine ⟨c :: front, d, back, rfl, ?_, hd, hback⟩
      rw [utf8_ofList, List.flatMap_cons, ← utf8_ofList]
    rcases List.append_eq_append_iff.mp h with ⟨before', hbefore, htext⟩ | ⟨last, hlast, hbehind⟩
    · exact hmore before' hbefore htext
    · cases last with
      | nil => exact hmore [] (by simpa using hlast.symm) (by simpa using hbehind.symm)
      | cons d last =>
        obtain ⟨rfl, rfl⟩ := List.cons.inj hbehind
        -- the byte is one of the character, which therefore has no other
        have hascii : c.toNat < 128 := by
          by_contra hlarge
          have := le_of_mem_utf8EncodeChar (Nat.le_of_not_lt hlarge)
            (hlast ▸ List.mem_append_right _ List.mem_cons_self : b ∈ String.utf8EncodeChar c)
          omega
        have hone := utf8EncodeChar_of_ascii hascii
        rw [hlast, List.append_eq_singleton_iff] at hone
        rcases hone with ⟨rfl, hone⟩ | ⟨-, hone⟩
        · obtain ⟨-, rfl⟩ := List.cons.inj hone
          exact ⟨[], c, text, rfl, rfl, hlast, rfl⟩
        · exact absurd hone (List.cons_ne_nil _ _)

/-- A text may be cut on either side of a byte of ASCII. -/
theorem isSome_cutAt?_of_utf8 {before behind : List UInt8} {b : UInt8} (hb : b.toNat < 128)
    (h : utf8 (String.ofList text) = before ++ b :: behind) :
    (cutAt? before.length text).isSome ∧ (cutAt? (before.length + 1) text).isSome := by
  obtain ⟨front, c, back, rfl, rfl, hc, -⟩ := exists_eq_append_of_utf8 hb h
  have hsize : c.utf8Size = 1 := by rw [← String.length_utf8EncodeChar, hc]; rfl
  rw [length_utf8_ofList]
  constructor
  · exact isSome_cutAt?_append front (c :: back)
  · have hlength : byteLength (front ++ [c]) = byteLength front + 1 := by
      rw [byteLength_append, byteLength_cons, hsize]
      rfl
    rw [← hlength, List.append_cons front c back]
    exact isSome_cutAt?_append (front ++ [c]) back

/-- The first byte of a text tells its first character from any other, if either is of ASCII. -/
theorem exists_head_utf8 (c : Char) (text : List Char) :
    ∃ b rest, utf8 (String.ofList (c :: text)) = b :: rest ∧
      (∀ d : Char, d.toNat < 128 → (b = UInt8.ofNat d.toNat ↔ c = d)) ∧
      (c.toNat < 128 → rest = utf8 (String.ofList text)) := by
  by_cases hc : c.toNat < 128
  · refine ⟨_, _, utf8_ofList_cons_of_ascii hc text, fun d hd => ?_, fun _ => rfl⟩
    rw [← UInt8.toNat_inj, UInt8.toNat_ofNat', UInt8.toNat_ofNat', ← Char.toNat_inj]
    omega
  · obtain ⟨b, rest, hbytes⟩ := List.exists_cons_of_ne_nil (String.utf8EncodeChar_ne_nil (c := c))
    refine ⟨b, rest ++ utf8 (String.ofList text), ?_, fun d hd => iff_of_false ?_ ?_, (absurd · hc)⟩
    · rw [utf8_ofList, List.flatMap_cons, ← utf8_ofList, hbytes, List.cons_append]
    · rintro rfl
      have hlarge := le_of_mem_utf8EncodeChar (Nat.le_of_not_lt hc)
        (hbytes ▸ List.mem_cons_self : UInt8.ofNat d.toNat ∈ String.utf8EncodeChar c)
      rw [UInt8.toNat_ofNat'] at hlarge
      omega
    · rintro rfl
      exact hc hd

/-- A text begins with a letter of ASCII where its bytes do. -/
theorem getElem?_utf8_zero_iff (d : Char) (hd : d.toNat < 128) (text : List Char) :
    (utf8 (String.ofList text))[0]? = some (UInt8.ofNat d.toNat) ↔ text.head? = some d := by
  cases text with
  | nil => simp [utf8]
  | cons c text =>
    obtain ⟨b, rest, hbytes, hfirst, -⟩ := exists_head_utf8 c text
    rw [hbytes, List.getElem?_cons_zero, Option.some.injEq, hfirst d hd, List.head?_cons,
      Option.some.injEq]

/-- **A text of ASCII begins another** where its bytes do. -/
theorem isPrefixOf_utf8 {name : List Char} (hname : isAscii name) (text : List Char) :
    (utf8 (String.ofList name)).isPrefixOf (utf8 (String.ofList text))
      = (dropOpening? name text).isSome := by
  induction name generalizing text with
  | nil => rfl
  | cons d name ih =>
    obtain ⟨hd, hothers⟩ := Bool.and_eq_true_iff.mp hname
    have hd : d.toNat < 128 := of_decide_eq_true hd
    rw [utf8_ofList_cons_of_ascii hd]
    cases text with
    | nil => rfl
    | cons c text =>
      obtain ⟨b, rest, hbytes, hfirst, hrest⟩ := exists_head_utf8 c text
      rw [hbytes, List.isPrefixOf_cons_cons, dropOpening?]
      by_cases heq : c = d
      · subst heq
        rw [(hfirst c hd).mpr rfl, hrest hd, ih hothers]
        simp
      · have hne : (UInt8.ofNat d.toNat == b) = false :=
          beq_false_of_ne fun h => heq ((hfirst d hd).mp h.symm)
        rw [hne, Bool.false_and, if_neg fun h => heq (eq_of_beq h).symm]
        rfl

/-- What stands in a text behind a part of it. -/
theorem standsAt_utf8_append {name : List Char} (hname : isAscii name)
    (front back : List Char) :
    standsAt (byteLength front) (utf8 (String.ofList name)) (utf8 (String.ofList (front ++ back)))
      = (dropOpening? name back).isSome := by
  have hle : byteLength front ≤ (utf8 (String.ofList (front ++ back))).length := by
    rw [length_utf8_ofList, byteLength_append]
    exact Nat.le_add_right ..
  rw [standsAt, decide_eq_true hle, Bool.true_and, utf8_ofList_append, ← length_utf8_ofList,
    List.drop_left, isPrefixOf_utf8 hname]

end Text

end Blocklist
