import Blocklist.Proofs.Filter.Glob
import Blocklist.Proofs.Positions
import Blocklist.Proofs.Text.Cut
/-!
# Filters — what wildcard patterns say

Read from left to right, a pattern takes a stretch of the text from one
position to another (`Takes`): a `*` takes any run, a `^` a separator, or
nothing at the end, and every other byte itself. Main statement
(`isMatch_iff_takes`): a pattern matches exactly where it takes some stretch
that begins and ends as the anchors demand. To put each segment at its first
place misses nothing, since a segment that begins earlier leaves more of the
text to those that follow (`exists_suffix_of_afterFirst?`).
-/

namespace Blocklist

namespace Glob

variable {input segment text rest : List UInt8} {right : Bool}

/-- **What a pattern takes of a text**, from a position on up to another. -/
inductive Takes (input : List UInt8) : List UInt8 → Nat → Nat → Prop
  /-- Nothing is left of the pattern. -/
  | done {a : Nat} : a ≤ input.length → Takes input [] a a
  /-- A `*` takes any run. -/
  | run {a m b : Nat} {pattern : List UInt8} :
      a ≤ m → Takes input pattern m b → Takes input (wildcard :: pattern) a b
  /-- A `^` takes a separator. -/
  | separator {a b : Nat} {c : UInt8} {pattern : List UInt8} :
      input[a]? = some c → Url.isSeparator c → Takes input pattern (a + 1) b →
      Takes input (separatorMark :: pattern) a b
  /-- A `^` takes nothing at the end. -/
  | finish {b : Nat} {pattern : List UInt8} :
      Takes input pattern input.length b → Takes input (separatorMark :: pattern) input.length b
  /-- Every other byte takes itself. -/
  | byte {a b : Nat} {c : UInt8} {pattern : List UInt8} :
      c ≠ wildcard → c ≠ separatorMark → input[a]? = some c → Takes input pattern (a + 1) b →
      Takes input (c :: pattern) a b

/-! ## Stretches -/

theorem Takes.le {pattern : List UInt8} {a b : Nat} (h : Takes input pattern a b) :
    a ≤ b ∧ b ≤ input.length := by
  induction h with
  | done ha => exact ⟨Nat.le_refl _, ha⟩
  | run ham _ ih => exact ⟨ham.trans ih.1, ih.2⟩
  | separator _ _ _ ih => exact ⟨Nat.le_of_succ_le ih.1, ih.2⟩
  | finish _ ih => exact ih
  | byte _ _ _ _ ih => exact ⟨Nat.le_of_succ_le ih.1, ih.2⟩

/-- One pattern after another takes one stretch after another. -/
theorem takes_append_iff {front back : List UInt8} {a b : Nat} :
    Takes input (front ++ back) a b ↔ ∃ m, Takes input front a m ∧ Takes input back m b := by
  constructor
  · intro h
    induction front generalizing a with
    | nil => exact ⟨a, .done (h.le.1.trans h.le.2), h⟩
    | cons p front ih =>
      cases h with
      | run ham h =>
        obtain ⟨m, hfront, hback⟩ := ih h
        exact ⟨m, .run ham hfront, hback⟩
      | separator ha hc h =>
        obtain ⟨m, hfront, hback⟩ := ih h
        exact ⟨m, .separator ha hc hfront, hback⟩
      | finish h =>
        obtain ⟨m, hfront, hback⟩ := ih h
        exact ⟨m, .finish hfront, hback⟩
      | byte hstar hmark ha h =>
        obtain ⟨m, hfront, hback⟩ := ih h
        exact ⟨m, .byte hstar hmark ha hfront, hback⟩
  · rintro ⟨m, hfront, hback⟩
    induction hfront with
    | done _ => exact hback
    | run ham _ ih => exact .run ham (ih hback)
    | separator ha hc _ ih => exact .separator ha hc (ih hback)
    | finish _ ih => exact .finish (ih hback)
    | byte hstar hmark ha _ ih => exact .byte hstar hmark ha (ih hback)

/-- What stands before a `*` and what stands after it take stretches with any run between. -/
theorem takes_append_wildcard_iff {front back : List UInt8} {a b : Nat} :
    Takes input (front ++ wildcard :: back) a b ↔
      ∃ m n, m ≤ n ∧ Takes input front a m ∧ Takes input back n b := by
  rw [takes_append_iff]
  constructor
  · rintro ⟨m, hfront, hback⟩
    cases hback with
    | run hmn hback => exact ⟨m, _, hmn, hfront, hback⟩
    | byte hstar => exact absurd rfl hstar
  · rintro ⟨m, n, hmn, hfront, hback⟩
    exact ⟨m, hfront, .run hmn hback⟩

/-- A `^` takes a separator, or nothing at the end. -/
theorem takes_separatorMark_iff {pattern : List UInt8} {a b : Nat} :
    Takes input (separatorMark :: pattern) a b ↔
      (∃ c, input[a]? = some c ∧ Url.isSeparator c ∧ Takes input pattern (a + 1) b)
        ∨ (a = input.length ∧ Takes input pattern a b) := by
  constructor
  · intro h
    cases h with
    | separator ha hc h => exact .inl ⟨_, ha, hc, h⟩
    | finish h => exact .inr ⟨rfl, h⟩
    | byte _ hmark => exact absurd rfl hmark
  · rintro (⟨c, ha, hc, h⟩ | ⟨rfl, h⟩)
    · exact .separator ha hc h
    · exact .finish h

/-- Every byte but `*` and `^` takes itself. -/
theorem takes_byte_iff {pattern : List UInt8} {p : UInt8} {a b : Nat} (hstar : p ≠ wildcard)
    (hmark : p ≠ separatorMark) :
    Takes input (p :: pattern) a b ↔ input[a]? = some p ∧ Takes input pattern (a + 1) b := by
  constructor
  · intro h
    cases h with
    | run => exact absurd rfl hstar
    | separator => exact absurd rfl hmark
    | finish => exact absurd rfl hmark
    | byte _ _ ha h => exact ⟨ha, h⟩
  · rintro ⟨ha, h⟩
    exact .byte hstar hmark ha h

/-! ## Segments -/

/-- **A segment takes one stretch at most from a position on**: what is left of the text after it
begins where the stretch ends. -/
theorem afterSegment?_drop_iff (hsegment : wildcard ∉ segment) {a b : Nat} (ha : a ≤ input.length)
    (hb : b ≤ input.length) :
    afterSegment? segment (input.drop a) = some (input.drop b) ↔ Takes input segment a b := by
  induction segment generalizing a with
  | nil =>
    rw [afterSegment?, Option.some.injEq, List.drop_eq_drop_iff, Nat.min_eq_left ha,
      Nat.min_eq_left hb]
    constructor
    · rintro rfl
      exact .done ha
    · rintro ⟨⟩
      rfl
  | cons p segment ih =>
    obtain ⟨hp, hsegment⟩ := not_or.mp (mt List.mem_cons.mpr hsegment)
    cases hdrop : input.drop a with
    | nil =>
      obtain rfl : a = input.length := Nat.le_antisymm ha (List.drop_eq_nil_iff.mp hdrop)
      have hfinish := ih hsegment (Nat.le_refl _)
      rw [hdrop] at hfinish
      by_cases hmark : p = separatorMark
      · rw [hmark, takes_separatorMark_iff, afterSegment?, if_pos (beq_self_eq_true _), hfinish]
        simp
      · rw [takes_byte_iff (Ne.symm hp) hmark, afterSegment?, if_neg (by simpa using hmark)]
        simp
    | cons c text =>
      obtain ⟨hc, rfl⟩ := getElem?_of_drop_eq_cons hdrop
      have hlt : a < input.length := (List.getElem?_eq_some_iff.mp hc).1
      have hlater := ih hsegment (Nat.succ_le_of_lt hlt)
      by_cases hmark : p = separatorMark
      · rw [hmark, takes_separatorMark_iff, afterSegment?, if_pos (beq_self_eq_true _)]
        simp [hc, hlt.ne, hlater]
      · rw [takes_byte_iff (Ne.symm hp) hmark, afterSegment?, if_neg (by simpa using hmark)]
        simp [hc, hlater, @eq_comm _ p c]

/-- What is left after a segment begins within the text. -/
theorem exists_of_afterSegment?_drop {a : Nat} (ha : a ≤ input.length)
    (h : afterSegment? segment (input.drop a) = some rest) :
    ∃ b, b ≤ input.length ∧ rest = input.drop b := by
  obtain ⟨taken, htaken⟩ := exists_eq_append_of_afterSegment? h
  obtain ⟨b, -, hb, rfl⟩ := (suffix_drop_iff ha).mp ⟨taken, htaken.symm⟩
  exact ⟨b, hb, rfl⟩

theorem length_of_afterSegment? (h : afterSegment? segment text = some rest) :
    rest.length = text.length - segment.length := by
  induction segment generalizing text with
  | nil =>
    obtain rfl : text = rest := by simpa [afterSegment?] using h
    rfl
  | cons p segment ih =>
    cases text with
    | nil =>
      simp only [afterSegment?] at h
      split at h
      · simpa using ih h
      · cases h
    | cons c text =>
      have hlater : afterSegment? segment text = some rest := by
        simp only [afterSegment?] at h
        split at h <;> split at h <;> simp_all
      rw [ih hlater, List.length_cons, List.length_cons, Nat.add_sub_add_right]

/-- **A segment that begins earlier leaves more of the text.** -/
theorem suffix_of_afterSegment? {later rest' : List UInt8} (hsuffix : later <:+ text)
    (h : afterSegment? segment text = some rest)
    (hlater : afterSegment? segment later = some rest') : rest' <:+ rest := by
  obtain ⟨taken, rfl⟩ := exists_eq_append_of_afterSegment? h
  obtain ⟨taken', rfl⟩ := exists_eq_append_of_afterSegment? hlater
  have hrest' : rest' <:+ taken ++ rest := (List.suffix_append _ _).trans hsuffix
  refine List.suffix_of_suffix_length_le hrest' (List.suffix_append _ _) ?_
  rw [length_of_afterSegment? h, length_of_afterSegment? hlater]
  exact Nat.sub_le_sub_right hsuffix.length_le _

/-! ## First places -/

/-- Where a segment matches at all, its first place leaves the most. -/
theorem exists_suffix_of_afterFirst? {later rest' : List UInt8} (hsuffix : later <:+ text)
    (hlater : afterSegment? segment later = some rest') :
    ∃ rest, afterFirst? segment text = some rest ∧ rest' <:+ rest := by
  induction text with
  | nil =>
    obtain rfl := List.suffix_nil.mp hsuffix
    exact ⟨rest', hlater, List.suffix_refl _⟩
  | cons c text ih =>
    rw [afterFirst?]
    cases hhere : afterSegment? segment (c :: text) with
    | some rest => exact ⟨rest, rfl, suffix_of_afterSegment? hsuffix hhere hlater⟩
    | none =>
      rcases List.suffix_cons_iff.mp hsuffix with rfl | hsuffix
      · cases hhere.symm.trans hlater
      · exact ih hsuffix

theorem reachesEnd_iff : reachesEnd segment text ↔
    ∃ later, later <:+ text ∧ afterSegment? segment later = some [] := by
  constructor
  · intro h
    obtain ⟨front, later, rfl, hlater⟩ := exists_of_reachesEnd h
    exact ⟨later, List.suffix_append _ _, hlater⟩
  · rintro ⟨later, hsuffix, hlater⟩
    induction text with
    | nil =>
      obtain rfl := List.suffix_nil.mp hsuffix
      simpa [reachesEnd] using hlater
    | cons c text ih =>
      rw [reachesEnd, Bool.or_eq_true, beq_iff_eq]
      rcases List.suffix_cons_iff.mp hsuffix with rfl | hsuffix
      · exact .inl hlater
      · exact .inr (ih hsuffix)

/-- The first place of a segment from a position on. -/
theorem exists_takes_of_afterFirst? (hsegment : wildcard ∉ segment) {start : Nat}
    (hstart : start ≤ input.length) (h : afterFirst? segment (input.drop start) = some rest) :
    ∃ a m, start ≤ a ∧ m ≤ input.length ∧ rest = input.drop m ∧ Takes input segment a m := by
  obtain ⟨front, text, hdrop, htext⟩ := exists_of_afterFirst? h
  obtain ⟨a, ha, hle, rfl⟩ := (suffix_drop_iff hstart).mp ⟨front, hdrop.symm⟩
  obtain ⟨m, hm, rfl⟩ := exists_of_afterSegment?_drop hle htext
  exact ⟨a, m, ha, hm, rfl, (afterSegment?_drop_iff hsegment hle hm).mp htext⟩

/-- A stretch that a segment takes ends no sooner than the one that it takes first. -/
theorem exists_afterFirst?_of_takes (hsegment : wildcard ∉ segment) {start a b : Nat}
    (ha : start ≤ a) (h : Takes input segment a b) :
    ∃ m, m ≤ b ∧ afterFirst? segment (input.drop start) = some (input.drop m) := by
  obtain ⟨hab, hb⟩ := h.le
  have hhere := (afterSegment?_drop_iff hsegment (hab.trans hb) hb).mpr h
  obtain ⟨rest, hrest, hsuffix⟩ :=
    exists_suffix_of_afterFirst? (List.drop_suffix_drop_left input ha) hhere
  obtain ⟨-, m, -, hm, rfl, -⟩ :=
    exists_takes_of_afterFirst? hsegment (ha.trans (hab.trans hb)) hrest
  have hlength := hsuffix.length_le
  rw [List.length_drop, List.length_drop] at hlength
  exact ⟨m, by omega, hrest⟩

/-! ## Patterns -/

/-- The last segment finds a place, at the end where that is anchored. -/
theorem place_singleton_iff (hsegment : wildcard ∉ segment) {start : Nat}
    (hstart : start ≤ input.length) :
    place right [segment] (input.drop start) ↔
      ∃ a b, start ≤ a ∧ (right → b = input.length) ∧ Takes input segment a b := by
  cases right with
  | true =>
    have hlast : (true && ([] : List (List UInt8)).isEmpty) = true := rfl
    rw [place, if_pos hlast, reachesEnd_iff]
    constructor
    · rintro ⟨later, hsuffix, hlater⟩
      obtain ⟨a, ha, hle, rfl⟩ := (suffix_drop_iff hstart).mp hsuffix
      rw [← List.drop_length (l := input), afterSegment?_drop_iff hsegment hle (Nat.le_refl _)]
        at hlater
      exact ⟨a, input.length, ha, fun _ => rfl, hlater⟩
    · rintro ⟨a, b, ha, hright, h⟩
      obtain rfl := hright rfl
      refine ⟨input.drop a, List.drop_suffix_drop_left input ha, ?_⟩
      rw [← List.drop_length (l := input)]
      exact (afterSegment?_drop_iff hsegment (h.le.1) (Nat.le_refl _)).mpr h
  | false =>
    rw [place, if_neg (by simp)]
    constructor
    · intro h
      split at h
      · cases h
      · next rest hfirst =>
        obtain ⟨a, m, ha, -, -, htakes⟩ := exists_takes_of_afterFirst? hsegment hstart hfirst
        exact ⟨a, m, ha, fun h => absurd h Bool.false_ne_true, htakes⟩
    · rintro ⟨a, b, ha, -, h⟩
      obtain ⟨m, -, hfirst⟩ := exists_afterFirst?_of_takes hsegment ha h
      rw [hfirst]
      rfl

/-- **The segments of a pattern find their places** from a position on exactly where the pattern
takes some stretch from there on. -/
theorem place_splitOn_iff (pattern : List UInt8) {start : Nat} (hstart : start ≤ input.length) :
    place right (pattern.splitOn wildcard) (input.drop start) ↔
      ∃ a b, start ≤ a ∧ (right → b = input.length) ∧ Takes input pattern a b := by
  induction pattern using Text.pieces_induction wildcard generalizing start with
  | single segment hsegment =>
    rw [List.splitOn_eq_singleton hsegment]
    exact place_singleton_iff hsegment hstart
  | more first back hfirst ih =>
    have hmore : ¬ (right && (back.splitOn wildcard).isEmpty) := by simp
    rw [List.splitOn_append_cons_self_of_not_mem hfirst, place, if_neg hmore]
    simp only [takes_append_wildcard_iff]
    constructor
    · intro h
      split at h
      · cases h
      · next rest hplaced =>
        obtain ⟨a, m, ha, hm, rfl, htakes⟩ := exists_takes_of_afterFirst? hfirst hstart hplaced
        obtain ⟨n, b, hmn, hright, hback⟩ := (ih hm).mp h
        exact ⟨a, b, ha, hright, m, n, hmn, htakes, hback⟩
    -- the first place of the segment leaves room for all that any other place leaves room for
    · rintro ⟨a, b, ha, hright, m, n, hmn, htakes, hback⟩
      obtain ⟨m', hm', hplaced⟩ := exists_afterFirst?_of_takes hfirst ha htakes
      have hle : m' ≤ input.length := (hm'.trans hmn).trans (hback.le.1.trans hback.le.2)
      rw [hplaced]
      exact (ih hle).mpr ⟨n, b, hm'.trans hmn, hright, hback⟩

theorem place_nil_drop_iff {b : Nat} (hb : b ≤ input.length) :
    place right [] (input.drop b) ↔ (right → b = input.length) := by
  have hend : (input.drop b).isEmpty ↔ b = input.length := by
    rw [List.isEmpty_iff, List.drop_eq_nil_iff]
    exact ⟨hb.antisymm, ge_of_eq⟩
  rw [place, Bool.or_eq_true, hend]
  cases right <;> simp

/-- Anchored at its beginning, a pattern has its first segment there. -/
theorem isMatch_true_iff (pattern : List UInt8) : isMatch true right pattern input ↔
    ∃ b, (right → b = input.length) ∧ Takes input pattern 0 b := by
  have hzero : 0 ≤ input.length := Nat.zero_le _
  conv_lhs => rw [← List.drop_zero (l := input)]
  cases pattern using Text.pieces_induction wildcard with
  | single segment hsegment =>
    simp only [isMatch, List.splitOn_eq_singleton hsegment, if_true]
    constructor
    · intro h
      split at h
      · cases h
      · next rest hplaced =>
        obtain ⟨b, hb, rfl⟩ := exists_of_afterSegment?_drop hzero hplaced
        exact ⟨b, (place_nil_drop_iff hb).mp h,
          (afterSegment?_drop_iff hsegment hzero hb).mp hplaced⟩
    · rintro ⟨b, hright, htakes⟩
      rw [(afterSegment?_drop_iff hsegment hzero htakes.le.2).mpr htakes]
      exact (place_nil_drop_iff htakes.le.2).mpr hright
  | more first back hfirst =>
    simp only [isMatch, List.splitOn_append_cons_self_of_not_mem hfirst, if_true,
      takes_append_wildcard_iff]
    constructor
    · intro h
      split at h
      · cases h
      · next rest hplaced =>
        obtain ⟨m, hm, rfl⟩ := exists_of_afterSegment?_drop hzero hplaced
        obtain ⟨n, b, hmn, hright, hback⟩ := (place_splitOn_iff back hm).mp h
        exact ⟨b, hright, m, n, hmn, (afterSegment?_drop_iff hfirst hzero hm).mp hplaced, hback⟩
    · rintro ⟨b, hright, m, n, hmn, htakes, hback⟩
      rw [(afterSegment?_drop_iff hfirst hzero htakes.le.2).mpr htakes]
      exact (place_splitOn_iff back htakes.le.2).mpr ⟨n, b, hmn, hright, hback⟩

/-- **A pattern matches exactly where it takes a stretch of the text** that begins and ends as the
anchors demand. -/
theorem isMatch_iff_takes (left right : Bool) (pattern input : List UInt8) :
    isMatch left right pattern input ↔
      ∃ a b, a ≤ b ∧ b ≤ input.length ∧ (left → a = 0) ∧ (right → b = input.length)
        ∧ Takes input pattern a b := by
  cases left with
  | true =>
    rw [isMatch_true_iff]
    constructor
    · rintro ⟨b, hright, htakes⟩
      exact ⟨0, b, htakes.le.1, htakes.le.2, fun _ => rfl, hright, htakes⟩
    · rintro ⟨a, b, -, -, hleft, hright, htakes⟩
      obtain rfl := hleft rfl
      exact ⟨b, hright, htakes⟩
  | false =>
    have hplace := @place_splitOn_iff input right pattern 0 (Nat.zero_le _)
    rw [List.drop_zero] at hplace
    rw [isMatch, if_neg Bool.false_ne_true, hplace]
    constructor
    · rintro ⟨a, b, -, hright, htakes⟩
      exact ⟨a, b, htakes.le.1, htakes.le.2, fun h => absurd h Bool.false_ne_true, hright, htakes⟩
    · rintro ⟨a, b, -, -, -, hright, htakes⟩
      exact ⟨a, b, Nat.zero_le a, hright, htakes⟩

end Glob

end Blocklist
