import Mathlib.Data.List.DropRight
import Blocklist.Text.Cut
/-!
# Text — cutting a text that goes on

What the cuts give for a text with something more at its end: an opening and
a last separator are found where they were, and only the last of the pieces
and words gets longer. What comes off the beginning does so up to the first
letter of another kind. And what they give has no letters but those of the text.
-/

namespace Blocklist

namespace Text

/-! ## Beginnings -/

section Beginnings

variable {α : Type} {p : α → Bool}

/-- The beginning comes off up to a letter that does not satisfy `p`. -/
theorem head?_dropWhile (p : α → Bool) (text : List α) :
    ∀ c ∈ (text.dropWhile p).head?, p c = false := by
  intro c hc
  have hstop := List.head?_dropWhile_not p text
  rw [Option.mem_def.mp hc] at hstop
  exact hstop

/-- Letters that satisfy `p`, up to one that does not, are what comes off the beginning. -/
theorem takeWhile_append_of_stop {body back : List α} (hbody : ∀ c ∈ body, p c)
    (hstop : ∀ c ∈ back.head?, p c = false) :
    (body ++ back).takeWhile p = body ∧ (body ++ back).dropWhile p = back := by
  rw [List.takeWhile_append_of_pos hbody, List.dropWhile_append_of_pos hbody]
  cases back with
  | nil => exact ⟨List.append_nil body, rfl⟩
  | cons d back =>
    have hd : p d = false := hstop d rfl
    exact ⟨by simp [hd], by simp [hd]⟩

end Beginnings

/-! ## Openings and separators -/

section Cuts

variable {α : Type} [BEq α] [LawfulBEq α] {sep c : α} {opening text rest front back : List α}

theorem dropOpening?_eq_some_iff : dropOpening? opening text = some rest ↔ text = opening ++ rest :=
  ⟨eq_append_of_dropOpening?, fun h => h ▸ dropOpening?_append opening rest⟩

theorem dropOpening?_eq_none_iff : dropOpening? opening text = none ↔ ¬ opening <+: text := by
  rw [Option.eq_none_iff_forall_ne_some]
  constructor
  · rintro h ⟨rest, hrest⟩
    exact h rest (dropOpening?_eq_some_iff.mpr hrest.symm)
  · exact fun h rest hrest => h ⟨rest, (eq_append_of_dropOpening? hrest).symm⟩

theorem dropClosing?_eq_some_iff {closing : List α} :
    dropClosing? closing text = some front ↔ text = front ++ closing := by
  constructor
  · intro h
    obtain ⟨back, hback, rfl⟩ := Option.map_eq_some_iff.mp h
    have := congrArg List.reverse (eq_append_of_dropOpening? hback)
    simpa using this
  · rintro rfl
    rw [dropClosing?, List.reverse_append, dropOpening?_append, Option.map_some,
      List.reverse_reverse]

theorem dropOpening?_append_right (h : dropOpening? opening text = some rest) (back : List α) :
    dropOpening? opening (text ++ back) = some (rest ++ back) := by
  rw [eq_append_of_dropOpening? h, List.append_assoc, dropOpening?_append]

/-- A text does not come to begin with an opening by what follows, unless that is a part of it. -/
theorem dropOpening?_append_eq_none (h : dropOpening? opening text = none) (hc : c ∉ opening)
    (back : List α) : dropOpening? opening (text ++ c :: back) = none := by
  induction opening generalizing text with
  | nil => simp [dropOpening?] at h
  | cons o opening ih =>
    obtain ⟨hne, hc⟩ := not_or.mp (mt List.mem_cons.mpr hc)
    cases text with
    | nil =>
      rw [List.nil_append, dropOpening?, if_neg]
      exact fun h => hne (eq_of_beq h).symm
    | cons t text =>
      rw [dropOpening?] at h
      rw [List.cons_append, dropOpening?]
      split
      · next hot =>
        rw [if_pos hot] at h
        exact ih h hc
      · rfl

theorem cut?_append_of_not_mem (h : sep ∉ front) (text : List α) :
    cut? sep (front ++ text) = (cut? sep text).map fun parts => (front ++ parts.1, parts.2) := by
  induction front with
  | nil => simp
  | cons t front ih =>
    obtain ⟨hne, hfront⟩ := not_or.mp (mt List.mem_cons.mpr h)
    rw [List.cons_append, cut?, if_neg fun h => hne (eq_of_beq h).symm, ih hfront, Option.map_map]
    rfl

/-- A text is cut at its first separator. -/
theorem cut?_append_cons (h : sep ∉ front) (back : List α) :
    cut? sep (front ++ sep :: back) = some (front, back) := by
  rw [cut?_append_of_not_mem h, cut?, if_pos (beq_self_eq_true sep)]
  simp

theorem cutLast?_append_of_not_mem (h : sep ∉ back) (text : List α) :
    cutLast? sep (text ++ back)
      = (cutLast? sep text).map fun parts => (parts.1, parts.2 ++ back) := by
  have hback : sep ∉ back.reverse := mt List.mem_reverse.mp h
  rw [cutLast?, cutLast?, List.reverse_append, cut?_append_of_not_mem hback, Option.map_map,
    Option.map_map]
  refine congrArg (Option.map · (cut? sep text.reverse)) (funext fun parts => ?_)
  simp

theorem cutLast?_append_cons (h : sep ∉ back) (text : List α) :
    cutLast? sep (text ++ sep :: back) = some (text, back) := by
  have hback : sep ∉ back.reverse := mt List.mem_reverse.mp h
  rw [cutLast?, List.reverse_append, List.reverse_cons, List.append_assoc,
    cut?_append_of_not_mem hback]
  simp [cut?]

/-- Nothing is cut where there is no separator. -/
theorem cut?_eq_none_iff : cut? sep text = none ↔ sep ∉ text := by
  constructor
  · intro h hmem
    obtain ⟨front, back, rfl, hfront⟩ := List.eq_append_cons_of_mem hmem
    rw [cut?_append_cons hfront] at h
    cases h
  · intro h
    rw [← List.append_nil text, cut?_append_of_not_mem h]
    rfl

theorem cutLast?_eq_none_iff : cutLast? sep text = none ↔ sep ∉ text := by
  rw [cutLast?, Option.map_eq_none_iff, cut?_eq_none_iff, List.mem_reverse]

/-- Letters may be changed before or after the cut, where no change makes or takes away a
separator. -/
theorem cut?_map {f : α → α} (hf : ∀ t, f t = sep ↔ t = sep) (text : List α) :
    cut? sep (text.map f) = (cut? sep text).map fun parts => (parts.1.map f, parts.2.map f) := by
  induction text with
  | nil => rfl
  | cons t text ih =>
    have hsep : (f t == sep) = (t == sep) := by rw [Bool.eq_iff_iff, beq_iff_eq, beq_iff_eq, hf]
    rw [List.map_cons, cut?, cut?, hsep, ih]
    cases t == sep with
    | true => rfl
    | false =>
      rw [if_neg Bool.false_ne_true, if_neg Bool.false_ne_true, Option.map_map, Option.map_map]
      rfl

theorem cutLast?_map {f : α → α} (hf : ∀ t, f t = sep ↔ t = sep) (text : List α) :
    cutLast? sep (text.map f)
      = (cutLast? sep text).map fun parts => (parts.1.map f, parts.2.map f) := by
  rw [cutLast?, ← List.map_reverse, cut?_map hf, cutLast?, Option.map_map, Option.map_map]
  refine congrArg (Option.map · (cut? sep text.reverse)) (funext fun parts => ?_)
  simp

theorem dropOpening?_map {f : α → α} (hf : ∀ o ∈ opening, ∀ t, f t = o ↔ t = o)
    (text : List α) :
    dropOpening? opening (text.map f) = (dropOpening? opening text).map (List.map f) := by
  induction opening generalizing text with
  | nil => rfl
  | cons o opening ih =>
    cases text with
    | nil => rfl
    | cons t text =>
      have ho : (o == f t) = (o == t) := by
        rw [Bool.eq_iff_iff, beq_iff_eq, beq_iff_eq, eq_comm, hf o List.mem_cons_self, eq_comm]
      rw [List.map_cons, dropOpening?, dropOpening?, ho]
      split
      · exact ih (fun o ho => hf o (List.mem_cons_of_mem _ ho)) text
      · rfl

end Cuts

/-! ## Pieces -/

section Pieces

variable {α : Type} [DecidableEq α] {text piece : List α}

/-- **Induction on the pieces of a text**: it is one piece, or a piece and a separator stand before
another text. -/
theorem pieces_induction (sep : α) {motive : List α → Prop}
    (single : ∀ piece, sep ∉ piece → motive piece)
    (more : ∀ piece rest, sep ∉ piece → motive rest → motive (piece ++ sep :: rest))
    (text : List α) : motive text := by
  by_cases hsep : sep ∈ text
  · obtain ⟨piece, rest, htext, hpiece⟩ := List.eq_append_cons_of_mem hsep
    rw [htext]
    exact more piece rest hpiece (pieces_induction sep single more rest)
  · exact single text hsep
termination_by text.length
decreasing_by
  rw [htext, List.length_append, List.length_cons]
  omega

/-- There is one piece more than there are separators. -/
theorem length_splitOn (sep : α) (text : List α) :
    (text.splitOn sep).length = text.count sep + 1 := by
  induction text using pieces_induction sep with
  | single piece hpiece =>
    rw [List.splitOn_eq_singleton hpiece, List.count_eq_zero_of_not_mem hpiece]
    rfl
  | more piece rest hpiece ih =>
    rw [List.splitOn_append_cons_self_of_not_mem hpiece, List.length_cons, ih, List.count_append,
      List.count_eq_zero_of_not_mem hpiece, List.count_cons_self, Nat.zero_add]

end Pieces

/-! ## Letters -/

section Letters

variable {α : Type}

theorem trimBy_subset (p : α → Bool) (text : List α) : trimBy p text ⊆ text := by
  intro c hc
  have hback := List.dropWhile_subset p (List.mem_reverse.mp hc)
  exact List.dropWhile_subset p (List.mem_reverse.mp hback)

variable [DecidableEq α] {sep : α} {opening text rest piece front back : List α}

theorem subset_of_dropOpening? (h : dropOpening? opening text = some rest) : rest ⊆ text := by
  rw [eq_append_of_dropOpening? h]
  exact List.subset_append_right _ _

theorem subset_of_dropClosing? {closing : List α} (h : dropClosing? closing text = some rest) :
    rest ⊆ text := by
  rw [dropClosing?_eq_some_iff.mp h]
  exact List.subset_append_left _ _

theorem back_subset_of_cut? (h : cut? sep text = some (front, back)) : back ⊆ text := by
  rw [(eq_append_of_cut? h).1]
  exact List.subset_append_of_subset_right _ (List.subset_cons_self _ _)

theorem front_subset_of_cut? (h : cut? sep text = some (front, back)) : front ⊆ text := by
  rw [(eq_append_of_cut? h).1]
  exact List.subset_append_left _ _

/-- Nothing but one separator goes, and none is left behind it. -/
theorem eq_append_of_cutLast? (h : cutLast? sep text = some (front, back)) :
    text = front ++ sep :: back ∧ sep ∉ back := by
  obtain ⟨⟨behind, before⟩, hcut, hparts⟩ := Option.map_eq_some_iff.mp h
  cases hparts
  obtain ⟨htext, hbehind⟩ := eq_append_of_cut? hcut
  rw [List.reverse_eq_iff] at htext
  exact ⟨by simp [htext], mt List.mem_reverse.mp hbehind⟩

theorem subset_of_cutLast? (h : cutLast? sep text = some (front, back)) : back ⊆ text := by
  obtain ⟨⟨behind, before⟩, hcut, hparts⟩ := Option.map_eq_some_iff.mp h
  cases hparts
  intro c hc
  exact List.mem_reverse.mp (front_subset_of_cut? hcut (List.mem_reverse.mp hc))

omit [DecidableEq α] in
theorem subset_of_mem_splitOnP {p : α → Bool} (h : piece ∈ text.splitOnP p) : piece ⊆ text := by
  induction text generalizing piece with
  | nil => simp_all
  | cons c text ih =>
    rw [List.splitOnP_cons_eq_if_modifyHead] at h
    split at h
    · rcases List.mem_cons.mp h with rfl | h
      · exact List.nil_subset _
      · exact List.subset_cons_of_subset c (ih h)
    · cases hpieces : text.splitOnP p with
      | nil => simp [hpieces] at h
      | cons first others =>
        rw [hpieces] at h ih
        rcases List.mem_cons.mp h with rfl | h
        · exact List.cons_subset_cons c (ih List.mem_cons_self)
        · exact List.subset_cons_of_subset c (ih (List.mem_cons_of_mem _ h))

theorem subset_of_mem_splitOn (h : piece ∈ text.splitOn sep) : piece ⊆ text :=
  subset_of_mem_splitOnP h

theorem not_mem_of_mem_splitOn (h : piece ∈ text.splitOn sep) : sep ∉ piece := by
  induction text using pieces_induction sep with
  | single only honly =>
    rw [List.splitOn_eq_singleton honly, List.mem_singleton] at h
    rwa [h]
  | more first others hfirst ih =>
    rw [List.splitOn_append_cons_self_of_not_mem hfirst, List.mem_cons] at h
    exact h.elim (fun h => h ▸ hfirst) ih

@[simp] theorem contains_iff : contains piece text ↔ piece <:+: text := by
  induction text with
  | nil => simp [contains]
  | cons t text ih =>
    rw [contains, Bool.or_eq_true, ih, List.isPrefixOf_iff_prefix, List.infix_cons_iff]

end Letters

theorem isAscii_iff {text : List Char} : isAscii text ↔ ∀ c ∈ text, c.toNat < 128 :=
  List.all_eq_true.trans (forall₂_congr fun _ _ => decide_eq_true_iff)

theorem isAscii_of_subset {piece text : List Char} (hpiece : piece ⊆ text) (h : isAscii text) :
    isAscii piece :=
  isAscii_iff.mpr fun c hc => isAscii_iff.mp h c (hpiece hc)

/-! ## Words -/

variable {text lead word : List Char}

theorem subset_of_mem_words (h : word ∈ words text) : word ⊆ text :=
  subset_of_mem_splitOnP (List.mem_filter.mp h).1

/-- A word at the end, with a blank before it if anything. -/
theorem words_append_word (hlead : ∀ c ∈ lead.getLast?, isBlank c) (hne : word ≠ [])
    (hword : ∀ c ∈ word, isBlank c = false) : words (lead ++ word) = words lead ++ [word] := by
  have hpiece : word.splitOnP isBlank = [word] := List.splitOnP_eq_singleton hword
  have hkept : ([word].filter fun piece => !piece.isEmpty) = [word] := by simp [hne]
  rcases List.eq_nil_or_concat lead with rfl | ⟨lead, c, hconcat⟩
  · rw [List.nil_append, words, hpiece, hkept]
    rfl
  · rw [List.concat_eq_append] at hconcat
    subst hconcat
    have hblank : isBlank c := hlead c (by simp)
    rw [List.append_assoc, List.singleton_append, words, words,
      List.splitOnP_append_cons lead word hblank, List.splitOnP_append_cons lead [] hblank, hpiece,
      List.filter_append, List.filter_append, hkept]
    simp

/-- A word at the beginning gets longer by what follows without a blank. -/
theorem exists_words_word_append (hne : word ≠ []) (hword : ∀ c ∈ word, isBlank c = false)
    (back : List Char) : ∃ last rest, words (word ++ back) = (word ++ last) :: rest := by
  have hlonger : ∀ last : List Char, (∀ c ∈ last, isBlank c = false) →
      (word ++ last).splitOnP isBlank = [word ++ last] := fun last hlast =>
    List.splitOnP_eq_singleton fun c hc => (List.mem_append.mp hc).elim (hword c) (hlast c)
  have hkept : ∀ last, ([word ++ last].filter fun piece => !piece.isEmpty) = [word ++ last] := by
    simp [hne]
  have hlast : ∀ c ∈ back.takeWhile (!isBlank ·), isBlank c = false := fun c hc => by
    simpa using List.mem_takeWhile_imp hc
  have hhead := List.head?_dropWhile_not (!isBlank ·) back
  have hback := List.takeWhile_append_dropWhile (p := (!isBlank ·)) (l := back)
  generalize back.takeWhile (!isBlank ·) = last at hlast hback
  generalize back.dropWhile (!isBlank ·) = rest at hhead hback
  subst hback
  rw [← List.append_assoc]
  cases rest with
  | nil => exact ⟨last, [], by rw [List.append_nil, words, hlonger last hlast, hkept]⟩
  | cons b rest =>
    have hb : isBlank b := by simpa using hhead
    refine ⟨last, words rest, ?_⟩
    rw [words, List.splitOnP_append_cons _ rest hb, List.filter_append, hlonger last hlast, hkept]
    rfl

/-- A text that does not end with a blank ends with a word. -/
theorem exists_last_word (hne : text ≠ []) (hend : ∀ c ∈ text.getLast?, isBlank c = false) :
    ∃ lead word, text = lead ++ word ∧ (∀ c ∈ lead.getLast?, isBlank c) ∧ word ≠ []
      ∧ ∀ c ∈ word, isBlank c = false := by
  refine ⟨text.rdropWhile (!isBlank ·), text.rtakeWhile (!isBlank ·),
    List.rdropWhile_append_rtakeWhile.symm, fun c hc => ?_, fun hword => ?_, fun c hc => ?_⟩
  · obtain ⟨hlead, rfl⟩ := List.mem_getLast?_eq_getLast hc
    simpa using List.rdropWhile_last_not _ text hlead
  · have hlast := List.rtakeWhile_eq_nil_iff.mp hword hne
    rw [hend _ (List.getLast_mem_getLast? hne)] at hlast
    exact hlast rfl
  · simpa using List.mem_rtakeWhile_imp hc

/-- **Only the last word gets longer** by what follows without a blank. -/
theorem exists_words_append (hne : text ≠ []) (hend : ∀ c ∈ text.getLast?, isBlank c = false) :
    ∃ front last, words text = front ++ [last] ∧
      ∀ back : List Char, (∀ c ∈ back, isBlank c = false) →
        words (text ++ back) = front ++ [last ++ back] := by
  obtain ⟨lead, word, rfl, hlead, hword, hfree⟩ := exists_last_word hne hend
  refine ⟨words lead, word, words_append_word hlead hword hfree, fun back hback => ?_⟩
  rw [List.append_assoc]
  refine words_append_word hlead (by simp [hword]) fun c hc => ?_
  exact (List.mem_append.mp hc).elim (hfree c) (hback c)

/-- A trimmed text does not end with a blank. -/
theorem isBlank_getLast?_of_trim (h : trim text = text) :
    ∀ c ∈ text.getLast?, isBlank c = false := by
  intro c hc
  rw [← h, trim, trimBy, List.getLast?_reverse] at hc
  have hhead := List.head?_dropWhile_not isBlank (text.dropWhile isBlank).reverse
  rw [Option.mem_def.mp hc] at hhead
  exact hhead

end Text

end Blocklist
