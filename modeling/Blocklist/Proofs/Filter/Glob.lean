import Blocklist.Filter.Glob
import Blocklist.Proofs.Token.Run
/-!
# Filters — where a wildcard pattern finds its words

A pattern that matches puts each of its segments somewhere
(`exists_of_isMatch`). A word that touches neither a wildcard nor an open end
of the pattern stands in one segment, and so it stands in the text, with the
same ends (`exists_word_of_isMatch`).
-/

namespace Blocklist

namespace Glob

variable {segment text rest input : List UInt8}

/-! ## Segments -/

theorem afterSegment?_append (s t text : List UInt8) :
    afterSegment? (s ++ t) text = (afterSegment? s text).bind (afterSegment? t) := by
  induction s generalizing text with
  | nil => rfl
  | cons p s ih =>
    cases text with
    | nil =>
      simp only [List.cons_append, afterSegment?]
      split
      · exact ih []
      · rfl
    | cons c text =>
      simp only [List.cons_append, afterSegment?]
      split
      · split
        · exact ih text
        · rfl
      · split
        · exact ih text
        · rfl

/-- A segment takes bytes from the beginning only. -/
theorem exists_eq_append_of_afterSegment? (h : afterSegment? segment text = some rest) :
    ∃ taken, text = taken ++ rest := by
  induction segment generalizing text with
  | nil => exact ⟨[], by simpa [afterSegment?] using h⟩
  | cons p segment ih =>
    cases text with
    | nil =>
      simp only [afterSegment?] at h
      split at h
      · exact ih h
      · simp at h
    | cons c text =>
      have hlater : afterSegment? segment text = some rest →
          ∃ taken, c :: text = taken ++ rest := by
        intro h
        obtain ⟨taken, htaken⟩ := ih h
        exact ⟨c :: taken, by rw [htaken]; rfl⟩
      simp only [afterSegment?] at h
      split at h
      · split at h
        · exact hlater h
        · simp at h
      · split at h
        · exact hlater h
        · simp at h

/-- Without `^` a segment takes itself. -/
theorem eq_append_of_afterSegment?_literal (hliteral : ∀ p ∈ segment, p ≠ separatorMark)
    (h : afterSegment? segment text = some rest) : text = segment ++ rest := by
  induction segment generalizing text with
  | nil => simpa [afterSegment?] using h
  | cons p segment ih =>
    have hp : ¬ (p == separatorMark) := by simpa using hliteral p (List.mem_cons_self ..)
    have hsegment : ∀ p ∈ segment, p ≠ separatorMark :=
      fun p hp => hliteral p (List.mem_cons_of_mem _ hp)
    cases text with
    | nil => simp [afterSegment?, hp] at h
    | cons c text =>
      rw [afterSegment?, if_neg hp] at h
      split at h
      · next hpc => rw [beq_iff_eq.mp hpc, ih hsegment h, List.cons_append]
      · simp at h

/-! ## Words in a segment -/

theorem not_isWordByte_of_isSeparator {b : UInt8} (h : Url.isSeparator b) :
    Token.isWordByte b = false := by
  simp only [Url.isSeparator, Bool.not_eq_true', Bool.or_eq_false_iff] at h
  simp only [Token.isWordByte, Bool.or_eq_false_iff]
  exact h.1.1.1.1

theorem ne_separatorMark_of_isWordByte {b : UInt8} (h : Token.isWordByte b) :
    b ≠ separatorMark := by
  rintro rfl
  exact absurd h (by decide)

theorem ne_wildcard_of_isWordByte {b : UInt8} (h : Token.isWordByte b) : b ≠ wildcard := by
  rintro rfl
  exact absurd h (by decide)

/-- What a byte that belongs to no word takes, belongs to no word either. -/
theorem not_isWordByte_of_afterSegment? {p c : UInt8} (hp : Token.isWordByte p = false)
    (h : afterSegment? (p :: segment) (c :: text) = some rest) : Token.isWordByte c = false := by
  simp only [afterSegment?] at h
  split at h
  · split at h
    · next hc => exact not_isWordByte_of_isSeparator hc
    · simp at h
  · split at h
    · next hpc => exact beq_iff_eq.mp hpc ▸ hp
    · simp at h

/-- Before a place where text is left, such a byte has taken one. -/
theorem exists_of_afterSegment?_singleton {p c : UInt8} (hp : Token.isWordByte p = false)
    (h : afterSegment? [p] text = some (c :: rest)) :
    ∃ d, text = d :: c :: rest ∧ Token.isWordByte d = false := by
  cases text with
  | nil =>
    simp only [afterSegment?] at h
    split at h <;> simp at h
  | cons d text =>
    refine ⟨d, ?_, not_isWordByte_of_afterSegment? hp h⟩
    have htext : afterSegment? [] text = some (c :: rest) := by
      simp only [afterSegment?] at h ⊢
      split at h <;> split at h <;> simp_all
    rw [Option.some.inj htext]

/-! ## Patterns -/

theorem exists_of_afterFirst? (h : afterFirst? segment input = some rest) :
    ∃ front text, input = front ++ text ∧ afterSegment? segment text = some rest := by
  induction input with
  | nil => exact ⟨[], [], rfl, h⟩
  | cons c input ih =>
    simp only [afterFirst?] at h
    split at h
    · next hhere => exact ⟨[], c :: input, rfl, by rw [hhere, h]⟩
    · obtain ⟨front, text, hinput, htext⟩ := ih h
      exact ⟨c :: front, text, by rw [hinput]; rfl, htext⟩

theorem exists_of_reachesEnd (h : reachesEnd segment input) :
    ∃ front text, input = front ++ text ∧ afterSegment? segment text = some [] := by
  induction input with
  | nil => exact ⟨[], [], rfl, by simpa [reachesEnd] using h⟩
  | cons c input ih =>
    simp only [reachesEnd, Bool.or_eq_true, beq_iff_eq] at h
    rcases h with hhere | hlater
    · exact ⟨[], c :: input, rfl, hhere⟩
    · obtain ⟨front, text, hinput, htext⟩ := ih hlater
      exact ⟨c :: front, text, by rw [hinput]; rfl, htext⟩

/-- Each of the segments finds a place; where the end is anchored, nothing is left after the
last. -/
theorem exists_of_place {anchored : Bool} {before after : List (List UInt8)}
    (h : place anchored (before ++ segment :: after) input) :
    ∃ front text rest, input = front ++ text ∧ afterSegment? segment text = some rest
      ∧ (anchored → after = [] → rest = []) := by
  induction before generalizing input with
  | nil =>
    simp only [List.nil_append, place] at h
    split at h
    · obtain ⟨front, text, hinput, htext⟩ := exists_of_reachesEnd h
      exact ⟨front, text, [], hinput, htext, fun _ _ => rfl⟩
    · next hopen =>
      split at h
      · simp at h
      · next rest hfirst =>
        obtain ⟨front, text, hinput, htext⟩ := exists_of_afterFirst? hfirst
        refine ⟨front, text, rest, hinput, htext, fun hanchored hafter => absurd ?_ hopen⟩
        simp [hanchored, hafter]
  | cons first before ih =>
    simp only [List.cons_append, place] at h
    split at h
    · next hlast => simp at hlast
    · split at h
      · simp at h
      · next left hfirst =>
        obtain ⟨front, text, hinput, htext⟩ := exists_of_afterFirst? hfirst
        obtain ⟨taken, rfl⟩ := exists_eq_append_of_afterSegment? htext
        obtain ⟨front', text', rest, rfl, htext', hrest⟩ := ih h
        exact ⟨front ++ taken ++ front', text', rest, by rw [hinput]; simp, htext', hrest⟩

/-- **A pattern that matches finds a place for each of its segments**, with the first and the last
at an end that is anchored. -/
theorem exists_of_isMatch {left right : Bool} {pattern : List UInt8}
    (h : isMatch left right pattern input) {before after : List (List UInt8)}
    (hsegments : pattern.splitOn wildcard = before ++ segment :: after) :
    ∃ front text rest, input = front ++ text ∧ afterSegment? segment text = some rest
      ∧ (left → before = [] → front = []) ∧ (right → after = [] → rest = []) := by
  simp only [isMatch, hsegments] at h
  cases left with
  | false =>
    obtain ⟨front, text, rest, hinput, htext, hrest⟩ := exists_of_place h
    exact ⟨front, text, rest, hinput, htext, fun h => absurd h (by simp), hrest⟩
  | true =>
    cases before with
    | nil =>
      simp only [if_true, List.nil_append] at h
      split at h
      · simp at h
      · next rest hsegment =>
        refine ⟨[], input, rest, rfl, hsegment, fun _ _ => rfl, ?_⟩
        rintro rfl rfl
        simpa [place] using h
    | cons first before =>
      simp only [if_true, List.cons_append] at h
      split at h
      · simp at h
      · next left hfirst =>
        obtain ⟨taken, rfl⟩ := exists_eq_append_of_afterSegment? hfirst
        obtain ⟨front, text, rest, rfl, htext, hrest⟩ := exists_of_place h
        exact ⟨taken ++ front, text, rest, by simp, htext, fun _ h => absurd h (by simp), hrest⟩

/-! ## Words in a pattern -/

/-- What stands before a word in a pattern ends segments and begins one. -/
theorem exists_splitOn_front (front : List UInt8) :
    ∃ before start, (∀ rest, (front ++ rest).splitOn wildcard
        = before ++ (start ++ rest).splitOn wildcard)
      ∧ wildcard ∉ start ∧ (front = [] → before = [])
      ∧ (front.getLast? ≠ some wildcard → start.getLast? = front.getLast?) := by
  by_cases hmem : wildcard ∈ front
  · obtain ⟨back, first, hback, hnot⟩ := List.eq_append_cons_of_mem (List.mem_reverse.mpr hmem)
    have hfront : front = first.reverse ++ wildcard :: back.reverse := by
      have := congrArg List.reverse hback
      simpa using this
    -- the last wildcard ends a segment, and what stands after it begins one
    refine ⟨first.reverse.splitOn wildcard, back.reverse, fun rest => ?_, by simpa using hnot,
      fun h => absurd (h ▸ hmem) List.not_mem_nil, fun hlast => ?_⟩
    · rw [hfront, List.append_assoc, List.cons_append, List.splitOn_append_cons_self]
    · rw [hfront, List.getLast?_append, List.getLast?_cons] at hlast ⊢
      cases hb : back.reverse.getLast? with
      | none => simp [hb] at hlast
      | some c => simp
  · exact ⟨[], front, fun rest => rfl, hmem, fun _ => rfl, fun _ => rfl⟩

/-- What stands after a word in a pattern ends its segment, and more segments follow. -/
theorem exists_splitOn_back (back : List UInt8) :
    ∃ stop after, (∀ lead, wildcard ∉ lead → (lead ++ back).splitOn wildcard
        = (lead ++ stop) :: after)
      ∧ (back = [] → after = []) ∧ (back.head? ≠ some wildcard → stop.head? = back.head?) := by
  by_cases hmem : wildcard ∈ back
  · obtain ⟨stop, rest, rfl, hnot⟩ := List.eq_append_cons_of_mem hmem
    refine ⟨stop, rest.splitOn wildcard, fun lead hlead => ?_, fun h => by simp at h,
      fun hhead => ?_⟩
    · rw [← List.append_assoc, List.splitOn_append_cons_self_of_not_mem]
      exact fun h => (List.mem_append.mp h).elim hlead hnot
    · cases stop with
      | nil => simp at hhead
      | cons c stop => rfl
  · refine ⟨back, [], fun lead hlead => ?_, fun _ => rfl, fun _ => rfl⟩
    exact List.splitOn_eq_singleton fun h => (List.mem_append.mp h).elim hlead hmem

/-- A part of a segment that ends in a byte that belongs to no word takes such a byte last, unless
nothing of the text is left. -/
theorem exists_concat_of_afterSegment? {start taken : List UInt8} {c : UInt8}
    (hne : start ≠ []) (hlast : ∀ b ∈ start.getLast?, Token.isWordByte b = false)
    (h : afterSegment? start (taken ++ c :: rest) = some (c :: rest)) :
    ∃ lead d, taken = lead ++ [d] ∧ Token.isWordByte d = false := by
  obtain ⟨first, p, rfl⟩ : ∃ first p, start = first ++ [p] :=
    ⟨start.dropLast, start.getLast hne, (List.dropLast_append_getLast hne).symm⟩
  rw [afterSegment?_append, Option.bind_eq_some_iff] at h
  obtain ⟨left, hfirst, hp⟩ := h
  obtain ⟨d, rfl, hd⟩ := exists_of_afterSegment?_singleton (hlast p List.getLast?_concat) hp
  obtain ⟨lead, hlead⟩ := exists_eq_append_of_afterSegment? hfirst
  rw [List.append_cons lead] at hlead
  exact ⟨lead, d, List.append_cancel_right hlead, hd⟩

/-- A word that touches no wildcard lies in one segment. What begins the pattern lies in the first,
and what ends it in the last. -/
theorem exists_segment_of_mem_runs {pattern : List UInt8} {r : Token.Run}
    (hr : r ∈ Token.runs Token.isWordByte pattern) (hstarBefore : r.before ≠ some wildcard)
    (hstarAfter : r.after ≠ some wildcard) :
    ∃ before start stop after,
      pattern.splitOn wildcard = before ++ (start ++ (r.body ++ stop)) :: after
        ∧ start.getLast? = r.before ∧ stop.head? = r.after
        ∧ (r.before = none → before = []) ∧ (r.after = none → after = []) := by
  obtain ⟨hmaximal, front, back, hpattern, hbefore, hafter⟩ := Token.mem_runs_iff.mp hr
  rw [Option.or_none] at hbefore
  obtain ⟨before, start, hsplitFront, hnotStart, hfirst, hlast⟩ := exists_splitOn_front front
  obtain ⟨stop, after, hsplitBack, hlastSegment, hhead⟩ := exists_splitOn_back back
  have hlead : wildcard ∉ start ++ r.body := by
    intro hmem
    rcases List.mem_append.mp hmem with hmem | hmem
    · exact hnotStart hmem
    · exact ne_wildcard_of_isWordByte (hmaximal.all _ hmem) rfl
  refine ⟨before, start, stop, after, ?_, ?_, ?_, fun hnone => hfirst ?_, fun hnone =>
    hlastSegment ?_⟩
  · rw [hpattern, List.append_assoc, hsplitFront, ← List.append_assoc, hsplitBack _ hlead,
      List.append_assoc]
  · rw [hbefore]
    exact hlast (hbefore ▸ hstarBefore)
  · rw [hafter]
    exact hhead (hafter ▸ hstarAfter)
  · exact List.getLast?_eq_none_iff.mp (hbefore ▸ hnone)
  · exact List.head?_eq_none_iff.mp (hafter ▸ hnone)

/-- A segment takes what comes before a word in it, the word itself, and what comes after. -/
theorem exists_of_afterSegment?_word {start body stop : List UInt8}
    (hbody : ∀ b ∈ body, Token.isWordByte b)
    (h : afterSegment? (start ++ (body ++ stop)) text = some rest) :
    ∃ taken left, text = taken ++ (body ++ left)
      ∧ afterSegment? start (taken ++ (body ++ left)) = some (body ++ left)
      ∧ afterSegment? stop left = some rest := by
  rw [afterSegment?_append, Option.bind_eq_some_iff] at h
  obtain ⟨afterStart, htakeStart, h⟩ := h
  rw [afterSegment?_append, Option.bind_eq_some_iff] at h
  obtain ⟨left, htakeBody, htakeStop⟩ := h
  have hliteral : ∀ p ∈ body, p ≠ separatorMark :=
    fun p hp => ne_separatorMark_of_isWordByte (hbody p hp)
  obtain rfl := eq_append_of_afterSegment?_literal hliteral htakeBody
  obtain ⟨taken, rfl⟩ := exists_eq_append_of_afterSegment? htakeStart
  exact ⟨taken, left, rfl, htakeStart, htakeStop⟩

/-- What was taken before a word ends in a byte that belongs to no word, where there is such a byte
before the word in the segment. -/
theorem not_isWordByte_of_getLast?_taken {start body left taken lead : List UInt8} {b : UInt8}
    (hstart : start.getLast? = some b) (hb : Token.isWordByte b = false) (hne : body ≠ [])
    (h : afterSegment? start (taken ++ (body ++ left)) = some (body ++ left)) :
    ∀ d ∈ (lead ++ taken).getLast?, Token.isWordByte d = false := by
  have hstartNe : start ≠ [] := by
    rintro rfl
    simp at hstart
  have hlast : ∀ p ∈ start.getLast?, Token.isWordByte p = false := by
    intro p hp
    rw [hstart] at hp
    exact Option.some.inj hp ▸ hb
  obtain ⟨c, body, rfl⟩ := List.exists_cons_of_ne_nil hne
  obtain ⟨first, d, rfl, hd⟩ := exists_concat_of_afterSegment? hstartNe hlast h
  rw [← List.append_assoc, List.getLast?_concat]
  intro d' hd'
  exact Option.some.inj hd' ▸ hd

/-- **A word of a pattern that matches is a word of the text**, where it touches neither a wildcard
nor an open end of the pattern. A word that begins the pattern then stands where the text begins. -/
theorem exists_word_of_isMatch {left right : Bool} {pattern : List UInt8}
    (h : isMatch left right pattern input) {r : Token.Run}
    (hr : r ∈ Token.runs Token.isWordByte pattern) {openStart openEnd : Bool}
    (hwhole : r.isWhole openStart openEnd) (hleft : openStart = false → left)
    (hright : openEnd = false → right) :
    ∃ front back, input = front ++ r.body ++ back ∧ (r.before = none → front = [])
      ∧ (∀ b ∈ front.getLast?, Token.isWordByte b = false)
      ∧ (∀ b ∈ back.head?, Token.isWordByte b = false) := by
  have hmaximal := (Token.mem_runs_iff.mp hr).1
  simp only [Token.Run.isWhole, Bool.and_eq_true, bne_iff_ne, Bool.not_eq_true',
    Bool.and_eq_false_iff] at hwhole
  obtain ⟨⟨⟨⟨-, hstart⟩, hend⟩, hstarBefore⟩, hstarAfter⟩ := hwhole
  obtain ⟨before, start, stop, after, hsegments, hstartLast, hstopHead, hfirst, hlast⟩ :=
    exists_segment_of_mem_runs hr hstarBefore hstarAfter
  obtain ⟨lead, text, rest, rfl, hsegment, hanchoredLeft, hanchoredRight⟩ :=
    exists_of_isMatch h hsegments
  obtain ⟨taken, left, rfl, htakeStart, htakeStop⟩ :=
    exists_of_afterSegment?_word hmaximal.all hsegment
  have hbegins : r.before = none → lead ++ taken = [] := by
    intro hnone
    have hopen : openStart = false := by simpa [hnone] using hstart
    rw [hnone, List.getLast?_eq_none_iff] at hstartLast
    rw [hstartLast, afterSegment?, Option.some.injEq] at htakeStart
    have htaken : taken = [] := List.append_left_eq_self.mp htakeStart
    rw [hanchoredLeft (hleft hopen) (hfirst hnone), htaken, List.append_nil]
  refine ⟨lead ++ taken, left, by simp only [List.append_assoc], hbegins, ?_, ?_⟩
  · cases hb : r.before with
    | none => simp [hbegins hb]
    | some b =>
      exact not_isWordByte_of_getLast?_taken (hstartLast.trans hb) (hmaximal.before b hb)
        hmaximal.nonempty htakeStart
  · cases ha : r.after with
    | none =>
      -- an end that is not open is anchored, and then nothing is left
      have hopen : openEnd = false := by simpa [ha] using hend
      rw [ha, List.head?_eq_none_iff] at hstopHead
      rw [hstopHead, afterSegment?, Option.some.injEq] at htakeStop
      rw [htakeStop, hanchoredRight (hright hopen) (hlast ha)]
      simp
    | some a =>
      rw [ha] at hstopHead
      obtain ⟨stop, rfl⟩ := List.head?_eq_some_iff.mp hstopHead
      cases left with
      | nil => simp
      | cons c left =>
        intro b hb
        have hc := not_isWordByte_of_afterSegment? (hmaximal.after a ha) htakeStop
        exact Option.some.inj hb ▸ hc

end Glob

end Blocklist
