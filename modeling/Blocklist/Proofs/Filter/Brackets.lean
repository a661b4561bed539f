import Mathlib.Data.List.Infix
import Blocklist.Filter.Cosmetic
import Blocklist.Proofs.Token.Run
/-!
# Filters — the brackets of a selector

The tokens of a selector are those of its identifiers behind the last
combinator and outside of brackets. But brackets are counted from that
combinator on, be it within a bracket itself; so an identifier within may count,
if another bracket opens behind it (`CosmeticFilter.selectorTokens_nestedFilter`).
Main statement: `CosmeticFilter.exists_run_of_mem_selectorTokens`.
-/

namespace Blocklist

namespace CosmeticFilter

open Token

variable {text front back piece : List UInt8} {depth : Nat} {b : UInt8} {f : CosmeticFilter}
variable {token : UInt32}

/-! ## Brackets -/

/-- How many brackets are open where a text ends. -/
def openBrackets (text : List UInt8) : Nat := text.count openBracket - text.count closeBracket

/-- Whether no bracket is closed before it is opened, and none is left open. -/
structure IsBalanced (text : List UInt8) : Prop where
  /-- Nowhere are there more brackets closed than opened. -/
  opened : ∀ front, front <+: text → front.count closeBracket ≤ front.count openBracket
  /-- In the end there are as many. -/
  closed : text.count closeBracket = text.count openBracket

instance (text : List UInt8) : Decidable (IsBalanced text) :=
  decidable_of_iff ((∀ front ∈ text.inits, front.count closeBracket ≤ front.count openBracket) ∧
      text.count closeBracket = text.count openBracket)
    (by simp only [List.mem_inits]; exact ⟨fun h => ⟨h.1, h.2⟩, fun h => ⟨h.opened, h.closed⟩⟩)

theorem isPlain_eq_false_iff : isPlain b = false ↔ b = openBracket ∨ b = closeBracket := by
  rw [isPlain, Bool.and_eq_false_iff, bne_eq_false_iff_eq, bne_eq_false_iff_eq]

/-- A byte that is no bracket changes no count. -/
theorem count_of_isPlain (h : ∀ b ∈ text, isPlain b) :
    text.count openBracket = 0 ∧ text.count closeBracket = 0 := by
  constructor
  · exact List.count_eq_zero_of_not_mem fun hmem => absurd (h _ hmem) (by decide)
  · exact List.count_eq_zero_of_not_mem fun hmem => absurd (h _ hmem) (by decide)

theorem openBrackets_append_plain (h : ∀ b ∈ back, isPlain b) (front : List UInt8) :
    openBrackets (front ++ back) = openBrackets front := by
  obtain ⟨hopen, hclose⟩ := count_of_isPlain h
  rw [openBrackets, openBrackets, List.count_append, List.count_append, hopen, hclose]
  rfl

/-! ## Pieces -/

/-- What stands around a piece: a bracket or nothing before it, an opening one or nothing behind it;
and before it as many brackets are closed as opened, with those that are open from before. -/
structure Surrounds (depth : Nat) (front piece back : List UInt8) : Prop where
  /-- There is no bracket in the piece. -/
  plain : ∀ b ∈ piece, isPlain b
  /-- A bracket is before it. -/
  before : ∀ b ∈ front.getLast?, isPlain b = false
  /-- An opening bracket is behind it. -/
  behind : ∀ b ∈ back.head?, b = openBracket
  /-- No bracket that is opened before it is left open. -/
  closed : front.count openBracket + depth ≤ front.count closeBracket

/-- A bracket more in front changes the depth and nothing else. -/
theorem Surrounds.cons {depth' : Nat} {plain : List UInt8} (h : Surrounds depth' front piece back)
    (hplain : ∀ c ∈ plain, isPlain c) (hb : isPlain b = false)
    (hdepth : [b].count openBracket + depth ≤ [b].count closeBracket + depth') :
    Surrounds depth (plain ++ b :: front) piece back where
  plain := h.plain
  behind := h.behind
  before := by
    intro c hc
    rw [List.getLast?_append_cons] at hc
    cases front with
    | nil => exact Option.some.inj hc ▸ hb
    | cons d front => exact h.before c hc
  closed := by
    obtain ⟨hopen, hclose⟩ := count_of_isPlain hplain
    rw [List.count_append, List.count_append, hopen, hclose, ← List.singleton_append,
      List.count_append, List.count_append]
    have := h.closed
    omega

/-- **A piece lies outside of brackets**, wherever the text around it is balanced, unless brackets
are open before its own text begins and another one opens behind it. -/
theorem Surrounds.openBrackets_cases {lead : List UInt8} (h : Surrounds 0 front piece back)
    (hbalanced : IsBalanced (lead ++ (front ++ piece ++ back))) :
    openBrackets (lead ++ front) = 0 ∨
      0 < openBrackets lead ∧ ∃ rest, back = openBracket :: rest := by
  rw [or_iff_not_imp_left]
  intro hinside
  have hcounts := h.closed
  obtain ⟨hopen, hclose⟩ := count_of_isPlain h.plain
  simp only [openBrackets, List.count_append] at hinside ⊢
  refine ⟨by omega, ?_⟩
  cases back with
  | nil =>
    -- nothing is closed behind the piece, so all is closed before it
    have hclosed := hbalanced.closed
    simp only [List.append_nil, List.count_append, hopen, hclose] at hclosed
    omega
  | cons b rest => exact ⟨rest, congrArg (· :: rest) (h.behind b rfl)⟩

/-- The piece at the beginning of a text is its own where it counts. -/
theorem surrounds_takeWhile (h : piece ∈ if depth = 0 then [text.takeWhile isPlain] else [])
    (hback : ∀ b ∈ (text.dropWhile isPlain).head?, b = openBracket) :
    ∃ front back, text = front ++ piece ++ back ∧ Surrounds depth front piece back := by
  split at h
  · next hdepth =>
    obtain rfl := List.mem_singleton.mp h
    refine ⟨[], text.dropWhile isPlain, (List.takeWhile_append_dropWhile ..).symm, ?_⟩
    exact ⟨fun b hb => List.mem_takeWhile_imp hb, by simp, hback, by simp [hdepth]⟩
  · exact absurd h List.not_mem_nil

/-- What comes after the piece at the beginning is a bracket. -/
theorem eq_append_of_dropWhile {rest : List UInt8} (h : text.dropWhile isPlain = b :: rest) :
    isPlain b = false ∧ text = text.takeWhile isPlain ++ b :: rest := by
  have hhead := List.head?_dropWhile_not isPlain text
  rw [h] at hhead
  exact ⟨hhead, h ▸ (List.takeWhile_append_dropWhile ..).symm⟩

/-- **Where a piece stands.** -/
theorem exists_surrounds_of_mem_outside (h : piece ∈ outside depth text) :
    ∃ front back, text = front ++ piece ++ back ∧ Surrounds depth front piece back := by
  have hplain : ∀ text : List UInt8, ∀ c ∈ text.takeWhile isPlain, isPlain c := fun _ _ hc =>
    List.mem_takeWhile_imp hc
  fun_induction outside depth text with
  | case1 depth text first hdrop =>
    exact surrounds_takeWhile h (by simp [hdrop])
  | case2 depth text first b rest hdrop hopen ih =>
    obtain rfl : b = openBracket := eq_of_beq hopen
    rcases List.mem_append.mp h with h | h
    · exact surrounds_takeWhile h (by simp [hdrop])
    · obtain ⟨hb, htext⟩ := eq_append_of_dropWhile hdrop
      obtain ⟨front, back, rfl, hsurrounds⟩ := ih h
      refine ⟨text.takeWhile isPlain ++ openBracket :: front, back, by simpa using htext, ?_⟩
      have hcount : [openBracket].count openBracket = 1 := rfl
      exact hsurrounds.cons (hplain text) hb (by omega)
  | case3 depth text b rest hdrop hopen ih =>
    obtain ⟨hb, htext⟩ := eq_append_of_dropWhile hdrop
    obtain rfl : b = closeBracket :=
      (isPlain_eq_false_iff.mp hb).resolve_left fun h => hopen (beq_iff_eq.mpr h)
    obtain ⟨front, back, rfl, hsurrounds⟩ := ih h
    refine ⟨text.takeWhile isPlain ++ closeBracket :: front, back, by simpa using htext, ?_⟩
    have hcount : [closeBracket].count openBracket = 0 ∧ [closeBracket].count closeBracket = 1 :=
      ⟨rfl, rfl⟩
    exact hsurrounds.cons (hplain text) hb (by omega)

/-! ## The last compound selector -/

/-- A selector up to its last combinator. -/
def upToCombinator (selector : List UInt8) : List UInt8 :=
  (selector.reverse.dropWhile (!isCombinator ·)).reverse

theorem upToCombinator_append_lastCompound (selector : List UInt8) :
    upToCombinator selector ++ lastCompound selector = selector := by
  rw [upToCombinator, lastCompound, ← List.reverse_append, List.takeWhile_append_dropWhile,
    List.reverse_reverse]

theorem isCombinator_getLast?_upToCombinator (selector : List UInt8) :
    ∀ b ∈ (upToCombinator selector).getLast?, isCombinator b := by
  intro b hb
  rw [upToCombinator, List.getLast?_reverse] at hb
  simpa using Text.head?_dropWhile (!isCombinator ·) selector.reverse b hb

theorem isCombinator_of_mem_lastCompound {selector : List UInt8} (h : b ∈ lastCompound selector) :
    isCombinator b = false := by
  simpa using List.mem_takeWhile_imp (List.mem_reverse.mp h)

/-- Neither a bracket nor a combinator is a part of an identifier. -/
theorem isIdentByte_of_stop (h : isPlain b = false ∨ isCombinator b) : isIdentByte b = false := by
  simp only [isPlain_eq_false_iff, isCombinator, Bool.or_eq_true, beq_iff_eq] at h
  rcases h with (rfl | rfl) | (rfl | rfl) | rfl <;> decide

/-! ## Tokens -/

theorem exists_run_of_mem_ofSelector (h : token ∈ ofSelector text) :
    ∃ front body back, text = front ++ body ++ back ∧ hashToken body = token ∧
      Run.IsMaximal isIdentByte ⟨front.getLast?, body, back.head?⟩ := by
  obtain ⟨r, hr, rfl⟩ := List.mem_map.mp h
  obtain ⟨hmaximal, front, back, htext, hbefore, hafter⟩ := mem_runs_iff.mp hr
  refine ⟨front, r.body, back, htext, rfl, ?_⟩
  rw [Option.or_none] at hbefore
  rw [← hbefore, ← hafter]
  exact hmaximal

theorem exists_piece_of_mem_selectorTokens (h : token ∈ f.selectorTokens) :
    ∃ piece ∈ outside 0 (lastCompound (Text.utf8 f.selector)), token ∈ ofSelector piece := by
  rw [selectorTokens] at h
  split at h
  · exact absurd h List.not_mem_nil
  · rw [TokenBuffer.tokens_extend] at h
    exact List.mem_flatMap.mp (List.mem_of_mem_take h)

/-- A run of a piece is one of the text around the piece, where no identifier goes on. -/
theorem isMaximal_append {body : List UInt8} {outer after : List UInt8}
    (h : Run.IsMaximal isIdentByte ⟨front.getLast?, body, back.head?⟩)
    (hbefore : ∀ b ∈ outer.getLast?, isIdentByte b = false)
    (hafter : ∀ b ∈ after.head?, isIdentByte b = false) :
    Run.IsMaximal isIdentByte ⟨(outer ++ front).getLast?, body, (back ++ after).head?⟩ where
  nonempty := h.nonempty
  all := h.all
  before := by
    intro b hb
    rw [List.getLast?_append] at hb
    rcases Option.or_eq_some_iff.mp hb with hb | ⟨-, hb⟩
    · exact h.before b hb
    · exact hbefore b hb
  after := by
    intro b hb
    rw [List.head?_append] at hb
    rcases Option.or_eq_some_iff.mp hb with hb | ⟨-, hb⟩
    · exact h.after b hb
    · exact hafter b hb

/-- **Where the tokens of a selector come from.** Each is that of a whole identifier behind the last
combinator. Where brackets are balanced, the identifier stands outside of them, unless the last
combinator is within a bracket and behind the identifier another one opens. -/
theorem exists_run_of_mem_selectorTokens (hbalanced : IsBalanced (Text.utf8 f.selector))
    (h : token ∈ f.selectorTokens) : ∃ front body back,
      Text.utf8 f.selector = front ++ body ++ back ∧ hashToken body = token ∧
        Run.IsMaximal isIdentByte ⟨front.getLast?, body, back.head?⟩ ∧
        (∀ b ∈ back, isCombinator b = false) ∧
        (openBrackets front = 0 ∨
          0 < openBrackets (upToCombinator (Text.utf8 f.selector)) ∧
            ∃ plain rest, back = plain ++ openBracket :: rest ∧ ∀ b ∈ plain, isPlain b) := by
  obtain ⟨piece, hpiece, htoken⟩ := exists_piece_of_mem_selectorTokens h
  obtain ⟨outer, after, hcompound, hsurrounds⟩ := exists_surrounds_of_mem_outside hpiece
  obtain ⟨front, body, back, rfl, hhash, hmaximal⟩ := exists_run_of_mem_ofSelector htoken
  have hselector := upToCombinator_append_lastCompound (Text.utf8 f.selector)
  have hcompound' : ∀ b ∈ back ++ after, b ∈ lastCompound (Text.utf8 f.selector) := by
    rw [hcompound]
    intro b hb
    simp only [List.mem_append] at hb ⊢
    tauto
  rw [hcompound] at hselector
  refine ⟨upToCombinator (Text.utf8 f.selector) ++ outer ++ front, body, back ++ after, ?_, hhash,
    isMaximal_append hmaximal (fun b hb => isIdentByte_of_stop ?_) fun b hb =>
      isIdentByte_of_stop ?_, fun b hb => isCombinator_of_mem_lastCompound (hcompound' b hb), ?_⟩
  · exact hselector.symm.trans (by simp only [List.append_assoc])
  · rw [List.getLast?_append] at hb
    rcases Option.or_eq_some_iff.mp hb with hb | ⟨-, hb⟩
    · exact .inl (hsurrounds.before b hb)
    · exact .inr (isCombinator_getLast?_upToCombinator _ b hb)
  · exact .inl (hsurrounds.behind b hb ▸ rfl)
  · have hplain := hsurrounds.plain
    simp only [List.mem_append, or_imp, forall_and] at hplain
    rw [openBrackets_append_plain hplain.1.1]
    rw [← hselector] at hbalanced
    refine (hsurrounds.openBrackets_cases hbalanced).imp_right ?_
    rintro ⟨hlead, rest, rfl⟩
    exact ⟨hlead, back, rest, rfl, hplain.2⟩

/-- A filter of links, with an attribute between two classes. -/
def wideLinkFilter : CosmeticFilter where
  mask := .make []
  selector := "div > a.promo[href^='https://ads'].wide"

theorem exists_run_of_mem_selectorTokens_wide : ∃ front body back,
    Text.utf8 "div > a.promo[href^='https://ads'].wide" = front ++ body ++ back ∧
      hashToken body = hashToken (Text.utf8 "wide") ∧ openBrackets front = 0 := by
  have hbalanced : IsBalanced (Text.utf8 wideLinkFilter.selector) := by decide +kernel
  have htoken : hashToken (Text.utf8 "wide") ∈ wideLinkFilter.selectorTokens := by decide +kernel
  obtain ⟨front, body, back, htext, hhash, -, -, hopen⟩ :=
    exists_run_of_mem_selectorTokens hbalanced htoken
  have hlead : ¬ 0 < openBrackets (upToCombinator (Text.utf8 wideLinkFilter.selector)) := by
    decide +kernel
  exact ⟨front, body, back, htext, hhash, hopen.resolve_right fun h => hlead h.1⟩

/-- A filter of an attribute with a combinator and a bracket in its value. -/
def nestedFilter : CosmeticFilter where
  mask := .make []
  selector := "[a>b[c]d]"

/-- **The text of an attribute may become a token**: brackets are balanced and all identifiers stand
within them, but the first one behind the combinator is a token. -/
theorem selectorTokens_nestedFilter : IsBalanced (Text.utf8 nestedFilter.selector) ∧
    nestedFilter.action = .hide ∧ hashToken (Text.utf8 "b") ∈ nestedFilter.selectorTokens ∧
    ∀ front body back, Text.utf8 nestedFilter.selector = front ++ body ++ back →
      Run.IsMaximal isIdentByte ⟨front.getLast?, body, back.head?⟩ → openBrackets front ≠ 0 := by
  refine ⟨by decide +kernel, by decide, by decide +kernel, ?_⟩
  intro front body back htext hmaximal houtside
  -- outside of brackets are only the beginning and the end
  have hends : ∀ front ∈ (Text.utf8 nestedFilter.selector).inits, openBrackets front = 0 →
      front = [] ∨ front = Text.utf8 nestedFilter.selector := by decide +kernel
  have hprefix : front <+: Text.utf8 nestedFilter.selector :=
    ⟨body ++ back, by rw [htext, List.append_assoc]⟩
  obtain ⟨b, rest, hbody⟩ := List.exists_cons_of_ne_nil hmaximal.nonempty
  dsimp only at hbody
  subst hbody
  rcases hends front ((List.mem_inits _ _).mpr hprefix) houtside with rfl | rfl
  · obtain rfl : openBracket = b := (List.cons.inj htext).1
    exact absurd (hmaximal.all openBracket List.mem_cons_self) (by decide)
  · have hlength := congrArg List.length htext
    simp only [List.length_append, List.length_cons] at hlength
    omega

end CosmeticFilter

end Blocklist
