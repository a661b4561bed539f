import Mathlib.Data.List.Sort
import Blocklist.Proofs.Token.Run
/-!
# Tokens — where they stand

Tokens are those of the maximal stretches of a text, and stretches are told
apart by their places: no two maximal ones meet (`Span.IsRun.eq_of_meets`).
The runs of a text stand at all of them, from left to right
(`exists_spans_runs`), so what is filed of an address, a selector or a
pattern, and in which order, is said by places alone. Main statement:
`tokens_by_spans`.
-/

namespace Blocklist

namespace Token

/-- A stretch of a text. -/
structure Span where
  /-- Where it begins. -/
  start : Nat
  /-- Where it has ended. -/
  stop : Nat
  deriving DecidableEq, Repr

variable {allowed : UInt8 → Bool} {text front rest : List UInt8} {s t : Span}

namespace Span

/-- What the stretch holds. -/
def bytes (s : Span) (text : List UInt8) : List UInt8 := (text.drop s.start).take (s.stop - s.start)

/-- The stretch with the bytes on either side. -/
def run (text : List UInt8) (s : Span) : Run where
  before := if s.start = 0 then none else text[s.start - 1]?
  body := s.bytes text
  after := text[s.stop]?

/-- Whether a stretch is one of allowed bytes that cannot be made longer. -/
structure IsRun (allowed : UInt8 → Bool) (text : List UInt8) (s : Span) : Prop where
  /-- There is something in it. -/
  lt : s.start < s.stop
  /-- It lies in the text. -/
  le : s.stop ≤ text.length
  /-- All of it is allowed. -/
  all : ∀ i b, s.start ≤ i → i < s.stop → text[i]? = some b → allowed b
  /-- What stands before it is not. -/
  before : ∀ i b, i + 1 = s.start → text[i]? = some b → allowed b = false
  /-- What stands after it is not. -/
  after : ∀ b, text[s.stop]? = some b → allowed b = false

/-- Whether some stretches are all of a kind, from left to right. -/
structure AreAll (kind : Span → Prop) (spans : List Span) : Prop where
  /-- Each begins after the one before. -/
  ordered : spans.Pairwise (·.start < ·.start)
  /-- They are those of the kind. -/
  mem_iff : ∀ s, s ∈ spans ↔ kind s

/-! ## Runs by place -/

theorem IsRun.length_bytes (h : s.IsRun allowed text) :
    (s.bytes text).length = s.stop - s.start := by
  have := h.le
  rw [bytes, List.length_take, List.length_drop]
  omega

/-- What is in a run is allowed. -/
theorem IsRun.ne_of_mem (h : s.IsRun allowed text) {i : Nat} (hstart : s.start ≤ i)
    (hstop : i < s.stop) : ∃ b, text[i]? = some b ∧ allowed b := by
  have hlt : i < text.length := Nat.lt_of_lt_of_le hstop h.le
  exact ⟨text[i], List.getElem?_eq_getElem hlt,
    h.all i _ hstart hstop (List.getElem?_eq_getElem hlt)⟩

/-- A run does not end within another. -/
theorem IsRun.stop_le (hs : s.IsRun allowed text) (ht : t.IsRun allowed text)
    (hstart : t.start ≤ s.stop) : t.stop ≤ s.stop := by
  by_contra hlt
  obtain ⟨b, hb, hallowed⟩ := ht.ne_of_mem hstart (Nat.lt_of_not_le hlt)
  rw [hs.after b hb] at hallowed
  exact Bool.false_ne_true hallowed

/-- **Runs that meet are the same.** -/
theorem IsRun.eq_of_meets (hs : s.IsRun allowed text) (ht : t.IsRun allowed text)
    (hstart : s.start ≤ t.start) (hmeets : t.start < s.stop) : s = t := by
  have hsame : s.start = t.start := by
    by_contra hne
    -- the byte before the later run is one of the earlier run
    obtain ⟨b, hb, hallowed⟩ := hs.ne_of_mem (i := t.start - 1) (by omega) (by omega)
    rw [ht.before _ b (by omega) hb] at hallowed
    exact Bool.false_ne_true hallowed
  have hs' := ht.stop_le hs (by have := ht.lt; omega)
  have ht' := hs.stop_le ht (by omega)
  cases s
  cases t
  simp only [Span.mk.injEq] at *
  omega

/-- The stretches of a kind can be listed in one way only. -/
theorem AreAll.unique {kind : Span → Prop} {spans spans' : List Span} (h : AreAll kind spans)
    (h' : AreAll kind spans') : spans = spans' := by
  have : Std.Irrefl fun s t : Span => s.start < t.start := ⟨fun s => Nat.lt_irrefl s.start⟩
  have : Std.Antisymm fun s t : Span => s.start < t.start :=
    ⟨fun s t hst hts => absurd hst (Nat.lt_asymm hts)⟩
  exact h.ordered.eq_of_mem_iff h'.ordered fun s => (h.mem_iff s).trans (h'.mem_iff s).symm

theorem AreAll.filter {kind kind' : Span → Prop} {spans : List Span} {keep : Span → Bool}
    (h : AreAll kind spans) (hkeep : ∀ s, kind s → (keep s ↔ kind' s)) :
    AreAll (fun s => kind s ∧ kind' s) (spans.filter keep) where
  ordered := h.ordered.filter keep
  mem_iff s := by
    rw [List.mem_filter, h.mem_iff]
    exact and_congr_right (hkeep s)

end Span

open Token.Span

/-! ## Runs from left to right -/

section Runs

variable {body back : List UInt8} {b : UInt8} {before : Option UInt8}

/-- Allowed bytes make a run where nothing allowed is on either side. -/
theorem isRun_append (hne : body ≠ []) (hbody : ∀ c ∈ body, allowed c)
    (hfront : ∀ c ∈ front.getLast?, allowed c = false)
    (hback : ∀ c ∈ back.head?, allowed c = false) :
    IsRun allowed (front ++ body ++ back) ⟨front.length, front.length + body.length⟩ where
  lt := Nat.lt_add_of_pos_right (List.length_pos_iff.mpr hne)
  le := by
    rw [List.length_append, List.length_append]
    exact Nat.le_add_right ..
  all i c hstart hstop hc := by
    dsimp only at hstart hstop
    rw [List.append_assoc, List.getElem?_append_right hstart,
      List.getElem?_append_left (by omega)] at hc
    exact hbody c (List.mem_of_getElem? hc)
  before i c hi hc := by
    dsimp only at hi
    rw [List.append_assoc, List.getElem?_append_left (by omega)] at hc
    refine hfront c ?_
    rw [List.getLast?_eq_getElem?, ← hi, Nat.add_sub_cancel]
    exact hc
  after c hc := by
    rw [← List.length_append, List.getElem?_append_right (Nat.le_refl _), Nat.sub_self,
      ← List.head?_eq_getElem?] at hc
    exact hback c hc

theorem run_append (front body back : List UInt8) :
    run (front ++ body ++ back) ⟨front.length, front.length + body.length⟩
      = ⟨front.getLast?, body, back.head?⟩ := by
  rw [run, bytes, Run.mk.injEq]
  refine ⟨?_, ?_, ?_⟩
  · split
    · next h => rw [List.length_eq_zero_iff.mp h]; rfl
    · next h =>
      rw [List.append_assoc, List.getElem?_append_left (by dsimp only at h ⊢; omega),
        List.getLast?_eq_getElem?]
  · rw [List.append_assoc, List.drop_left, Nat.add_sub_cancel_left, List.take_left]
  · rw [← List.length_append, List.getElem?_append_right (Nat.le_refl _), Nat.sub_self,
      List.head?_eq_getElem?]

/-- **The runs in what is left of a text**, where none at its beginning has begun before. -/
theorem exists_spans_runsFrom (allowed : UInt8 → Bool) (before : Option UInt8)
    (front rest : List UInt8)
    (h : ∀ b ∈ rest.head?, allowed b → before = front.getLast? ∧ ∀ c ∈ before, allowed c = false) :
    ∃ spans, AreAll (fun s => s.IsRun allowed (front ++ rest) ∧ front.length ≤ s.start) spans ∧
      runsFrom allowed before rest = spans.map (run (front ++ rest)) := by
  fun_induction runsFrom allowed before rest generalizing front with
  | case1 before =>
    refine ⟨[], ⟨List.Pairwise.nil, fun s => ?_⟩, rfl⟩
    rw [List.append_nil]
    refine iff_of_false List.not_mem_nil ?_
    rintro ⟨hs, hstart⟩
    have hlt := hs.lt
    have hle := hs.le
    omega
  | case2 before b rest hb tail ih =>
    obtain ⟨rfl, hbefore⟩ := h b rfl hb
    have htail : ∀ c ∈ tail.head?, allowed c = false := Text.head?_dropWhile allowed rest
    have htext : front ++ b :: rest = front ++ (b :: rest.takeWhile allowed) ++ tail := by
      rw [List.append_assoc, List.cons_append, List.takeWhile_append_dropWhile]
    have hbody : ∀ c ∈ b :: rest.takeWhile allowed, allowed c :=
      List.forall_mem_cons.mpr ⟨hb, fun c hc => List.mem_takeWhile_imp hc⟩
    have hrun := isRun_append (List.cons_ne_nil _ _) hbody hbefore htail
    have hfirst := run_append front (b :: rest.takeWhile allowed) tail
    obtain ⟨spans, hspans, hruns⟩ := ih (front ++ (b :: rest.takeWhile allowed))
      fun c hc hallowed => absurd hallowed (by rw [htail c hc]; exact Bool.false_ne_true)
    rw [htext]
    rw [List.length_append] at hspans
    generalize b :: rest.takeWhile allowed = body at *
    refine ⟨⟨front.length, front.length + body.length⟩ :: spans, ⟨?_, fun s => ?_⟩, ?_⟩
    · refine List.pairwise_cons.mpr ⟨fun s hs => ?_, hspans.ordered⟩
      exact Nat.lt_of_lt_of_le hrun.lt ((hspans.mem_iff s).mp hs).2
    · rw [List.mem_cons, hspans.mem_iff]
      constructor
      · rintro (rfl | ⟨hs, hstart⟩)
        · exact ⟨hrun, Nat.le_refl _⟩
        · exact ⟨hs, Nat.le_trans (Nat.le_add_right ..) hstart⟩
      · rintro ⟨hs, hstart⟩
        -- a run that begins before the end of the first one is the first one
        rcases Nat.lt_or_ge s.start (front.length + body.length) with hlt | hge
        · exact .inl (hrun.eq_of_meets hs hstart hlt).symm
        · exact .inr ⟨hs, hge⟩
    · rw [List.map_cons, hfirst, hruns]
  | case3 before b rest hb ih =>
    have hb : allowed b = false := by simpa using hb
    obtain ⟨spans, hspans, hruns⟩ := ih (front ++ [b]) fun c _ _ =>
      ⟨List.getLast?_concat.symm, fun d hd => Option.mem_some.mp hd ▸ hb⟩
    rw [← List.append_cons] at hspans hruns
    refine ⟨spans, ⟨hspans.ordered, fun s => ?_⟩, hruns⟩
    rw [hspans.mem_iff, List.length_append, List.length_singleton]
    refine and_congr_right fun hs => ⟨Nat.le_of_succ_le, fun hstart => ?_⟩
    refine Nat.lt_of_le_of_ne hstart fun heq => ?_
    have hhere : (front ++ b :: rest)[s.start]? = some b := by
      rw [← heq, List.getElem?_append_right (Nat.le_refl _), Nat.sub_self]
      rfl
    rw [hs.all s.start b (Nat.le_refl _) hs.lt hhere] at hb
    exact Bool.false_ne_true hb.symm

/-- **The runs of a text stand at all its maximal stretches of allowed bytes**, in order. -/
theorem exists_spans_runs (allowed : UInt8 → Bool) (text : List UInt8) :
    ∃ spans, AreAll (IsRun allowed text) spans ∧ runs allowed text = spans.map (run text) := by
  obtain ⟨spans, hspans, hruns⟩ := exists_spans_runsFrom allowed none [] text
    fun _ _ _ => ⟨rfl, fun _ hc => absurd hc (by simp)⟩
  refine ⟨spans, ⟨hspans.ordered, fun s => ?_⟩, hruns⟩
  rw [hspans.mem_iff]
  exact and_iff_left (Nat.zero_le _)

end Runs

/-! ## Tokens by place -/

/-- Tokens are those of the stretches that are kept. -/
theorem exists_spans_filter_runs (allowed : UInt8 → Bool) (keep : Run → Bool)
    (hash : List UInt8 → UInt32) {kind : Span → Prop}
    (hkeep : ∀ s, s.IsRun allowed text → (keep (run text s) ↔ kind s)) :
    ∃ spans, AreAll (fun s => s.IsRun allowed text ∧ kind s) spans ∧
      (((runs allowed text).filter keep).map fun r => hash r.body)
        = spans.map fun s => hash (s.bytes text) := by
  obtain ⟨spans, hspans, hruns⟩ := exists_spans_runs allowed text
  refine ⟨spans.filter (keep ∘ run text), hspans.filter hkeep, ?_⟩
  rw [hruns, List.filter_map, List.map_map]
  rfl

/-- Whether a stretch is long enough to be a token of addresses and patterns. -/
def Span.IsLong (s : Span) : Prop := 2 ≤ s.stop - s.start

/-- What a token of a pattern may not touch: an end of the pattern that is skipped, nor a `*`. -/
structure Span.IsClosed (skipFirst skipLast : Bool) (text : List UInt8) (s : Span) : Prop where
  /-- It does not begin the pattern, where what does is skipped. -/
  first : skipFirst → s.start ≠ 0
  /-- It does not end the pattern, where what does is skipped. -/
  last : skipLast → s.stop ≠ text.length
  /-- No `*` stands before it. -/
  starBefore : ∀ i, i + 1 = s.start → text[i]? ≠ some 0x2A
  /-- No `*` stands after it. -/
  starAfter : text[s.stop]? ≠ some 0x2A

theorem Span.IsRun.isLong_iff (h : s.IsRun allowed text) :
    leastLength ≤ (run text s).body.length ↔ s.IsLong := by
  rw [run, h.length_bytes]
  rfl

theorem Span.before_run_eq_none_iff (h : s.IsRun allowed text) :
    (run text s).before = none ↔ s.start = 0 := by
  have hlt := h.lt
  have hle := h.le
  rw [run, ite_eq_left_iff, List.getElem?_eq_none_iff]
  omega

theorem Span.before_run_eq_some_iff {b : UInt8} :
    (run text s).before = some b ↔ ∃ i, i + 1 = s.start ∧ text[i]? = some b := by
  obtain ⟨start, stop⟩ := s
  cases start with
  | zero => simp [run]
  | succ i => simp [run]

theorem Span.IsRun.isWhole_iff (h : s.IsRun allowed text) (skipFirst skipLast : Bool) :
    (run text s).isWhole skipFirst skipLast
      ↔ s.IsLong ∧ s.IsClosed skipFirst skipLast text := by
  have hafter : (run text s).after = none ↔ s.stop = text.length := by
    have hle := h.le
    rw [run, List.getElem?_eq_none_iff]
    omega
  have hbefore : (run text s).before ≠ some star
      ↔ ∀ i, i + 1 = s.start → text[i]? ≠ some 0x2A := by
    rw [Ne, before_run_eq_some_iff]
    push Not
    rfl
  simp only [Run.isWhole, Bool.and_eq_true, decide_eq_true_eq, h.isLong_iff, Bool.not_eq_true',
    Bool.and_eq_false_imp, Option.isNone_eq_false_iff, bne_iff_ne, hbefore, and_assoc,
    ← Option.ne_none_iff_isSome, Ne, before_run_eq_none_iff h, hafter]
  exact and_congr_right fun _ =>
    ⟨fun ⟨hfirst, hlast, hbefore, hafter⟩ => ⟨hfirst, hlast, hbefore, hafter⟩,
      fun h => ⟨h.first, h.last, h.starBefore, h.starAfter⟩⟩

/-- **What is collected of a text.** A buffer keeps what it has and then, up to two hundred in all,
one token for each maximal stretch, from left to right: of an address, for those of letters and
digits of two or more; of a selector, for those of what an identifier may hold, of any length; of a
pattern, in lower case, for those of an address that touch no `*` and do not begin or end the
pattern where that is skipped. -/
theorem tokens_by_spans (b : TokenBuffer) (text : List UInt8) :
    (∃ spans, AreAll (fun s => s.IsRun isWordByte text ∧ s.IsLong) spans ∧
      (b.extend (ofUrl text)).tokens
        = (b.tokens ++ spans.map fun s => hashToken (s.bytes text)).take 200) ∧
    (∃ spans, AreAll (IsRun isIdentByte text) spans ∧
      (b.extend (ofSelector text)).tokens
        = (b.tokens ++ spans.map fun s => hashToken (s.bytes text)).take 200) ∧
    ∀ skipFirst skipLast, ∃ spans,
      AreAll (fun s => s.IsRun isWordByte text ∧ s.IsLong ∧ s.IsClosed skipFirst skipLast text)
        spans ∧
      (b.extend (ofPattern skipFirst skipLast text)).tokens
        = (b.tokens ++ spans.map fun s => hashToken ((s.bytes text).map lowerByte)).take 200 := by
  refine ⟨?_, ?_, fun skipFirst skipLast => ?_⟩
  · obtain ⟨spans, hspans, htokens⟩ := exists_spans_filter_runs isWordByte
      (fun r => leastLength ≤ r.body.length) hashToken
      fun s hs => decide_eq_true_iff.trans hs.isLong_iff
    refine ⟨spans, hspans, ?_⟩
    rw [TokenBuffer.tokens_extend, ofUrl, htokens]
    rfl
  · obtain ⟨spans, hspans, hruns⟩ := exists_spans_runs isIdentByte text
    refine ⟨spans, hspans, ?_⟩
    rw [TokenBuffer.tokens_extend, ofSelector, hruns, List.map_map]
    rfl
  · obtain ⟨spans, hspans, htokens⟩ := exists_spans_filter_runs isWordByte
      (Run.isWhole skipFirst skipLast) (fun body => hashToken (body.map lowerByte))
      fun s hs => hs.isWhole_iff skipFirst skipLast
    refine ⟨spans, hspans, ?_⟩
    rw [TokenBuffer.tokens_extend, ofPattern, htokens]
    rfl

end Token

end Blocklist
