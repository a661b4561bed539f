import Mathlib.Data.List.Basic
import Mathlib.Data.List.TakeWhile
import Blocklist.Proofs.Text.Cut
import Blocklist.Token.Run
/-!
# Tokens — runs as maximal stretches

The runs of a text are exactly its maximal stretches of allowed bytes
(`mem_runs_iff`): a stretch with nothing allowed on either side. So a run
can be carried from one text to another by saying what stands around it.
-/

namespace Blocklist

namespace Token

variable {allowed : UInt8 → Bool} {text : List UInt8} {r : Run}

/-- A stretch of allowed bytes that cannot be made longer. -/
structure Run.IsMaximal (allowed : UInt8 → Bool) (r : Run) : Prop where
  /-- There is something in it. -/
  nonempty : r.body ≠ []
  /-- All of it is allowed. -/
  all : ∀ b ∈ r.body, allowed b
  /-- What stands before it is not. -/
  before : ∀ b ∈ r.before, allowed b = false
  /-- What stands after it is not. -/
  after : ∀ b ∈ r.after, allowed b = false

/-- Where a run stands in a text that `before` precedes. -/
def Run.StandsIn (r : Run) (before : Option UInt8) (text : List UInt8) : Prop :=
  ∃ front back, text = front ++ r.body ++ back ∧ r.before = front.getLast?.or before
    ∧ r.after = back.head?

/-- A last byte that is not allowed stays when the beginning comes off. -/
theorem getLast?_dropWhile {front : List UInt8} {d : UInt8} (hlast : front.getLast? = some d)
    (hd : allowed d = false) : (front.dropWhile allowed).getLast? = some d := by
  have hdrop : front.dropWhile allowed ≠ [] := by
    intro h
    have hall := List.dropWhile_eq_nil_iff.mp h d (List.mem_of_getLast? hlast)
    exact absurd hall (by rw [hd]; simp)
  rw [← hlast, ← List.getLast?_append_of_ne_nil (front.takeWhile allowed) hdrop,
    List.takeWhile_append_dropWhile]

/-- What precedes a place, where a byte more comes first. -/
theorem getLast?_cons_or (b : UInt8) (front : List UInt8) (before : Option UInt8) :
    (b :: front).getLast?.or before = front.getLast?.or (some b) := by
  rw [List.getLast?_cons]
  cases front.getLast? <;> rfl

namespace Run

variable {b : UInt8} {rest : List UInt8} {before : Option UInt8}

/-- A byte that is not allowed belongs to no stretch, so they all stand beyond it. -/
theorem standsIn_cons_iff_of_not_allowed (hr : r.IsMaximal allowed) (hb : allowed b = false) :
    r.StandsIn before (b :: rest) ↔ r.StandsIn (some b) rest := by
  constructor
  · rintro ⟨front, back, htext, hfront, hback⟩
    cases front with
    | nil =>
      obtain ⟨c, body, hbody⟩ := List.exists_cons_of_ne_nil hr.nonempty
      simp only [hbody, List.nil_append, List.cons_append, List.cons.injEq] at htext
      obtain ⟨rfl, -⟩ := htext
      exact absurd (hr.all b (hbody ▸ List.mem_cons_self ..)) (by rw [hb]; simp)
    | cons c front =>
      simp only [List.cons_append, List.cons.injEq] at htext
      obtain ⟨rfl, hrest⟩ := htext
      exact ⟨front, back, hrest, hfront.trans (getLast?_cons_or b front before), hback⟩
  · rintro ⟨front, back, htext, hfront, hback⟩
    refine ⟨b :: front, back, by rw [htext]; rfl, ?_, hback⟩
    rw [hfront, getLast?_cons_or]

/-- The run at the beginning of a text stands in it. -/
theorem standsIn_takeWhile (b : UInt8) (rest : List UInt8) (before : Option UInt8) :
    StandsIn ⟨before, b :: rest.takeWhile allowed, (rest.dropWhile allowed).head?⟩ before
      (b :: rest) := by
  refine ⟨[], rest.dropWhile allowed, ?_, rfl, rfl⟩
  simp only [List.nil_append, List.cons_append, List.takeWhile_append_dropWhile]

/-- A stretch beyond that run stands in the text as well. -/
theorem StandsIn.cons_of_dropWhile (hr : r.IsMaximal allowed)
    (h : r.StandsIn (some b) (rest.dropWhile allowed)) : r.StandsIn before (b :: rest) := by
  obtain ⟨front, back, htext, hfront, hback⟩ := h
  -- nothing allowed comes right after the run, so something stands before the stretch
  have hne : front ≠ [] := by
    rintro rfl
    obtain ⟨c, body, hbody⟩ := List.exists_cons_of_ne_nil hr.nonempty
    have hstop : allowed c = false :=
      Text.head?_dropWhile allowed rest c (by rw [htext, hbody]; rfl)
    exact absurd (hr.all c (hbody ▸ List.mem_cons_self ..)) (by rw [hstop]; simp)
  obtain ⟨d, hd⟩ := Option.isSome_iff_exists.mp (List.getLast?_isSome.mpr hne)
  refine ⟨b :: rest.takeWhile allowed ++ front, back, ?_, ?_, hback⟩
  · rw [List.append_assoc, List.append_assoc, ← List.append_assoc front, ← htext,
      List.cons_append, List.takeWhile_append_dropWhile]
  · rw [hfront, List.getLast?_append_of_ne_nil _ hne, hd]
    rfl

/-- A maximal stretch is the run at the beginning of a text, or stands beyond it. -/
theorem StandsIn.eq_or_dropWhile (hb : allowed b) (hr : r.IsMaximal allowed)
    (h : r.StandsIn before (b :: rest)) :
    r = ⟨before, b :: rest.takeWhile allowed, (rest.dropWhile allowed).head?⟩
      ∨ r.StandsIn (some b) (rest.dropWhile allowed) := by
  obtain ⟨before', body, after⟩ := r
  obtain ⟨hne, hall, hbefore, hafter⟩ := hr
  obtain ⟨front, back, htext, hfront, hback⟩ := h
  dsimp only at hne hall hbefore hafter htext hfront hback
  cases front with
  | nil =>
    -- the stretch begins with `b`, so it is the run
    refine .inl ?_
    obtain ⟨c, body, rfl⟩ := List.exists_cons_of_ne_nil hne
    simp only [List.nil_append, List.cons_append, List.cons.injEq] at htext
    obtain ⟨rfl, rfl⟩ := htext
    have hbody : ∀ b ∈ body, allowed b := fun b hb => hall b (List.mem_cons_of_mem _ hb)
    obtain ⟨htake, hdrop⟩ := Text.takeWhile_append_of_stop hbody (hback ▸ hafter)
    rw [htake, hdrop, hback, hfront]
    rfl
  | cons c front =>
    -- what is before the stretch holds a byte that ends the run, so it holds all of the run
    refine .inr ?_
    simp only [List.cons_append, List.cons.injEq] at htext
    obtain ⟨rfl, rfl⟩ := htext
    rw [getLast?_cons_or] at hfront
    cases hlast : front.getLast? with
    | none =>
      rw [hlast] at hfront
      exact absurd hb (by rw [hbefore b hfront]; simp)
    | some d =>
      rw [hlast] at hfront
      have hdrop := getLast?_dropWhile hlast (hbefore d hfront)
      refine ⟨front.dropWhile allowed, back, ?_, by rw [hdrop]; exact hfront, hback⟩
      have hmore : ¬ (front.dropWhile allowed).isEmpty := by
        rw [List.isEmpty_iff]
        rintro hnil
        rw [hnil] at hdrop
        exact absurd hdrop (by simp)
      rw [List.append_assoc, List.dropWhile_append, if_neg hmore, List.append_assoc]

end Run

/-- The runs of a text that `before` precedes, where a run at its beginning is not a part of one
that began before. -/
theorem mem_runsFrom_iff {before : Option UInt8}
    (h : ∀ b ∈ text.head?, allowed b → ∀ c ∈ before, allowed c = false) :
    r ∈ runsFrom allowed before text ↔ r.IsMaximal allowed ∧ r.StandsIn before text := by
  fun_induction runsFrom allowed before text with
  | case1 before =>
    simp only [List.not_mem_nil, false_iff]
    rintro ⟨hr, front, back, htext, -⟩
    have := congrArg List.length htext
    have := List.length_pos_iff.mpr hr.nonempty
    simp only [List.length_nil, List.length_append] at *
    omega
  | case2 before b rest hb tail ih =>
    have hstart : ∀ d ∈ tail.head?, allowed d → ∀ c ∈ some b, allowed c = false := by
      intro d hd hallowed
      exact absurd hallowed (by rw [Text.head?_dropWhile allowed rest d hd]; simp)
    have hrun : Run.IsMaximal allowed ⟨before, b :: rest.takeWhile allowed, tail.head?⟩ := by
      refine ⟨List.cons_ne_nil _ _, fun c hc => ?_, h b rfl hb, Text.head?_dropWhile allowed rest⟩
      rcases List.mem_cons.mp hc with rfl | hc
      · exact hb
      · exact (List.mem_takeWhile_imp hc)
    rw [List.mem_cons, ih hstart]
    constructor
    · rintro (rfl | ⟨hr, hstands⟩)
      · exact ⟨hrun, Run.standsIn_takeWhile b rest before⟩
      · exact ⟨hr, hstands.cons_of_dropWhile hr⟩
    · rintro ⟨hr, hstands⟩
      exact (hstands.eq_or_dropWhile hb hr).imp_right fun hbeyond => ⟨hr, hbeyond⟩
  | case3 before b rest hb ih =>
    have hb : allowed b = false := by simpa using hb
    rw [ih fun _ _ _ c hc => (Option.mem_some.mp hc) ▸ hb]
    exact and_congr_right fun hr => (Run.standsIn_cons_iff_of_not_allowed hr hb).symm

/-- **The runs of a text are its maximal stretches of allowed bytes.** -/
theorem mem_runs_iff : r ∈ runs allowed text ↔ r.IsMaximal allowed ∧ r.StandsIn none text :=
  mem_runsFrom_iff fun _ _ _ c hc => absurd hc (by simp)

end Token

end Blocklist
