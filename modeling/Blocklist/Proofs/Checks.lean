import Mathlib.Data.List.Forall2
/-!
# Checks — what is accepted

When a result comes out of steps that may be refused: every step has given
one, and every check was passed. What each step keeps, a run of them keeps.
-/

namespace Blocklist

variable {ε α β : Type} {e : ε} {a : α} {b : β}

/-- What is accepted after a check has passed it. -/
theorem guard_eq_ok_iff {c : Prop} [Decidable c] {failed : PUnit → Except ε α} {next : Except ε α} :
    (if c then throw e >>= failed else next) = .ok a ↔ ¬ c ∧ next = .ok a := by
  split
  · next h => exact ⟨fun habsurd => (nomatch habsurd), fun hboth => absurd h hboth.1⟩
  · next h => exact ⟨fun hnext => ⟨h, hnext⟩, fun hboth => hboth.2⟩

/-- What a check refuses is refused for its reason, and what it passes for a later one. -/
theorem guard_eq_error_iff {c : Prop} [Decidable c] {reason : ε} {failed : PUnit → Except ε α}
    {next : Except ε α} :
    (if c then throw reason >>= failed else next) = .error e ↔
      c ∧ reason = e ∨ ¬ c ∧ next = .error e := by
  split
  · next h =>
    rw [or_iff_left fun habsurd => habsurd.1 h, and_iff_right h]
    exact ⟨fun heq => Except.error.inj heq, fun heq => congrArg Except.error heq⟩
  · next h => rw [or_iff_right fun habsurd => h habsurd.1, and_iff_right h]

/-- What was done before has given a value as well. -/
@[simp] theorem bind_eq_ok_iff {first : Except ε α} {next : α → Except ε β} :
    (first >>= next) = .ok b ↔ ∃ a, first = .ok a ∧ next a = .ok b := by
  cases first with
  | error e => exact ⟨fun h => (nomatch h), fun ⟨_, h, _⟩ => (nomatch h)⟩
  | ok a => exact ⟨fun h => ⟨a, rfl, h⟩, fun ⟨_, ha, h⟩ => Except.ok.inj ha ▸ h⟩

@[simp] theorem map_eq_ok_iff {first : Except ε α} {g : α → β} :
    first.map g = .ok b ↔ ∃ a, first = .ok a ∧ g a = b := by
  cases first with
  | error e => exact ⟨fun h => (nomatch h), fun ⟨_, h, _⟩ => (nomatch h)⟩
  | ok a => exact ⟨fun h => ⟨a, rfl, Except.ok.inj h⟩, fun ⟨_, ha, h⟩ => by cases ha; exact h ▸ rfl⟩

/-- What is refused is refused at one of the steps. -/
theorem bind_eq_error_iff {first : Except ε α} {next : α → Except ε β} :
    (first >>= next) = .error e ↔ first = .error e ∨ ∃ a, first = .ok a ∧ next a = .error e := by
  cases first with
  | error e' =>
    refine ⟨fun h => .inl (congrArg Except.error (Except.error.inj h)), ?_⟩
    rintro (h | ⟨_, h, _⟩)
    · exact congrArg Except.error (Except.error.inj h)
    · exact nomatch h
  | ok a =>
    refine ⟨fun h => .inr ⟨a, rfl, h⟩, ?_⟩
    rintro (h | ⟨_, ha, h⟩)
    · exact nomatch h
    · exact Except.ok.inj ha ▸ h

@[simp] theorem pure_eq_ok_iff {c : α} : (pure c : Except ε α) = .ok a ↔ c = a :=
  ⟨fun h => Except.ok.inj h, fun h => congrArg Except.ok h⟩

/-- **What each step keeps, a run keeps.** -/
theorem foldlM_induction {P : β → Prop} {step : β → α → Except ε β} {items : List α}
    {start last : β}
    (hstep : ∀ item ∈ items, ∀ b b', P b → step b item = .ok b' → P b') (hstart : P start)
    (h : items.foldlM step start = .ok last) : P last := by
  induction items generalizing start with
  | nil => exact pure_eq_ok_iff.mp h ▸ hstart
  | cons item items ih =>
    rw [List.foldlM_cons, bind_eq_ok_iff] at h
    obtain ⟨next, hnext, h⟩ := h
    refine ih (fun item hitem => hstep item (List.mem_cons_of_mem _ hitem)) ?_ h
    exact hstep item List.mem_cons_self start next hstart hnext

/-- Steps that do the same to each item do the same in a run. -/
theorem foldlM_congr {step step' : β → α → Except ε β} {items : List α} {start : β}
    (h : ∀ item ∈ items, ∀ b, step b item = step' b item) :
    items.foldlM step start = items.foldlM step' start := by
  induction items generalizing start with
  | nil => rfl
  | cons item items ih =>
    rw [List.foldlM_cons, List.foldlM_cons, h item List.mem_cons_self]
    exact congrArg _ (funext fun _ => ih fun item hitem => h item (List.mem_cons_of_mem _ hitem))

theorem mapM_congr {f g : α → Except ε β} {items : List α} (h : ∀ item ∈ items, f item = g item) :
    items.mapM f = items.mapM g := by
  induction items with
  | nil => rfl
  | cons item items ih =>
    rw [List.mapM_cons, List.mapM_cons, h item List.mem_cons_self,
      ih fun item hitem => h item (List.mem_cons_of_mem _ hitem)]

/-- **A run gives results** if every item does, in order. -/
theorem mapM_eq_ok_iff {f : α → Except ε β} {items : List α} {results : List β} :
    items.mapM f = .ok results ↔ List.Forall₂ (fun a b => f a = .ok b) items results := by
  induction items generalizing results with
  | nil => rw [List.mapM_nil, pure_eq_ok_iff, List.forall₂_nil_left_iff, eq_comm]
  | cons item items ih =>
    simp only [List.mapM_cons, bind_eq_ok_iff, pure_eq_ok_iff, ih, List.forall₂_cons_left_iff]
    constructor
    · rintro ⟨first, hfirst, others, hothers, rfl⟩
      exact ⟨first, others, hfirst, hothers, rfl⟩
    · rintro ⟨first, others, hfirst, hothers, rfl⟩
      exact ⟨first, hfirst, others, hothers, rfl⟩

theorem mapM_eq_some_iff {f : α → Option β} {items : List α} {results : List β} :
    items.mapM f = some results ↔ List.Forall₂ (fun a b => f a = some b) items results := by
  induction items generalizing results with
  | nil => simp [eq_comm]
  | cons item items ih =>
    simp only [List.mapM_cons, Option.bind_eq_bind, Option.bind_eq_some_iff, Option.pure_def,
      Option.some.injEq, ih, List.forall₂_cons_left_iff]
    constructor
    · rintro ⟨first, hfirst, others, hothers, rfl⟩
      exact ⟨first, others, hfirst, hothers, rfl⟩
    · rintro ⟨first, others, hfirst, hothers, rfl⟩
      exact ⟨first, hfirst, others, hothers, rfl⟩

/-- A run that is refused is refused at an item. -/
theorem exists_of_mapM_eq_error {f : α → Except ε β} {items : List α}
    (h : items.mapM f = .error e) : ∃ item ∈ items, f item = .error e := by
  induction items with
  | nil => cases h
  | cons item items ih =>
    rw [List.mapM_cons, bind_eq_error_iff] at h
    rcases h with hfirst | ⟨_, -, h⟩
    · exact ⟨item, List.mem_cons_self, hfirst⟩
    · rcases bind_eq_error_iff.mp h with hothers | ⟨_, -, h⟩
      · obtain ⟨found, hfound, herror⟩ := ih hothers
        exact ⟨found, List.mem_cons_of_mem _ hfound, herror⟩
      · cases h

/-- What stands in a row has something beside it in the other. -/
theorem exists_of_forall₂ {R : α → β → Prop} {left : List α} {right : List β}
    (h : List.Forall₂ R left right) (ha : a ∈ left) : ∃ b ∈ right, R a b := by
  induction h with
  | nil => exact absurd ha List.not_mem_nil
  | cons hfirst _ ih =>
    rcases List.mem_cons.mp ha with rfl | ha
    · exact ⟨_, List.mem_cons_self, hfirst⟩
    · obtain ⟨b, hb, hab⟩ := ih ha
      exact ⟨b, List.mem_cons_of_mem _ hb, hab⟩

/-- Every result is that of an item. -/
theorem exists_of_mem_mapM {f : α → Except ε β} {items : List α} {results : List β}
    (h : items.mapM f = .ok results) (hb : b ∈ results) : ∃ item ∈ items, f item = .ok b :=
  exists_of_forall₂ (mapM_eq_ok_iff.mp h).flip hb

end Blocklist
