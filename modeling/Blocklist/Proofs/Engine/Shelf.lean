import Blocklist.Engine.Shelf
import Blocklist.Proofs.Engine.Compiled
/-!
# Engine — what comes of engines in use

Engines are put to use and put aside in any order (`Shelf.run`). The one in use
is the one that was put to use last (`Shelf.current_run`), and under a name
stands the one that was in use when the name was given last, whatever was put
to use since (`Shelf.find?_run_hold`). What holds of the engines that are put
to use holds of all on the shelf (`Shelf.All.run`).

So whoever selects an engine by its name gets the verdicts of the list that was
served when the name was given (`Shelf.decision_of_hold`); and an engine that
is selected at any time serves one of the lists that were put to use
(`Shelf.exists_serves_of_select?`).
-/

namespace Blocklist

namespace Shelf

variable {s : Shelf} {name : String} {e : Engine} {P : Engine → Prop}

/-- What is done to a shelf. -/
inductive Action where
  /-- Another engine is put to use. -/
  | replace (e : Engine)
  /-- The engine in use is put aside under a name. -/
  | hold (name : String)

/-- The shelf after an action. -/
def act (s : Shelf) : Action → Shelf
  | .replace e => s.replace e
  | .hold name => s.hold name

/-- The shelf after actions, one after the other. -/
def run (s : Shelf) (actions : List Action) : Shelf := actions.foldl act s

@[simp] theorem run_nil (s : Shelf) : s.run [] = s := rfl

@[simp] theorem run_cons (s : Shelf) (action : Action) (actions : List Action) :
    s.run (action :: actions) = (s.act action).run actions := rfl

theorem run_append (s : Shelf) (before after : List Action) :
    s.run (before ++ after) = (s.run before).run after := List.foldl_append

/-! ## The engine in use -/

/-- The engine that an action puts to use. -/
def Action.engine? : Action → Option Engine
  | .replace e => some e
  | .hold _ => none

theorem current_act (s : Shelf) (action : Action) :
    (s.act action).current = action.engine?.getD s.current := by
  cases action <;> rfl

/-- **In use is the engine that was put to use last**; names change nothing. -/
theorem current_run (s : Shelf) (actions : List Action) :
    (s.run actions).current = ((actions.filterMap Action.engine?).getLast?).getD s.current := by
  induction actions generalizing s with
  | nil => rfl
  | cons action actions ih =>
    rw [run_cons, ih, current_act]
    cases action with
    | hold name => rfl
    | replace e =>
      rw [List.filterMap_cons_some (show (Action.replace e).engine? = some e from rfl),
        List.getLast?_cons]
      cases (actions.filterMap Action.engine?).getLast? <;> rfl

/-! ## Engines put aside -/

theorem find?_act {action : Action} (h : action ≠ .hold name) :
    (s.act action).find? name = s.find? name := by
  cases action with
  | replace e => rfl
  | hold other =>
    have hother : (name == other) = false := by
      rw [beq_eq_false_iff_ne]
      rintro rfl
      exact h rfl
    rw [act, find?_hold, hother]
    rfl

/-- **What stands under a name stays** until the name is given again. -/
theorem find?_run {actions : List Action} (h : .hold name ∉ actions) :
    (s.run actions).find? name = s.find? name := by
  induction actions generalizing s with
  | nil => rfl
  | cons action actions ih =>
    rw [List.mem_cons, not_or] at h
    rw [run_cons, ih h.2, find?_act (Ne.symm h.1)]

/-- **Under a name stands the engine that was in use** when the name was given last. -/
theorem find?_run_hold {before after : List Action} (h : .hold name ∉ after) :
    (s.run (before ++ .hold name :: after)).find? name = some (s.run before).current := by
  rw [run_append, run_cons, find?_run h, act, find?_hold, beq_self_eq_true, if_pos rfl]

/-! ## All engines -/

/-- What holds of the engine in use and of all that are put aside. -/
structure All (P : Engine → Prop) (s : Shelf) : Prop where
  /-- It holds of the engine in use. -/
  current : P s.current
  /-- It holds of those put aside. -/
  held : ∀ p ∈ s.held, P p.2

/-- No action makes an engine, so what holds of the one that is put to use holds of all. -/
theorem All.act (h : s.All P) {action : Action} (haction : ∀ e ∈ action.engine?, P e) :
    (s.act action).All P := by
  cases action with
  | replace e => exact ⟨haction e rfl, h.held⟩
  | hold name => exact ⟨h.current, List.forall_mem_cons.mpr ⟨h.current, h.held⟩⟩

/-- **What holds of the engines that are put to use holds of all on the shelf.** -/
theorem All.run (h : s.All P) {actions : List Action}
    (hactions : ∀ e, .replace e ∈ actions → P e) : (s.run actions).All P := by
  induction actions generalizing s with
  | nil => exact h
  | cons action actions ih =>
    refine ih (h.act fun e he => hactions e ?_) fun e he => hactions e (List.mem_cons_of_mem _ he)
    cases action <;> cases he
    exact List.mem_cons_self

theorem All.select? (h : s.All P) {choice : Option String} (hselect : s.select? choice = some e) :
    P e := by
  cases choice with
  | none =>
    cases hselect
    exact h.current
  | some name =>
    obtain ⟨before, after, hheld, -⟩ := List.lookup_eq_some_iff.mp hselect
    refine h.held (name, e) ?_
    rw [hheld]
    exact List.mem_append_right before List.mem_cons_self

/-! ## Lists that are served -/

variable {idna : ToAscii} {regex : RegexCheck} {options : ListOptions} {text : String}

/-- The engine without filters is that of a list without lines. -/
theorem serves_empty (options : ListOptions) : Engine.empty.Serves idna regex options "" := by
  have hlist : RuleList.ofText idna regex options "" = ⟨[], [], []⟩ := rfl
  have hbuild : Engine.empty = .build [] [] := by decide +kernel
  have hcompile : Engine.empty = .compile idna regex options "" := by
    rw [Engine.compile, hlist, hbuild]
    rfl
  rw [hcompile]
  exact .compiled

/-- **An engine that is selected serves one of the lists** that were put to use, or none was and it
serves the empty list. -/
theorem exists_serves_of_select? {actions : List Action} {choice : Option String}
    (hactions : ∀ e, .replace e ∈ actions → ∃ options text, e.Serves idna regex options text)
    (hselect : (run {} actions).select? choice = some e) :
    ∃ options text, e.Serves idna regex options text := by
  have hempty : All (fun e => ∃ options text, e.Serves idna regex options text) {} :=
    ⟨⟨{}, "", serves_empty {}⟩, fun p hp => absurd hp List.not_mem_nil⟩
  exact (hempty.run hactions).select? hselect

/-- **A name keeps its list**: whatever was put to use since, a request is blocked by the engine of
a name exactly if the lines of the list block it that was served when the name was given. -/
theorem decision_of_hold {before after : List Action} {search : RegexSearch} {r : Request}
    (hserves : (s.run before).current.Serves idna regex options text)
    (hafter : .hold name ∉ after) (hids : RuleList.ToldApart idna regex options text)
    (hfits : r.tokens.length ≤ tokenCapacity) :
    ∃ e, (s.run (before ++ .hold name :: after)).select? (some name) = some e ∧
      ((e.decideBy search r).decision = .block ↔
        RuleList.Blocks idna regex options text search r) :=
  ⟨(s.run before).current, find?_run_hold hafter, hserves.decision_eq_block_iff hids hfits⟩

end Shelf

end Blocklist
