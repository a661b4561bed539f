import Blocklist.Proofs.Text.Cut
import Blocklist.Rule.List
/-!
# Rules — a list is read line by line

What a line gives a list (`contribution`) hangs on the line, its number and
the options, and a list is what its lines give, one after the other
(`ofText_eq`). Main statement (`ofText_linewise`): two lists, the one below
the other, are read as each is by itself, with the lines of the second
counted on from those of the first; and a line that is read gives one filter
or one refusal, all others nothing.
-/

namespace Blocklist

/-- Whether a line is read: it is of a kind, and lines of that kind are read. -/
def ListOptions.reads (options : ListOptions) (line : List Char) : Bool :=
  match RuleKind.ofLine? line with
  | none => false
  | some .network => options.network
  | some .cosmetic => options.cosmetic

/-- The refusal of a line that stands so many lines further down. -/
def Refusal.later (lines : Nat) (refusal : Refusal) : Refusal :=
  { refusal with number := refusal.number + lines }

namespace RuleList

variable {idna : ToAscii} {regex : RegexCheck} {options : ListOptions} {line : List Char}

/-- What a text is read as that stands so many lines further down. -/
def later (lines : Nat) (list : RuleList) : RuleList :=
  { list with refused := list.refused.map (Refusal.later lines) }

/-- What a line with a number gives a list. -/
def contribution (idna : ToAscii) (regex : RegexCheck) (options : ListOptions) (number : Nat)
    (line : List Char) : RuleList :=
  match LineOutcome.ofLine idna regex options line with
  | .skipped => ⟨[], [], []⟩
  | .network filter => ⟨[filter], [], []⟩
  | .cosmetic filter => ⟨[], [filter], []⟩
  | .refused reason => ⟨[], [], [⟨number, String.ofList line, reason⟩]⟩

/-- What lines give, each by itself; the first has this number. -/
def contributions (idna : ToAscii) (regex : RegexCheck) (options : ListOptions) (number : Nat)
    (lines : List (List Char)) : List RuleList :=
  (lines.zipIdx number).map fun (line, number) => contribution idna regex options number line

/-- One filter, or one refusal of a line, and nothing else. -/
def IsSingle (number : Nat) (line : List Char) (part : RuleList) : Prop :=
  (∃ filter, part = ⟨[filter], [], []⟩) ∨ (∃ filter, part = ⟨[], [filter], []⟩)
    ∨ ∃ reason, part = ⟨[], [], [⟨number, String.ofList line, reason⟩]⟩

/-! ## Lines -/

/-- Which lines are passed over. -/
theorem ofLine_eq_skipped_iff :
    LineOutcome.ofLine idna regex options line = .skipped ↔ options.reads line = false := by
  rw [LineOutcome.ofLine, ListOptions.reads]
  cases RuleKind.ofLine? line with
  | none => simp
  | some kind =>
    cases kind with
    | network =>
      cases options.network with
      | false => simp
      | true =>
        cases NetworkFilter.ofLine idna regex options.keepLines (String.ofList line) <;> simp
    | cosmetic =>
      cases options.cosmetic with
      | false => simp
      | true => cases CosmeticFilter.ofLine idna options.keepLines (String.ofList line) <;> simp

/-- A line that is read gives one filter or one refusal, any other nothing. -/
theorem contribution_cases (idna : ToAscii) (regex : RegexCheck) (options : ListOptions)
    (number : Nat) (line : List Char) :
    if options.reads line then (contribution idna regex options number line).IsSingle number line
    else contribution idna regex options number line = ⟨[], [], []⟩ := by
  rw [contribution]
  split
  · next hreads =>
    cases houtcome : LineOutcome.ofLine idna regex options line with
    | skipped =>
      rw [ofLine_eq_skipped_iff.mp houtcome] at hreads
      exact nomatch hreads
    | network filter => exact .inl ⟨filter, rfl⟩
    | cosmetic filter => exact .inr (.inl ⟨filter, rfl⟩)
    | refused reason => exact .inr (.inr ⟨reason, rfl⟩)
  · next hskipped => rw [ofLine_eq_skipped_iff.mpr (Bool.eq_false_iff.mpr hskipped)]

/-- The number of a line shows in its refusal alone. -/
theorem contribution_add (number down : Nat) (line : List Char) :
    contribution idna regex options (number + down) line
      = (contribution idna regex options number line).later down := by
  rw [contribution, contribution]
  cases LineOutcome.ofLine idna regex options line <;> rfl

/-! ## Several lines -/

theorem contributions_append (number : Nat) (lines lines' : List (List Char)) :
    contributions idna regex options number (lines ++ lines')
      = contributions idna regex options number lines
        ++ contributions idna regex options (number + lines.length) lines' := by
  rw [contributions, List.zipIdx_append, List.map_append]
  rfl

/-- Lines further down give what they give further up, with greater numbers. -/
theorem contributions_add (number down : Nat) (lines : List (List Char)) :
    contributions idna regex options (number + down) lines
      = (contributions idna regex options number lines).map (later down) := by
  rw [contributions, contributions, Nat.add_comm, ← List.map_snd_add_zipIdx_eq_zipIdx, List.map_map,
    List.map_map]
  exact congrArg (List.map · _) (funext fun ⟨line, number⟩ => contribution_add number down line)

/-! ## Texts -/

/-- **A list is what its lines give**, one after the other. -/
theorem ofText_eq (idna : ToAscii) (regex : RegexCheck) (options : ListOptions) (text : String) :
    ofText idna regex options text =
      ⟨(contributions idna regex options 1 (linesOf text)).flatMap network,
      (contributions idna regex options 1 (linesOf text)).flatMap cosmetic,
      (contributions idna regex options 1 (linesOf text)).flatMap refused⟩ := by
  have hlines : linesOf text = ((linesOf text).zipIdx 1).map Prod.fst :=
    (List.zipIdx_map_fst 1 _).symm
  simp only [ofText, contributions, List.filterMap_eq_flatMap_toList, List.flatMap_map,
    List.zipIdx_map, mk.injEq]
  refine ⟨?_, ?_, ?_⟩
  · conv_lhs => rw [hlines, List.flatMap_map]
    refine congrArg (List.flatMap · _) (funext fun ⟨line, number⟩ => ?_)
    rw [contribution]
    cases LineOutcome.ofLine idna regex options line <;> rfl
  · conv_lhs => rw [hlines, List.flatMap_map]
    refine congrArg (List.flatMap · _) (funext fun ⟨line, number⟩ => ?_)
    rw [contribution]
    cases LineOutcome.ofLine idna regex options line <;> rfl
  · refine congrArg (List.flatMap · _) (funext fun ⟨line, number⟩ => ?_)
    rw [contribution]
    simp only [Prod.map]
    cases LineOutcome.ofLine idna regex options line <;> rfl

theorem linesOf_append (a b : String) : linesOf (a ++ "\n" ++ b) = linesOf a ++ linesOf b := by
  have hpieces : ((a ++ "\n" ++ b).toList).splitOn '\n'
      = a.toList.splitOn '\n' ++ b.toList.splitOn '\n' := by
    rw [String.toList_append, String.toList_append, List.append_assoc]
    exact List.splitOn_append_cons_self a.toList b.toList
  rw [linesOf, hpieces, List.map_append]
  rfl

theorem length_linesOf (text : String) :
    (linesOf text).length = text.toList.count '\n' + 1 := by
  rw [linesOf, List.length_map, Text.length_splitOn]

/-- **Lists are read line by line.** Of two texts, the one below the other, each is read as it is by
itself, and the lines of the second count on from those of the first. What a text is read as is what
its lines give in turn: a line that is read gives one filter or one refusal, any other nothing. -/
theorem ofText_linewise (idna : ToAscii) (regex : RegexCheck) (options : ListOptions) :
    (∀ a b : String,
      (ofText idna regex options (a ++ "\n" ++ b)).network
          = (ofText idna regex options a).network ++ (ofText idna regex options b).network ∧
      (ofText idna regex options (a ++ "\n" ++ b)).cosmetic
          = (ofText idna regex options a).cosmetic ++ (ofText idna regex options b).cosmetic ∧
      (ofText idna regex options (a ++ "\n" ++ b)).refused
          = (ofText idna regex options a).refused
            ++ (ofText idna regex options b).refused.map
                (Refusal.later (a.toList.count '\n' + 1))) ∧
    (∀ text : String,
      (ofText idna regex options text).network
          = (contributions idna regex options 1 (linesOf text)).flatMap network ∧
      (ofText idna regex options text).cosmetic
          = (contributions idna regex options 1 (linesOf text)).flatMap cosmetic ∧
      (ofText idna regex options text).refused
          = (contributions idna regex options 1 (linesOf text)).flatMap refused) ∧
    ∀ (number : Nat) (line : List Char),
      if options.reads line then (contribution idna regex options number line).IsSingle number line
      else contribution idna regex options number line = ⟨[], [], []⟩ := by
  refine ⟨fun a b => ?_, fun text => ?_, contribution_cases idna regex options⟩
  · simp only [ofText_eq, linesOf_append, contributions_append, contributions_add,
      List.flatMap_append, List.flatMap_map, List.map_flatMap, length_linesOf]
    exact ⟨rfl, rfl, rfl⟩
  · rw [ofText_eq]
    exact ⟨rfl, rfl, rfl⟩

end RuleList

end Blocklist
