import Blocklist.Engine.Compile
import Blocklist.Proofs.Engine.Scan
import Blocklist.Proofs.Rule.CosmeticForm
import Blocklist.Proofs.Rule.Tidied
import Blocklist.Proofs.Snapshot.RoundTrip
/-!
# Engine — from a list to a verdict

The engine of a list is made in steps: the lines are read, the filters are
tidied and filed, and what is filed may be written as a snapshot and loaded
again. Each step is told by a result of its own; here they meet. An engine
serves a list if it was compiled of the list, or loaded from the snapshot of
such an engine (`Engine.Serves`), and either way it is the same engine
(`Engine.Serves.eq_compile`).

What the engine decides is told by the lines. No request is blocked unless a
line asks for it (`Engine.Serves.exists_asks_of_block`), however many tokens
the request has. Where its tokens fit, and no two filters that lines ask for
share an id by accident, it is blocked exactly if some line blocks it and no
line allows it (`Engine.Serves.decision_eq_block_iff`).
-/

namespace Blocklist

variable {idna : ToAscii} {regex : RegexCheck} {options : ListOptions} {text : String}
variable {line : List Char}

/-! ## The filters of the lines -/

namespace RuleList

/-- The filters of a list are those that its lines are read as. -/
theorem mem_network_ofText {f : NetworkFilter} : f ∈ (ofText idna regex options text).network ↔
    ∃ line ∈ linesOf text, LineOutcome.ofLine idna regex options line = .network f := by
  simp only [ofText, List.filterMap_map, List.mem_filterMap, Function.comp_apply]
  refine exists_congr fun line => and_congr_right fun _ => ?_
  cases LineOutcome.ofLine idna regex options line <;> simp

theorem mem_cosmetic_ofText {f : CosmeticFilter} : f ∈ (ofText idna regex options text).cosmetic ↔
    ∃ line ∈ linesOf text, LineOutcome.ofLine idna regex options line = .cosmetic f := by
  simp only [ofText, List.filterMap_map, List.mem_filterMap, Function.comp_apply]
  refine exists_congr fun line => and_congr_right fun _ => ?_
  cases LineOutcome.ofLine idna regex options line <;> simp

/-- A line is a cosmetic filter as the line by itself is. -/
theorem ofLine_of_outcome_cosmetic {f : CosmeticFilter}
    (h : LineOutcome.ofLine idna regex options line = .cosmetic f) :
    CosmeticFilter.ofLine idna options.keepLines (String.ofList line) = .ok f := by
  rw [LineOutcome.ofLine] at h
  split at h
  · cases h
  · split at h
    · cases h
    · split at h <;> cases h
  · split at h
    · cases h
    · split at h
      · next hread =>
        cases h
        exact hread
      · cases h

/-- A line of a list asks for a filter: it is read as the filter, which cancels no other and is not
cancelled by any line. -/
structure Asks (idna : ToAscii) (regex : RegexCheck) (options : ListOptions) (text : String)
    (line : List Char) (f : NetworkFilter) : Prop where
  /-- The line is one of the list. -/
  mem : line ∈ linesOf text
  /-- It is read as the filter. -/
  read : LineOutcome.ofLine idna regex options line = .network f
  /-- The filter cancels no other. -/
  lasting : ¬ f.mask.has .badfilter
  /-- No line cancels the filter. -/
  spared : ∀ other ∈ linesOf text, ∀ b,
    LineOutcome.ofLine idna regex options other = .network b → b.mask.has .badfilter →
      b.targetId ≠ f.id

/-- Whether the lines of a list block a request: a filter that is asked for blocks it, and none
allows it. -/
def Blocks (idna : ToAscii) (regex : RegexCheck) (options : ListOptions) (text : String)
    (search : RegexSearch) (r : Request) : Prop :=
  (∃ line f, Asks idna regex options text line f ∧ f.decides ∧ f.blocks ∧ f.isMatchBy search r) ∧
    ¬ ∃ line f, Asks idna regex options text line f ∧ f.decides ∧ f.allows ∧ f.isMatchBy search r

/-- Whether what lines ask for is told apart by ids: filters of one id are the same, but for the
lines that they keep. -/
def ToldApart (idna : ToAscii) (regex : RegexCheck) (options : ListOptions) (text : String) :
    Prop :=
  ∀ line f other g, Asks idna regex options text line f → Asks idna regex options text other g →
    f.id = g.id → { f with rawLine := none } = { g with rawLine := none }

/-- So it is where no two filters of the list have one id. -/
theorem toldApart_of_nodup
    (h : ((ofText idna regex options text).network.map NetworkFilter.id).Nodup) :
    ToldApart idna regex options text := by
  intro line f other g hf hg hid
  have hmem := mem_network_ofText.mpr ⟨line, hf.mem, hf.read⟩
  have hmem' := mem_network_ofText.mpr ⟨other, hg.mem, hg.read⟩
  rw [List.inj_on_of_nodup_map h hmem hmem' hid]

example : ToldApart Idna.toAscii? .compiled {} "||ads.example.com^\n@@||ads.example.com/ok/" :=
  toldApart_of_nodup (by decide +kernel)

end RuleList

open RuleList

namespace Engine

/-! ## Compiled -/

/-- **Every filter of the engine of a list was asked for** by a line. -/
theorem exists_asks_of_mem_compile {f : NetworkFilter}
    (h : f ∈ (compile idna regex options text).network.toList) :
    ∃ line, Asks idna regex options text line f := by
  obtain ⟨positions, hkeeps⟩ := exists_keepsFirst_network_tidy
    (ofText idna regex options text).network (ofText idna regex options text).cosmetic
  obtain ⟨hmem, hlasting, hspared⟩ := hkeeps.of_mem h
  obtain ⟨line, hline, hread⟩ := mem_network_ofText.mp hmem
  exact ⟨line, hline, hread, hlasting, fun other hother b hb =>
    hspared b (mem_network_ofText.mpr ⟨other, hother, hb⟩)⟩

/-- **The engine of a list has the id of every filter that is asked for.** -/
theorem exists_mem_compile_of_asks {f : NetworkFilter}
    (h : Asks idna regex options text line f) :
    ∃ g ∈ (compile idna regex options text).network.toList, g.id = f.id := by
  obtain ⟨positions, hkeeps⟩ := exists_keepsFirst_network_tidy
    (ofText idna regex options text).network (ofText idna regex options text).cosmetic
  refine List.mem_map.mp (hkeeps.mem_map_iff.mpr ⟨f, ?_, ⟨h.lasting, fun b hb => ?_⟩, rfl⟩)
  · exact mem_network_ofText.mpr ⟨line, h.mem, h.read⟩
  · obtain ⟨other, hother, hread⟩ := mem_network_ofText.mp hb
    exact h.spared other hother b hread

/-- The masks of cosmetic filters that are read have known options only, so the engine of a list is
one that a snapshot can hold. -/
theorem isSound_compile (idna : ToAscii) (regex : RegexCheck) (options : ListOptions)
    (text : String) : (compile idna regex options text).IsSound := by
  refine isSound_build _ fun f hf => ?_
  obtain ⟨positions, hkeeps⟩ := exists_keepsFirst_cosmetic_tidy
    (ofText idna regex options text).network (ofText idna regex options text).cosmetic
  obtain ⟨line, -, hread⟩ := mem_cosmetic_ofText.mp (hkeeps.of_mem hf).1
  exact (CosmeticFilter.wellFormed_of_ofLine_eq_ok (ofLine_of_outcome_cosmetic hread)).known

/-! ## Compiled or loaded -/

/-- How an engine comes to serve a list: it was compiled of the list, or loaded from the snapshot of
an engine that was. -/
inductive Serves (idna : ToAscii) (regex : RegexCheck) (options : ListOptions) (text : String) :
    Engine → Prop
  | compiled : Serves idna regex options text (compile idna regex options text)
  | loaded {e e' : Engine} (h : Serves idna regex options text e)
      (hlength : e.snapshot.length < 2 ^ 32) (hload : ofSnapshot e.snapshot = .ok e') :
      Serves idna regex options text e'

variable {e : Engine} {search : RegexSearch} {r : Request}

/-- **Only one engine serves a list**, however often it was written and loaded. -/
theorem Serves.eq_compile (h : Serves idna regex options text e) :
    e = compile idna regex options text := by
  induction h with
  | compiled => rfl
  | loaded _ hlength hload ih =>
    subst ih
    have hsound := isSound_compile idna regex options text
    exact Except.ok.inj (hload.symm.trans (ofSnapshot_snapshot hsound hlength))

/-- An engine that serves a list is read from its own snapshot. -/
theorem Serves.load_snapshot (h : Serves idna regex options text e)
    (hlength : e.snapshot.length < 2 ^ 32) : ofSnapshot e.snapshot = .ok e := by
  rw [h.eq_compile] at hlength ⊢
  exact ofSnapshot_snapshot (isSound_compile idna regex options text) hlength

/-! ## Verdicts -/

/-- **Nothing is blocked that no line asks for**: the filter that blocks is one that a line asks
for, and it matches. -/
theorem Serves.exists_asks_of_block (h : Serves idna regex options text e)
    (hblock : (e.decideBy search r).decision = .block) : ∃ line f,
      Asks idna regex options text line f ∧ f.blocks ∧ f.isMatchBy search r ∧
        (e.decideBy search r).filterId = some f.id := by
  rw [h.eq_compile, compile, decideBy_build_reached] at hblock ⊢
  obtain ⟨f, hf, hblocks, hmatch, hid⟩ := exists_mem_of_scan_block hblock
  obtain ⟨line, hasks⟩ := exists_asks_of_mem_compile (List.mem_of_mem_filter hf)
  exact ⟨line, f, hasks, hblocks, hmatch, hid⟩

/-- A filter that is asked for has one in the engine that does what it does. -/
theorem exists_mem_compile_iff_of_toldApart {does : NetworkFilter → Prop}
    (hids : ToldApart idna regex options text)
    (hdoes : ∀ f, does f ↔ does { f with rawLine := none }) :
    (∃ f ∈ (compile idna regex options text).network.toList, does f) ↔
      ∃ line f, Asks idna regex options text line f ∧ does f := by
  constructor
  · rintro ⟨f, hf, hdoesf⟩
    obtain ⟨line, hasks⟩ := exists_asks_of_mem_compile hf
    exact ⟨line, f, hasks, hdoesf⟩
  · rintro ⟨line, f, hasks, hdoesf⟩
    obtain ⟨g, hg, hid⟩ := exists_mem_compile_of_asks hasks
    obtain ⟨other, hother⟩ := exists_asks_of_mem_compile hg
    refine ⟨g, hg, (hdoes g).mpr ?_⟩
    rw [hids other g line f hother hasks hid]
    exact (hdoes f).mp hdoesf

/-- **A request is blocked exactly if some line blocks it and no line allows it**, where its tokens
fit and ids tell apart what lines ask for. -/
theorem Serves.decision_eq_block_iff (h : Serves idna regex options text e)
    (hids : ToldApart idna regex options text) (hfits : r.tokens.length ≤ tokenCapacity) :
    (e.decideBy search r).decision = .block ↔ Blocks idna regex options text search r := by
  rw [h.eq_compile, compile, decideBy_build_reached, scan_reached_of_fits hfits,
    scan_decision_eq_block_iff]
  exact and_congr (exists_mem_compile_iff_of_toldApart hids fun _ => Iff.rfl)
    (not_congr (exists_mem_compile_iff_of_toldApart hids fun _ => Iff.rfl))

end Engine

end Blocklist
