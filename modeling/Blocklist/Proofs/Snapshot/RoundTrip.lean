import Blocklist.Proofs.Engine.Filing
import Blocklist.Proofs.Snapshot.Assemble
import Blocklist.Proofs.Snapshot.Record
/-!
# Snapshots — an engine comes back as it was

Main statements: an engine whose indexes are filed as they should be, and
whose cosmetic filters have known options only, is read from its own
snapshot (`ofSnapshot_snapshot`); and every engine that was built of filters
is of this kind (`isSound_build`).
-/

namespace Blocklist

/-- An engine that a snapshot can hold. -/
structure Engine.IsSound (e : Engine) : Prop where
  /-- Cosmetic filters have known options only. -/
  known : ∀ f ∈ e.cosmetic.toList, f.mask.IsKnown
  /-- The indexes are filed as they should be. -/
  filed : e.indexes.AreFiled e.network.size e.cosmetic.size

namespace Engine

variable {e : Engine}

/-! ## Built of filters -/

/-- **An engine that was built of filters is sound**, where the cosmetic ones are. -/
theorem isSound_build (network : List NetworkFilter) {cosmetic : List CosmeticFilter}
    (hknown : ∀ f ∈ cosmetic, f.mask.IsKnown) : (Engine.build network cosmetic).IsSound :=
  ⟨hknown, areFiled_build network cosmetic⟩

/-! ## Read from its snapshot -/

theorem nodup_part_ofEngine (e : Engine) :
    ((SectionData.ofEngine e).map SectionData.part).Nodup := by
  show [Section.networkFilters, .cosmeticFilters, .blockIndex, .exceptionIndex, .redirectIndex,
    .cspIndex, .hostIndex, .genericIndex].Nodup
  decide

theorem length_le_length_list {α : Type} {write : α → List UInt8}
    (hwrite : ∀ a, 0 < (write a).length) (items : List α) :
    items.length ≤ (Record.list write items).length := by
  have h := Reader.length_le_length_flatMap hwrite items
  rw [Record.list, List.length_append]
  omega

theorem length_network_pos (f : NetworkFilter) : 0 < (Record.network f).length := by
  simp [Record.network, LittleEndian.ofWord]

theorem length_cosmetic_pos (f : CosmeticFilter) : 0 < (Record.cosmetic f).length := by
  simp [Record.cosmetic]

theorem length_bytes_lt (hlength : e.snapshot.length < 2 ^ 32) {s : SectionData}
    (hs : s ∈ SectionData.ofEngine e) : s.bytes.length < 2 ^ 32 :=
  Nat.lt_of_le_of_lt (Snapshot.length_bytes_le_length hs) hlength

/-- Each record takes a byte at least, so 32 bits hold the positions of those of a section. -/
theorem size_le_of_mem {α : Type} {write : α → List UInt8} (hwrite : ∀ a, 0 < (write a).length)
    (hlength : e.snapshot.length < 2 ^ 32) {items : Array α} {part : Section}
    (hmem : ⟨part, items.size, Record.list write items.toList⟩ ∈ SectionData.ofEngine e) :
    items.size ≤ 2 ^ 32 := by
  have hsize := length_le_length_list hwrite items.toList
  rw [Array.length_toList] at hsize
  exact Nat.le_of_lt (Nat.lt_of_le_of_lt hsize (length_bytes_lt hlength hmem))

/-- **An engine is read from its own snapshot.** -/
theorem ofSnapshot_snapshot (h : e.IsSound) (hlength : e.snapshot.length < 2 ^ 32) :
    Engine.ofSnapshot e.snapshot = .ok e := by
  have hnetworkMem : ⟨.networkFilters, e.network.size, Record.list Record.network e.network.toList⟩
      ∈ SectionData.ofEngine e := by simp [SectionData.ofEngine]
  have hcosmeticMem :
      ⟨.cosmeticFilters, e.cosmetic.size, Record.list Record.cosmetic e.cosmetic.toList⟩
        ∈ SectionData.ofEngine e := by simp [SectionData.ofEngine]
  have hnetworkSize := size_le_of_mem length_network_pos hlength hnetworkMem
  have hcosmeticSize := size_le_of_mem length_cosmetic_pos hlength hcosmeticMem
  have hindex : ∀ part index limit, limit ≤ 2 ^ 32 → index.IsFiled limit →
      ⟨part, index.buckets.length, Record.index index⟩ ∈ SectionData.ofEngine e →
      (Snapshot.loaded (SectionData.ofEngine e)).index part limit = .ok index :=
    fun part index limit hlimit hfiled hmem =>
      Snapshot.readSection_assemble (nodup_part_ofEngine e) hmem
        (Reader.readsAll_index hlimit hfiled (length_bytes_lt hlength hmem))
  have hnetwork : (Snapshot.loaded (SectionData.ofEngine e)).network = .ok e.network.toList :=
    Snapshot.readSection_assemble (nodup_part_ofEngine e) hnetworkMem
      (Reader.readsAll_list length_network_pos (fun f _ => Reader.reads_network f)
        (length_bytes_lt hlength hnetworkMem))
  have hcosmetic : (Snapshot.loaded (SectionData.ofEngine e)).cosmetic = .ok e.cosmetic.toList :=
    Snapshot.readSection_assemble (nodup_part_ofEngine e) hcosmeticMem
      (Reader.readsAll_list length_cosmetic_pos
        (fun f hf => Reader.reads_cosmetic f (h.known f hf)) (length_bytes_lt hlength hcosmeticMem))
  refine Engine.ofSnapshot_eq_ok_iff.mpr ⟨_, Snapshot.load_assemble hlength, ?_⟩
  refine Snapshot.engine_eq_ok_iff.mpr ⟨hnetwork, hcosmetic, ?_, ?_, ?_, ?_, ?_, ?_⟩
  · exact hindex _ _ _ hnetworkSize h.filed.blocks (by simp [SectionData.ofEngine])
  · exact hindex _ _ _ hnetworkSize h.filed.exceptions (by simp [SectionData.ofEngine])
  · exact hindex _ _ _ hnetworkSize h.filed.redirects (by simp [SectionData.ofEngine])
  · exact hindex _ _ _ hnetworkSize h.filed.csp (by simp [SectionData.ofEngine])
  · exact hindex _ _ _ hcosmeticSize h.filed.byHost (by simp [SectionData.ofEngine])
  · exact hindex _ _ _ hcosmeticSize h.filed.generic (by simp [SectionData.ofEngine])

/-! ## Two filters -/

/-- A network filter with every bit of its mask set, no pattern and an empty value. -/
def fullFilter : NetworkFilter := { mask := ⟨0xffffffff⟩, pattern := "", value := some "" }

/-- A cosmetic filter that cancels others. -/
def unhideFilter : CosmeticFilter := { mask := .make [.unhide], selector := "a" }

theorem isKnown_of_mem_unhideFilter : ∀ f ∈ [unhideFilter], f.mask.IsKnown := by
  intro f hf
  rw [List.mem_singleton.mp hf]
  show unhideFilter.mask.word >>> 3 = 0
  decide

theorem length_snapshot_fullFilter_le :
    (Engine.build [fullFilter] [unhideFilter]).snapshot.length ≤ 1024 := by
  decide +kernel

theorem length_snapshot_fullFilter :
    (Engine.build [fullFilter] [unhideFilter]).snapshot.length < 2 ^ 32 :=
  Nat.lt_of_le_of_lt length_snapshot_fullFilter_le (by decide)

/-! ## Built, written and read -/

/-- **What was built of filters comes back whole**: the same filters in the same order, with texts
that are missing apart from those that are empty, and the same indexes. So it gives every answer as
before, and its snapshot is the same. -/
theorem ofSnapshot_snapshot_build (network : List NetworkFilter) (cosmetic : List CosmeticFilter)
    (hknown : ∀ f ∈ cosmetic, f.mask.IsKnown)
    (hlength : (Engine.build network cosmetic).snapshot.length < 2 ^ 32) :
    Engine.ofSnapshot (Engine.build network cosmetic).snapshot
      = .ok ⟨network.toArray, cosmetic.toArray, .build network cosmetic⟩ :=
  ofSnapshot_snapshot (isSound_build network hknown) hlength

theorem ofSnapshot_snapshot_build_full :
    unhideFilter.mask.IsKnown ∧ (Engine.build [fullFilter] [unhideFilter]).snapshot.length < 2 ^ 32
      ∧ Engine.ofSnapshot (Engine.build [fullFilter] [unhideFilter]).snapshot
          = .ok ⟨#[fullFilter], #[unhideFilter], .build [fullFilter] [unhideFilter]⟩ :=
  ⟨isKnown_of_mem_unhideFilter _ (List.mem_singleton_self _), length_snapshot_fullFilter,
    ofSnapshot_snapshot_build [fullFilter] [unhideFilter] isKnown_of_mem_unhideFilter
      length_snapshot_fullFilter⟩

end Engine

end Blocklist
