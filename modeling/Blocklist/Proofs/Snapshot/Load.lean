import Blocklist.Proofs.Checks
import Blocklist.Snapshot.Load
/-!
# Snapshots — what is checked

Exactly when a header, an entry of the directory and a snapshot are
accepted, and what they are then (`Header.read_eq_ok_iff`,
`SectionInfo.read_eq_ok_iff`, `Snapshot.load_eq_ok_iff`).
-/

namespace Blocklist

variable {data : List UInt8}

/-- **When a header is accepted.** -/
theorem Header.read_eq_ok_iff {h : Header} :
    Header.read data = .ok h ↔ h = Header.ofBytes data ∧ Layout.headerLength ≤ data.length
      ∧ Layout.hasMagic data ∧ h.version = Layout.version ∧ h.fingerprint = Codebook.fingerprint
      ∧ (h.flags &&& Layout.hasChecksum ≠ 0 → h.checksum = Layout.checksum data) := by
  simp only [Header.read, guard_eq_ok_iff, Nat.not_lt, Bool.not_eq_true', Bool.not_eq_false,
    bne_iff_ne, ne_eq, Decidable.not_not]
  by_cases hflags : (Header.ofBytes data).flags &&& Layout.hasChecksum = 0
  · rw [if_neg (by rwa [Decidable.not_not]), pure_eq_ok_iff]
    constructor
    · rintro ⟨hlength, hmagic, hversion, hfingerprint, rfl⟩
      exact ⟨rfl, hlength, hmagic, hversion, hfingerprint, fun h => absurd hflags h⟩
    · rintro ⟨rfl, hlength, hmagic, hversion, hfingerprint, -⟩
      exact ⟨hlength, hmagic, hversion, hfingerprint, rfl⟩
  · rw [if_pos hflags, guard_eq_ok_iff, pure_eq_ok_iff, Decidable.not_not]
    constructor
    · rintro ⟨hlength, hmagic, hversion, hfingerprint, hchecksum, rfl⟩
      exact ⟨rfl, hlength, hmagic, hversion, hfingerprint, fun _ => hchecksum⟩
    · rintro ⟨rfl, hlength, hmagic, hversion, hfingerprint, hchecksum⟩
      exact ⟨hlength, hmagic, hversion, hfingerprint, hchecksum hflags, rfl⟩

/-- **When an entry of the directory is accepted.** -/
theorem SectionInfo.read_eq_ok_iff {place : Nat} {found : Option SectionInfo} :
    SectionInfo.read data place = .ok found ↔ found = SectionInfo.ofBytes? data place
      ∧ ∀ i ∈ found, i.offset + i.length ≤ data.length ∧ i.checksum = crc32 (i.bytes data) := by
  unfold SectionInfo.read
  cases SectionInfo.ofBytes? data place with
  | none =>
    rw [pure_eq_ok_iff]
    constructor
    · rintro rfl
      exact ⟨rfl, by simp⟩
    · rintro ⟨rfl, -⟩
      rfl
  | some i =>
    simp only [guard_eq_ok_iff, pure_eq_ok_iff, Nat.not_lt, bne_iff_ne, ne_eq, Decidable.not_not]
    constructor
    · rintro ⟨hroom, hchecksum, rfl⟩
      refine ⟨rfl, fun j hj => ?_⟩
      obtain rfl := Option.some.inj hj
      exact ⟨hroom, hchecksum⟩
    · rintro ⟨rfl, h⟩
      obtain ⟨hroom, hchecksum⟩ := h i rfl
      exact ⟨hroom, hchecksum, rfl⟩

/-- **When the entries of a directory are accepted.** -/
theorem SectionInfo.mapM_read_eq_ok_iff {places : List Nat} {found : List (Option SectionInfo)} :
    places.mapM (SectionInfo.read data) = .ok found
      ↔ found = places.map (SectionInfo.ofBytes? data)
        ∧ ∀ i, some i ∈ found →
          i.offset + i.length ≤ data.length ∧ i.checksum = crc32 (i.bytes data) := by
  induction places generalizing found with
  | nil =>
    rw [List.mapM_nil, pure_eq_ok_iff, List.map_nil]
    constructor
    · rintro rfl
      exact ⟨rfl, by simp⟩
    · rintro ⟨rfl, -⟩
      rfl
  | cons place places ih =>
    simp only [List.mapM_cons, bind_eq_ok_iff, pure_eq_ok_iff, SectionInfo.read_eq_ok_iff, ih,
      List.map_cons]
    constructor
    · rintro ⟨first, ⟨rfl, hfirst⟩, others, ⟨rfl, hothers⟩, rfl⟩
      refine ⟨rfl, fun i hi => ?_⟩
      rcases List.mem_cons.mp hi with hi | hi
      · exact hfirst i hi.symm
      · exact hothers i hi
    · rintro ⟨rfl, hall⟩
      exact ⟨_, ⟨rfl, fun i hi => hall i (hi ▸ List.mem_cons_self ..)⟩, _,
        ⟨rfl, fun i hi => hall i (List.mem_cons_of_mem _ hi)⟩, rfl⟩

namespace Snapshot

/-- Where the entries of the directory are. -/
def places (h : Header) : List Nat :=
  (List.range h.sections).map fun n => h.directory + n * Layout.entryLength

/-- **When a snapshot is accepted**, as far as its header and its directory go. -/
theorem load_eq_ok_iff {s : Snapshot} :
    load data = .ok s ↔ ∃ h entries, Header.read data = .ok h
      ∧ h.directory + h.sections * Layout.entryLength ≤ data.length
      ∧ (places h).mapM (SectionInfo.read data) = .ok entries
      ∧ s = ⟨data, h, entries.filterMap fun entry => entry⟩ := by
  simp only [load, bind_eq_ok_iff, guard_eq_ok_iff, pure_eq_ok_iff, Nat.not_lt]
  constructor
  · rintro ⟨h, hread, hroom, entries, hentries, rfl⟩
    exact ⟨h, entries, hread, hroom, hentries, rfl⟩
  · rintro ⟨h, entries, hread, hroom, hentries, rfl⟩
    exact ⟨h, hread, hroom, entries, hentries, rfl⟩

/-- The engine depends on the sections' bytes alone. -/
theorem engine_congr {s t : Snapshot} (hsections : s.sections = t.sections)
    (hbytes : ∀ i ∈ t.sections, i.bytes s.data = i.bytes t.data) : s.engine = t.engine := by
  have hread : ∀ {α : Type} (part : Section) (reader : Reader α),
      s.readSection part reader = t.readSection part reader := by
    intro α part reader
    unfold readSection info?
    rw [hsections]
    split
    · rfl
    · next i hi =>
      rw [hbytes i (List.mem_reverse.mp (List.mem_of_find?_eq_some hi))]
  simp only [engine, network, cosmetic, index, hread]

/-- **When a snapshot makes an engine**: where each section reads as what the engine has. -/
theorem engine_eq_ok_iff {s : Snapshot} {e : Engine} :
    s.engine = .ok e ↔ s.network = .ok e.network.toList ∧ s.cosmetic = .ok e.cosmetic.toList
      ∧ s.index .blockIndex e.network.size = .ok e.indexes.blocks
      ∧ s.index .exceptionIndex e.network.size = .ok e.indexes.exceptions
      ∧ s.index .redirectIndex e.network.size = .ok e.indexes.redirects
      ∧ s.index .cspIndex e.network.size = .ok e.indexes.csp
      ∧ s.index .hostIndex e.cosmetic.size = .ok e.indexes.byHost
      ∧ s.index .genericIndex e.cosmetic.size = .ok e.indexes.generic := by
  simp only [engine, bind_eq_ok_iff, pure_eq_ok_iff]
  constructor
  · rintro ⟨network, hnetwork, cosmetic, hcosmetic, blocks, hblocks, exceptions, hexceptions,
      redirects, hredirects, csp, hcsp, byHost, hbyHost, generic, hgeneric, rfl⟩
    exact ⟨hnetwork, hcosmetic, hblocks, hexceptions, hredirects, hcsp, hbyHost, hgeneric⟩
  · rintro ⟨hnetwork, hcosmetic, hblocks, hexceptions, hredirects, hcsp, hbyHost, hgeneric⟩
    exact ⟨_, hnetwork, _, hcosmetic, _, hblocks, _, hexceptions, _, hredirects, _, hcsp, _,
      hbyHost, _, hgeneric, rfl⟩

end Snapshot

theorem Engine.ofSnapshot_eq_ok_iff {e : Engine} :
    Engine.ofSnapshot data = .ok e ↔ ∃ s, Snapshot.load data = .ok s ∧ s.engine = .ok e :=
  bind_eq_ok_iff

end Blocklist
