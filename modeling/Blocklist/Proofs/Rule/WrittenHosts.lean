import Mathlib.Data.List.Forall2
import Blocklist.Proofs.Host.Normal
import Blocklist.Proofs.Host.Specific
import Blocklist.Proofs.Idna.Name
import Blocklist.Proofs.Rule.Cosmetic
import Blocklist.Proofs.Rule.Options
/-!
# Rules — written hosts and the entries of a list

The hosts of an option and those before a marker are written with separators
of their own, and are stored alike: in their stored forms, with commas between
and a `~` before a negated one. A list has one entry for each written host
exactly where every stored form can stand in a list (`IsFaithful`): one that is
empty, begins with a `~` or has a comma is lost, turned or cut. Main statement:
`HostList.corresponds_iff_of_isRead`. A host in ASCII has such a form unless a
`~` comes to light behind its dots; a soft hyphen has none
(`CosmeticFilter.ofLine_softHyphenHost`).
-/

namespace Blocklist

/-! ## Written hosts -/

/-- A host as it is written. -/
structure WrittenHost where
  /-- Whether a `~` stands before it. -/
  negated : Bool
  /-- The host. -/
  host : List Char
  deriving DecidableEq, Repr

namespace WrittenHost

variable {tidy : List Char → List Char} {piece text entry : List Char} {w : WrittenHost}
variable {option : String} {read : Option (List Char)} {idna : ToAscii}

/-- The host of a piece without blanks around it; what is left without the `~` is made tidy. -/
def ofPiece (tidy : List Char → List Char) (piece : List Char) : WrittenHost :=
  match Text.dropOpening? ['~'] (Text.trim piece) with
  | some host => ⟨true, tidy host⟩
  | none => ⟨false, tidy (Text.trim piece)⟩

/-- The host of a piece, where it is not empty. -/
def ofPiece? (tidy : List Char → List Char) (piece : List Char) : Option WrittenHost :=
  if (ofPiece tidy piece).host.isEmpty then none else some (ofPiece tidy piece)

/-- The hosts of an option, with bars between; dots around a host do not count. -/
def ofOption (text : List Char) : List WrittenHost :=
  (text.splitOn '|').filterMap (ofPiece? (Text.trimBy (· == '.')))

/-- The hosts before a marker, with commas between. -/
def ofMarked (text : List Char) : List WrittenHost := (text.splitOn ',').filterMap (ofPiece? id)

/-- The `~` of a negated host. -/
def mark (w : WrittenHost) : List Char := if w.negated then ['~'] else []

/-- An entry that a host is stored as: its stored form, with the mark of a negated one. -/
def Stores (idna : ToAscii) (w : WrittenHost) (entry : List Char) : Prop :=
  ∃ stored, Host.normal? idna w.host = some stored ∧ w.mark ++ stored = entry

/-- Whether the stored form of a host can stand in a list: it has no comma, and unless the host is
negated it is not empty and does not begin with a `~`. -/
def IsFaithful (idna : ToAscii) (w : WrittenHost) : Prop :=
  ∀ stored, Host.normal? idna w.host = some stored →
    ',' ∉ stored ∧ (w.negated ∨ (stored ≠ [] ∧ stored.head? ≠ some '~'))

theorem ofPiece?_eq_some_iff :
    ofPiece? tidy piece = some w ↔ w.host ≠ [] ∧ ofPiece tidy piece = w := by
  rw [ofPiece?, Option.ite_none_left_eq_some, Option.some.injEq, List.isEmpty_iff]
  constructor
  · rintro ⟨hne, rfl⟩
    exact ⟨hne, rfl⟩
  · rintro ⟨hne, rfl⟩
    exact ⟨hne, rfl⟩

/-- A host before a marker is a part of its piece. -/
theorem host_ofPiece_subset (piece : List Char) : (ofPiece id piece).host ⊆ piece := by
  have htrim : Text.trim piece ⊆ piece := Text.trimBy_subset _ _
  rw [ofPiece]
  split
  · next hopening => exact fun c hc => htrim (Text.subset_of_dropOpening? hopening hc)
  · exact htrim

/-- A host in ASCII can stand in a list if it has no comma and does not begin with a `~`, unless it
is negated. -/
theorem isFaithful_iff_of_isAscii (hascii : Text.isAscii w.host) (hne : w.host ≠ [])
    (hcomma : ',' ∉ w.host) : w.IsFaithful idna ↔ (w.negated ∨ w.host.head? ≠ some '~') := by
  have hstored : ∀ stored, Host.normal? idna w.host = some stored ↔ Text.lower w.host = stored := by
    rw [Host.normal?_of_isAscii hascii]
    exact fun stored => Option.some_inj
  have hhead : (Text.lower w.host).head? = some '~' ↔ w.host.head? = some '~' := by
    rw [Text.lower, List.head?_map, Option.map_eq_some_iff]
    simp [Text.toLower_eq_iff (show Text.isCaseless '~' by decide)]
  have hlower : ',' ∉ Text.lower w.host := by rwa [Text.mem_lower_iff (by decide)]
  have hne : Text.lower w.host ≠ [] := mt List.map_eq_nil_iff.mp hne
  simp only [IsFaithful, hstored, forall_eq', ne_eq, hlower, hne, hhead, not_false_iff, true_and]

/-! ## Pieces that are read -/

theorem storedHost?_eq (idna : ToAscii) (piece : List Char) : CosmeticRule.storedHost? idna piece =
    if (ofPiece id piece).host.isEmpty then .ok none
    else
      match Host.normal? idna (ofPiece id piece).host with
      | some stored => .ok (some ((ofPiece id piece).mark ++ stored))
      | none => .error .punycode := by
  rw [CosmeticRule.storedHost?, ofPiece]
  cases Text.dropOpening? ['~'] (Text.trim piece) <;> rfl

theorem storedDomain?_eq_ofPiece (idna : ToAscii) (option : String) (piece : List Char) :
    RuleOptions.storedDomain? idna option piece =
      if (ofPiece (Text.trimBy (· == '.')) piece).host.isEmpty then .ok none
      else
        match Host.normal? idna (ofPiece (Text.trimBy (· == '.')) piece).host with
        | none => .error .punycode
        | some stored =>
          if stored.contains ',' then .error (.invalidValue option)
          else .ok (some ((ofPiece (Text.trimBy (· == '.')) piece).mark ++ stored)) := by
  rw [RuleOptions.storedDomain?, ofPiece]
  cases Text.dropOpening? ['~'] (Text.trim piece) <;> rfl

/-- Where a piece before a marker has a host, an entry is read that stores it. -/
theorem rel_storedHost? (h : CosmeticRule.storedHost? idna piece = .ok read) :
    Option.Rel (Stores idna) (ofPiece? id piece) read := by
  rw [storedHost?_eq] at h
  rw [ofPiece?]
  split at h
  · next hempty =>
    cases h
    rw [if_pos hempty]
    exact .none
  · next hempty =>
    split at h
    · next stored hstored =>
      cases h
      rw [if_neg hempty]
      exact .some ⟨stored, hstored, rfl⟩
    · cases h

theorem rel_storedDomain? (h : RuleOptions.storedDomain? idna option piece = .ok read) :
    Option.Rel (Stores idna) (ofPiece? (Text.trimBy (· == '.')) piece) read := by
  rw [storedDomain?_eq_ofPiece] at h
  rw [ofPiece?]
  split at h
  · next hempty =>
    cases h
    rw [if_pos hempty]
    exact .none
  · next hempty =>
    split at h
    · cases h
    · next stored hstored =>
      split at h
      · cases h
      · cases h
        rw [if_neg hempty]
        exact .some ⟨stored, hstored, rfl⟩

/-- A domain whose stored form has a comma is refused. -/
theorem not_mem_comma_of_storedDomain? {stored : List Char}
    (h : RuleOptions.storedDomain? idna option piece = .ok read)
    (hw : ofPiece? (Text.trimBy (· == '.')) piece = some w)
    (hstored : Host.normal? idna w.host = some stored) : ',' ∉ stored := by
  obtain ⟨hne, rfl⟩ := ofPiece?_eq_some_iff.mp hw
  rw [storedDomain?_eq_ofPiece, if_neg (mt List.isEmpty_iff.mp hne), hstored] at h
  dsimp only at h
  split at h
  · cases h
  · next hcomma => simpa using hcomma

end WrittenHost

/-! ## Entries -/

namespace HostList

open WrittenHost

variable {written : List WrittenHost} {entries : List (List Char)} {entry : List Char}
variable {w : WrittenHost} {l : HostList} {hosts : Option HostList} {idna : ToAscii}

/-- Whether a list has one entry for each host: one that stores it and that is negated where the
host is. -/
def Corresponds (idna : ToAscii) (l : HostList) (written : List WrittenHost) : Prop :=
  ∃ entries, entries.Perm l.entries ∧
    List.Forall₂ (fun w entry => w.Stores idna entry ∧ ((negated? entry).isSome ↔ w.negated))
      written entries

/-- Entries are found again if none is empty or has a comma. -/
theorem entries_ofEntries_perm (hne : entries ≠ [])
    (h : ∀ entry ∈ entries, entry ≠ [] ∧ ',' ∉ entry) :
    entries.Perm (ofEntries entries).entries := by
  have hfound : (ofEntries entries).text.toList.splitOn ',' = entries :=
    parts_ofEntries hne fun entry hentry => (h entry hentry).2
  have hall : entries.filter (!·.isEmpty) = entries :=
    List.filter_eq_self.mpr fun entry hentry => by simpa using (h entry hentry).1
  rw [HostList.entries, hfound, hall]
  exact (List.mergeSort_perm _ _).symm

theorem isSome_negated?_iff : (negated? entry).isSome ↔ entry.head? = some '~' := by
  rw [Option.isSome_iff_exists]
  simp only [negated?_eq_some_iff]
  cases entry <;> simp

/-- **What can stand in a list** is what is found again, and negated where it should be. -/
theorem isFaithful_iff (h : w.Stores idna entry) : w.IsFaithful idna ↔
    entry ≠ [] ∧ ',' ∉ entry ∧ ((negated? entry).isSome ↔ w.negated) := by
  obtain ⟨stored, hstored, rfl⟩ := h
  have honly : w.IsFaithful idna ↔
      ',' ∉ stored ∧ (w.negated ∨ (stored ≠ [] ∧ stored.head? ≠ some '~')) :=
    ⟨fun h => h stored hstored,
      fun h other hother => Option.some.inj (hstored.symm.trans hother) ▸ h⟩
  rw [honly, isSome_negated?_iff, mark]
  cases w.negated <;> simp [and_left_comm]

/-! ## Hosts that are read -/

/-- How written hosts come to be stored: those of an option, and those before a marker. -/
inductive IsRead (idna : ToAscii) : List WrittenHost → Option HostList → Prop
  | option {name : String} {text : List Char} {list : HostList}
      (h : RuleOptions.domainList idna name text = .ok list) :
      IsRead idna (ofOption text) (some list)
  | line {keepLine : Bool} {line : String} {m : CosmeticRule.Marked} {f : CosmeticFilter}
      (hmarker : CosmeticRule.cutMarker line.toList = .ok m)
      (h : CosmeticFilter.ofLine idna keepLine line = .ok f) :
      IsRead idna (ofMarked m.hosts) f.hostnames

theorem hostList?_eq_ok_iff {text : List Char} : CosmeticRule.hostList? idna text = .ok hosts ↔
    ∃ found, (text.splitOn ',').mapM (CosmeticRule.storedHost? idna) = .ok found ∧
      (if (found.filterMap id).isEmpty then none else some (ofEntries (found.filterMap id)))
        = hosts := by
  simp only [CosmeticRule.hostList?, bind_eq_ok_iff, pure_eq_ok_iff]
  rfl

/-- **What is read of hosts**: a list of the entries that store them, and none where there is no
host. -/
theorem exists_entries_of_isRead (h : IsRead idna written hosts) : ∃ entries,
    List.Forall₂ (Stores idna) written entries ∧
      (if entries.isEmpty then none else some (ofEntries entries)) = hosts := by
  cases h with
  | option h =>
    obtain ⟨found, hfound, hne, rfl⟩ := RuleOptions.domainList_eq_ok_iff.mp h
    refine ⟨found.filterMap id, List.rel_filterMap ?_ (mapM_eq_ok_iff.mp hfound), ?_⟩
    · exact fun piece read hread => rel_storedDomain? hread
    · rw [if_neg (mt List.isEmpty_iff.mp hne)]
  | line hmarker h =>
    obtain ⟨m', hosts, b, hm, hhosts, -, -, -, rfl⟩ := CosmeticFilter.ofLine_eq_ok_iff.mp h
    cases hmarker.symm.trans hm
    obtain ⟨found, hfound, rfl⟩ := hostList?_eq_ok_iff.mp hhosts
    refine ⟨found.filterMap id, List.rel_filterMap ?_ (mapM_eq_ok_iff.mp hfound), rfl⟩
    exact fun piece read hread => rel_storedHost? hread

/-- What is known of every host before it is stored. -/
theorem spec_of_isRead (h : IsRead idna written hosts) (hw : w ∈ written) :
    w.host ≠ [] ∧ (Text.isAscii w.host → ',' ∉ w.host) := by
  cases h with
  | option h =>
    obtain ⟨piece, hpiece, hfound⟩ := List.mem_filterMap.mp hw
    obtain ⟨found, hreads, -, -⟩ := RuleOptions.domainList_eq_ok_iff.mp h
    obtain ⟨read, -, hread⟩ := exists_of_forall₂ (mapM_eq_ok_iff.mp hreads) hpiece
    refine ⟨(ofPiece?_eq_some_iff.mp hfound).1, fun hascii hcomma => ?_⟩
    have hlower := not_mem_comma_of_storedDomain? hread hfound (Host.normal?_of_isAscii hascii)
    exact hlower ((Text.mem_lower_iff (by decide)).mpr hcomma)
  | line =>
    obtain ⟨piece, hpiece, hfound⟩ := List.mem_filterMap.mp hw
    obtain ⟨hne, rfl⟩ := ofPiece?_eq_some_iff.mp hfound
    exact ⟨hne, fun _ hcomma => Text.not_mem_of_mem_splitOn hpiece (host_ofPiece_subset _ hcomma)⟩

/-- **A list has one entry for each written host**, negated where the host is, exactly if the stored
form of every host can stand in a list. There is no list where there is no host. A host in ASCII has
such a form if it is negated or does not begin with a `~`. -/
theorem corresponds_iff_of_isRead (h : IsRead idna written hosts) :
    (hosts = none ↔ written = []) ∧
      (∀ l, hosts = some l → (l.Corresponds idna written ↔ ∀ w ∈ written, w.IsFaithful idna)) ∧
      ∀ w ∈ written, Text.isAscii w.host →
        (w.IsFaithful idna ↔ (w.negated ∨ w.host.head? ≠ some '~')) := by
  obtain ⟨entries, hstores, rfl⟩ := exists_entries_of_isRead h
  refine ⟨?_, fun l hl => ⟨fun hcorr w hw => ?_, fun hall => ?_⟩, fun w hw hascii => ?_⟩
  · have hlength := hstores.length_eq
    rw [← List.length_eq_zero_iff, hlength, List.length_eq_zero_iff]
    simp
  · -- an entry of the list is not empty and has no comma
    obtain ⟨others, hperm, hothers⟩ := hcorr
    obtain ⟨entry, hentry, hstored, hsign⟩ := exists_of_forall₂ hothers hw
    obtain ⟨hpart, hne⟩ := mem_entries_iff.mp (hperm.mem_iff.mp hentry)
    exact (isFaithful_iff hstored).mpr ⟨hne, Text.not_mem_of_mem_splitOn hpart, hsign⟩
  · obtain ⟨hne, hl⟩ := Option.ite_none_left_eq_some.mp hl
    obtain rfl := Option.some.inj hl
    have hboth := (List.forall₂_and_left written entries).mpr ⟨hall, hstores⟩
    refine ⟨entries,
      entries_ofEntries_perm (mt List.isEmpty_iff.mpr hne) fun entry hentry => ?_, ?_⟩
    · obtain ⟨w, -, hw, hstored⟩ := exists_of_forall₂ hboth.flip hentry
      obtain ⟨hne, hcomma, -⟩ := (isFaithful_iff hstored).mp hw
      exact ⟨hne, hcomma⟩
    · exact hboth.imp fun w entry h => ⟨h.2, ((isFaithful_iff h.2).mp h.1).2.2⟩
  · obtain ⟨hne, hcomma⟩ := spec_of_isRead h hw
    exact isFaithful_iff_of_isAscii hascii hne (hcomma hascii)

theorem corresponds_iff_of_isRead_cdn :
    Corresponds Idna.toAscii? ⟨"ads.example.com,~cdn.ads.example.com"⟩
      [⟨false, "Ads.example.com".toList⟩, ⟨true, "cdn.ads.Example.com".toList⟩] := by
  have hread : RuleOptions.domainList Idna.toAscii? "domain"
      ".Ads.example.com.| ~cdn.ads.Example.com ||".toList
      = .ok ⟨"ads.example.com,~cdn.ads.example.com"⟩ := by decide +kernel
  have hwritten : ofOption ".Ads.example.com.| ~cdn.ads.Example.com ||".toList
      = [⟨false, "Ads.example.com".toList⟩, ⟨true, "cdn.ads.Example.com".toList⟩] := by
    decide +kernel
  obtain ⟨-, hcorr, hascii⟩ := corresponds_iff_of_isRead (.option hread)
  rw [hwritten] at hcorr hascii
  refine (hcorr _ rfl).mpr fun w hw => (hascii w hw ?_).mpr ?_
  · exact (show ∀ w ∈ _, Text.isAscii w.host from by decide +kernel) w hw
  · exact (show ∀ w ∈ _, w.negated ∨ w.host.head? ≠ some '~' from by decide +kernel) w hw

end HostList

/-! ## A host that is lost -/

theorem WrittenHost.hostList?_of_vanishing {idna : ToAscii} (hidna : idna ['\u00AD'] = some []) :
    CosmeticRule.hostList? idna ['\u00AD'] = .ok (some ⟨""⟩) := by
  have hpiece : ofPiece id ['\u00AD'] = ⟨false, ['\u00AD']⟩ := by decide
  have hnormal : Host.normal? idna ['\u00AD'] = some [] := by
    rw [Host.normal?_of_not_isAscii (by decide), hidna]
  have hstored : CosmeticRule.storedHost? idna ['\u00AD'] = .ok (some []) := by
    rw [storedHost?_eq, hpiece, hnormal]
    rfl
  refine HostList.hostList?_eq_ok_iff.mpr ⟨[some []], mapM_eq_ok_iff.mpr ?_, rfl⟩
  exact .cons hstored .nil

namespace CosmeticFilter

open WrittenHost

/-- **A host may be lost**: a soft hyphen is written before the marker, of which nothing is left in
ASCII, and the list that is stored has no entry. -/
theorem ofLine_softHyphenHost : ∃ f,
    (∀ idna : ToAscii, idna ['\u00AD'] = some [] → ofLine idna false "\u00AD##.ad" = .ok f) ∧
    CosmeticRule.cutMarker "\u00AD##.ad".toList = .ok ⟨['\u00AD'], false, ".ad".toList⟩ ∧
    ofMarked ['\u00AD'] = [⟨false, ['\u00AD']⟩] ∧ f.hostnames = some ⟨""⟩ ∧
    (∀ idna, ¬ HostList.Corresponds idna ⟨""⟩ [⟨false, ['\u00AD']⟩]) ∧
    Idna.toAscii? ['\u00AD'] = some [] := by
  have hcut : CosmeticRule.cutMarker "\u00AD##.ad".toList
      = .ok ⟨['\u00AD'], false, ".ad".toList⟩ := by decide
  have hbody : CosmeticRule.readBody ".ad".toList = .ok ⟨[], ".ad".toList⟩ := by decide
  refine ⟨CosmeticRule.assemble false (some ⟨""⟩) ⟨[], ".ad".toList⟩, fun idna hidna => ?_, hcut,
    by decide, rfl, fun idna => ?_, Idna.toAscii?_softHyphen⟩
  · have hselector : CosmeticRule.IsSelector ".ad".toList :=
      CosmeticRule.isSelector_iff.mpr (by decide)
    exact ofLine_eq_ok_iff.mpr ⟨_, _, _, hcut, hostList?_of_vanishing hidna, hbody, hselector,
      fun h => (nomatch h), rfl⟩
  · rintro ⟨entries, hperm, hentries⟩
    have hnone : (⟨""⟩ : HostList).entries = [] := by decide +kernel
    rw [hnone, List.perm_nil] at hperm
    subst hperm
    exact nomatch hentries

end CosmeticFilter

end Blocklist
