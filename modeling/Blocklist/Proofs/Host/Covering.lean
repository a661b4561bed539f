import Blocklist.Host.List
import Blocklist.Proofs.Text.Cut
/-!
# Hosts — what covers a host

The domains that cover a host are the host and its parents
(`mem_suffixes_iff`), so a filter for some pages can be looked up by the
parents of the page's host. Both are told by labels: a domain covers a host
whose last labels are its own (`covers_iff_splitOn`).

Main statement: looking at the end of a host and walking up from it come to
the same domains (`covers_iff_mem_suffixes`).
-/

namespace Blocklist

namespace Host

variable {domain host : List Char}

/-- A domain covers itself, and what ends with a dot and the domain. -/
theorem covers_iff : covers domain host ↔
    host = domain ∨ ∃ front, host = front ++ '.' :: domain := by
  unfold covers
  cases hdrop : Text.dropClosing? domain host with
  | none =>
    have hnone : ∀ front, host ≠ front ++ domain := by
      intro front h
      rw [Text.dropClosing?_eq_some_iff.mpr h] at hdrop
      exact absurd hdrop (by simp)
    simp only [Bool.false_eq_true, false_iff]
    rintro (rfl | ⟨front, rfl⟩)
    · exact hnone [] rfl
    · exact hnone (front ++ ['.']) (by simp)
  | some front =>
    have hhost := Text.dropClosing?_eq_some_iff.mp hdrop
    -- what is left before the domain is nothing, or has a last character to look at
    rcases List.eq_nil_or_concat front with rfl | ⟨front, c, hconcat⟩
    · simp only [List.getLast?_nil, Option.all_none, true_iff]
      exact .inl hhost
    · rw [List.concat_eq_append] at hconcat
      subst hconcat
      simp only [List.getLast?_concat, Option.all_some, beq_iff_eq]
      constructor
      · rintro rfl
        exact .inr ⟨front, by rw [hhost, List.append_assoc]; rfl⟩
      · rintro (hself | ⟨front', hfront⟩)
        · have := congrArg List.length (hhost.symm.trans hself)
          simp only [List.length_append, List.length_singleton] at this
          omega
        · rw [hhost, List.append_cons front'] at hfront
          have hends : front ++ [c] = front' ++ ['.'] := List.append_cancel_right hfront
          simpa using (List.append_inj' hends rfl).2

/-- Beyond its first dot a host is covered by what covers its parent. -/
theorem covers_iff_of_parent? {p : List Char} (h : parent? host = some p) :
    covers domain host ↔ host = domain ∨ covers domain p := by
  obtain ⟨⟨label, back⟩, hcut, rfl⟩ := Option.map_eq_some_iff.mp h
  obtain ⟨hhost, hdot⟩ := Text.eq_append_of_cut? hcut
  simp only [covers_iff]
  refine or_congr_right ⟨?_, ?_⟩
  · rintro ⟨front, hfront⟩
    -- the first label ends at the first dot, so it is no longer than what is before any dot
    rw [hhost] at hfront
    rcases List.append_eq_append_iff.mp hfront with ⟨more, hmore, hrest⟩ | ⟨more, hmore, hrest⟩
    · cases more with
      | nil => exact .inl (List.cons.inj hrest).2
      | cons c more =>
        simp only [List.cons_append, List.cons.injEq] at hrest
        exact .inr ⟨more, hrest.2⟩
    · cases more with
      | nil => exact .inl (List.cons.inj hrest).2.symm
      | cons c more =>
        simp only [List.cons_append, List.cons.injEq] at hrest
        exact absurd (by rw [hmore, ← hrest.1]; simp) hdot
  · rintro (rfl | ⟨front, hfront⟩)
    · exact ⟨label, hhost⟩
    · exact ⟨label ++ '.' :: front, by rw [hhost, hfront]; simp⟩

/-- Without a dot nothing but the host itself covers it. -/
theorem covers_iff_of_not_mem (hdot : '.' ∉ host) : covers domain host ↔ host = domain := by
  rw [covers_iff]
  refine or_iff_left ?_
  rintro ⟨front, rfl⟩
  exact hdot (by simp)

/-- **A host's parents are the domains that cover it.** -/
theorem mem_suffixes_iff : domain ∈ suffixes host ↔ domain ≠ [] ∧ covers domain host := by
  fun_induction suffixes host with
  | case1 host hempty =>
    rw [List.isEmpty_iff.mp hempty, covers_iff]
    simp
  | case2 host hne ih =>
    have hne : host ≠ [] := fun e => hne (by rw [e]; rfl)
    rw [List.mem_cons]
    split
    · next hnone =>
      have hdot : '.' ∉ host := Text.cut?_eq_none_iff.mp (Option.map_eq_none_iff.mp hnone)
      rw [covers_iff_of_not_mem hdot]
      constructor
      · rintro (rfl | hmem)
        · exact ⟨hne, rfl⟩
        · exact absurd hmem List.not_mem_nil
      · rintro ⟨-, rfl⟩
        exact .inl rfl
    · next p hp =>
      rw [ih p hp, covers_iff_of_parent? hp]
      constructor
      · rintro (rfl | ⟨hdomain, hcovers⟩)
        · exact ⟨hne, .inl rfl⟩
        · exact ⟨hdomain, .inr hcovers⟩
      · rintro ⟨hdomain, rfl | hcovers⟩
        · exact .inl rfl
        · exact .inr ⟨hdomain, hcovers⟩

/-! ## Labels -/

theorem splitOn_eq_splitOn_iff : domain.splitOn '.' = host.splitOn '.' ↔ host = domain := by
  constructor
  · intro h
    have hjoined : ['.'].intercalate (host.splitOn '.') = host := List.intercalate_splitOn '.'
    rw [← hjoined, ← h, List.intercalate_splitOn]
  · rintro rfl
    rfl

theorem parent?_append (label rest : List Char) (hlabel : '.' ∉ label) :
    parent? (label ++ '.' :: rest) = some rest := by
  rw [parent?, Text.cut?_append_cons hlabel]
  rfl

/-- **A domain covers a host by its labels**: where they are the last labels of the host. -/
theorem covers_iff_splitOn : covers domain host ↔ domain.splitOn '.' <:+ host.splitOn '.' := by
  induction host using Text.pieces_induction '.' with
  | single label hlabel =>
    have hsome := List.splitOn_ne_nil '.' domain
    rw [covers_iff_of_not_mem hlabel, ← splitOn_eq_splitOn_iff, List.splitOn_eq_singleton hlabel,
      List.suffix_cons_iff, List.suffix_nil]
    exact (or_iff_left hsome).symm
  | more label rest hlabel ih =>
    rw [covers_iff_of_parent? (parent?_append label rest hlabel), ih, ← splitOn_eq_splitOn_iff,
      List.splitOn_append_cons_self_of_not_mem hlabel, List.suffix_cons_iff]

/-- **A domain covers a host exactly where it is met on the way up from the host**, whatever labels
are empty. So what is filed under a domain is found for every host that the domain covers, and for
no other. -/
theorem covers_iff_mem_suffixes (host domain : List Char) (hdomain : domain ≠ []) :
    (covers domain host ↔ domain ∈ suffixes host)
      ∧ (covers domain host ↔ domain.splitOn '.' <:+ host.splitOn '.') :=
  ⟨by rw [mem_suffixes_iff, and_iff_right hdomain], covers_iff_splitOn⟩

/-- A host with an empty label in it and another at its end, and a domain that begins with a dot. -/
theorem covers_iff_mem_suffixes_dots :
    ".news.com.".toList ≠ [] ∧ covers ".news.com.".toList "x..news.com.".toList
      ∧ ".news.com.".toList ∈ suffixes "x..news.com.".toList := by
  have hdomain : ".news.com.".toList ≠ [] := by decide
  have hlast : ".news.com.".toList.splitOn '.' <:+ "x..news.com.".toList.splitOn '.' := by decide
  obtain ⟨hwalk, hlabels⟩ := covers_iff_mem_suffixes "x..news.com.".toList _ hdomain
  exact ⟨hdomain, hlabels.mpr hlast, hwalk.mp (hlabels.mpr hlast)⟩

end Host

namespace HostList

/-- The entries are those that are written, but for the empty ones. -/
theorem mem_entries_iff {l : HostList} {entry : List Char} :
    entry ∈ l.entries ↔ entry ∈ l.text.toList.splitOn ',' ∧ entry ≠ [] := by
  rw [entries, List.mem_mergeSort, List.mem_filter]
  simp

/-- A host is let in by some entry that covers it. -/
theorem exists_of_verdict?_eq_true {host : List Char} {entries : List (List Char)}
    (h : verdict? host entries = some true) :
    ∃ entry ∈ entries, negated? entry = none ∧ Host.covers entry host := by
  induction entries with
  | nil => simp [verdict?] at h
  | cons entry entries ih =>
    have hlater : verdict? host entries = some true →
        ∃ e ∈ entry :: entries, negated? e = none ∧ Host.covers e host := by
      intro h
      obtain ⟨e, he, hcovers⟩ := ih h
      exact ⟨e, List.mem_cons_of_mem _ he, hcovers⟩
    simp only [verdict?] at h
    split at h
    · split at h
      · simp at h
      · exact hlater h
    · next hpositive =>
      split at h
      · next hcovers => exact ⟨entry, List.mem_cons_self .., hpositive, hcovers⟩
      · exact hlater h

/-- **A list with entries that are not negated admits a host by one of these**, and that one is
among the host's parents. -/
theorem exists_positive_mem_suffixes {l : HostList} {host : List Char} (hpositive : l.hasPositive)
    (h : l.admits host) : ∃ entry ∈ l.positive, entry ∈ Host.suffixes host := by
  have hverdict : verdict? host l.entries = some true := by
    rw [admits, hpositive] at h
    cases hv : verdict? host l.entries with
    | none => rw [hv] at h; simp at h
    | some admitted => rw [hv] at h; simpa using h
  obtain ⟨entry, hentry, hnegated, hcovers⟩ := exists_of_verdict?_eq_true hverdict
  refine ⟨entry, ?_, Host.mem_suffixes_iff.mpr ⟨(mem_entries_iff.mp hentry).2, hcovers⟩⟩
  rw [positive, List.mem_filter]
  exact ⟨hentry, by rw [hnegated]; rfl⟩

end HostList

end Blocklist
