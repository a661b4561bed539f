import Mathlib.Data.List.Basic
import Blocklist.Proofs.Host.Covering
import Blocklist.Proofs.Text.Utf8
/-!
# Hosts — the longest domain decides

Entries are gone through longest first, and the `~` of a negated one counts.
That does no harm where no domain is empty or begins with a dot: of two
domains that cover one host, the shorter stands behind a dot in the longer,
with a label before it (`Host.covers_of_covers`), so it is shorter by two at
least. Main statement (`HostList.admits_by_longest`): the longest domain that
covers a host decides, and a negated entry wins over one that is not.
-/

namespace Blocklist

/-! ## Two domains that cover one host -/

/-- **Of two domains that cover one host, the shorter covers the longer.** -/
theorem Host.covers_of_covers {short long host : List Char} (hshort : covers short host)
    (hlong : covers long host) (hlength : short.length ≤ long.length) : covers short long := by
  have hsuffix : long <:+ host := by
    rcases covers_iff.mp hlong with rfl | ⟨front, rfl⟩
    · exact List.suffix_refl _
    · exact (List.suffix_cons '.' long).trans (List.suffix_append _ _)
  rw [covers_iff] at hshort ⊢
  rcases hshort with rfl | ⟨front, rfl⟩
  · exact .inl (hsuffix.eq_of_length_le hlength)
  · have hself : short <:+ front ++ '.' :: short :=
      (List.suffix_cons '.' short).trans (List.suffix_append _ _)
    obtain ⟨more, rfl⟩ := List.suffix_of_suffix_length_le hself hsuffix hlength
    -- what the longer has in front ends with what stands before the shorter in the host
    rcases List.eq_nil_or_concat more with rfl | ⟨more, c, hconcat⟩
    · exact .inl rfl
    · rw [List.concat_eq_append] at hconcat
      subst hconcat
      obtain ⟨rest, hrest⟩ := hsuffix
      rw [List.append_cons front, ← List.append_assoc, ← List.append_assoc] at hrest
      have hends : rest ++ more ++ [c] = front ++ ['.'] := List.append_cancel_right hrest
      obtain rfl : c = '.' := by simpa using (List.append_inj' hends rfl).2
      exact .inr ⟨more, by simp⟩

namespace HostList

variable {l l' : HostList} {host domain other entry : List Char}

/-! ## Entries and their domains -/

/-- The domain that an entry names. -/
def domainOf (entry : List Char) : List Char := (negated? entry).getD entry

theorem negated?_eq_some_iff : negated? entry = some domain ↔ entry = '~' :: domain :=
  ⟨fun h => Text.eq_append_of_dropOpening? h, fun h => h ▸ Text.dropOpening?_append ['~'] domain⟩

theorem domainOf_negated (domain : List Char) : domainOf ('~' :: domain) = domain := by
  rw [domainOf, negated?_eq_some_iff.mpr rfl, Option.getD_some]

/-- An entry is its domain, or the negated one. -/
theorem eq_domainOf_or (entry : List Char) :
    (negated? entry = none ∧ entry = domainOf entry) ∨ entry = '~' :: domainOf entry := by
  rw [domainOf]
  cases h : negated? entry with
  | none => exact .inl ⟨rfl, rfl⟩
  | some domain => exact .inr (negated?_eq_some_iff.mp h)

/-- The `~` makes an entry longer by one. -/
theorem byteLength_domainOf (entry : List Char) :
    Text.byteLength (domainOf entry) ≤ Text.byteLength entry ∧
      Text.byteLength entry ≤ Text.byteLength (domainOf entry) + 1 := by
  rcases eq_domainOf_or entry with ⟨-, h⟩ | h
  · rw [← h]
    omega
  · have hlength := congrArg Text.byteLength h
    rw [Text.byteLength_cons, show Char.utf8Size '~' = 1 from rfl] at hlength
    omega

/-- No entry names an empty domain, or one that begins with a dot. -/
def IsProper (l : HostList) : Prop :=
  ∀ entry ∈ l.entries, domainOf entry ≠ [] ∧ (domainOf entry).head? ≠ some '.'

instance (l : HostList) : Decidable l.IsProper :=
  decidable_of_iff (∀ entry ∈ l.text.toList.splitOn ',', entry ≠ [] →
    domainOf entry ≠ [] ∧ (domainOf entry).head? ≠ some '.')
    (by simp only [IsProper, mem_entries_iff, and_imp])

/-- A domain that is listed, be it negated or not. -/
def Lists (l : HostList) (domain : List Char) : Prop := ∃ entry ∈ l.entries, domainOf entry = domain

/-- The longest of the listed domains that cover a host. -/
structure IsMostSpecific (l : HostList) (host domain : List Char) : Prop where
  /-- It is listed. -/
  listed : l.Lists domain
  /-- It covers the host. -/
  covers : Host.covers domain host
  /-- No other that does is longer. -/
  longest : ∀ other, l.Lists other → Host.covers other host → other.length ≤ domain.length

/-- There is one at most. -/
theorem IsMostSpecific.unique (h : l.IsMostSpecific host domain)
    (hother : l.IsMostSpecific host other) : domain = other := by
  have hle := hother.longest domain h.listed h.covers
  have hge := h.longest other hother.listed hother.covers
  have hbelow := Host.covers_of_covers h.covers hother.covers hle
  rcases Host.covers_iff.mp hbelow with rfl | ⟨front, rfl⟩
  · rfl
  · rw [List.length_append, List.length_cons] at hge
    omega

/-! ## The first entry that covers -/

/-- The entry whose word counts. -/
def decisive? (l : HostList) (host : List Char) : Option (List Char) :=
  l.entries.find? fun entry => Host.covers (domainOf entry) host

theorem verdict?_eq_find? (host : List Char) (entries : List (List Char)) :
    verdict? host entries
      = (entries.find? fun entry => Host.covers (domainOf entry) host).map
        fun entry => (negated? entry).isNone := by
  induction entries with
  | nil => rfl
  | cons entry entries ih =>
    rw [verdict?, ih, List.find?_cons, domainOf]
    cases h : negated? entry with
    | none =>
      dsimp only [Option.getD]
      cases Host.covers entry host <;> simp [h]
    | some domain =>
      dsimp only [Option.getD]
      cases Host.covers domain host <;> simp [h]

/-- Entries come longest first. -/
theorem pairwise_entries (l : HostList) :
    l.entries.Pairwise fun a b => Text.byteLength b ≤ Text.byteLength a := by
  have hsorted : l.entries.Pairwise
      fun a b => decide (Text.byteLength b ≤ Text.byteLength a) = true := by
    refine List.pairwise_mergeSort (fun a b c hab hbc => ?_) (fun a b => ?_) _
    · simp only [decide_eq_true_eq] at hab hbc ⊢
      exact Nat.le_trans hbc hab
    · simpa using Nat.le_total _ _
  exact hsorted.imp of_decide_eq_true

theorem byteLength_le_of_decisive? (h : l.decisive? host = some entry) {entry' : List Char}
    (hentry' : entry' ∈ l.entries) (hcovers : Host.covers (domainOf entry') host) :
    Text.byteLength entry' ≤ Text.byteLength entry := by
  obtain ⟨-, before, after, hentries, hbefore⟩ := List.find?_eq_some_iff_append.mp h
  rw [hentries, List.mem_append, List.mem_cons] at hentry'
  rcases hentry' with hmem | rfl | hmem
  · exact absurd hcovers (by simpa using hbefore entry' hmem)
  · exact Nat.le_refl _
  · have hpairwise := l.pairwise_entries
    rw [hentries, List.pairwise_append] at hpairwise
    exact (List.pairwise_cons.mp hpairwise.2.1).1 entry' hmem

/-- **The first entry that covers a host names the longest domain that does.** -/
theorem isMostSpecific_of_decisive? (hl : l.IsProper) (h : l.decisive? host = some entry) :
    l.IsMostSpecific host (domainOf entry) where
  listed := ⟨entry, List.mem_of_find?_eq_some h, rfl⟩
  covers := by simpa using List.find?_some h
  longest := by
    rintro _ ⟨entry', hentry', rfl⟩ hcovers'
    by_contra hlonger
    have hcovers : Host.covers (domainOf entry) host := by simpa using List.find?_some h
    have hle := byteLength_le_of_decisive? h hentry' hcovers'
    have hshort := byteLength_domainOf entry
    have hlong := byteLength_domainOf entry'
    have hbelow := Host.covers_of_covers hcovers hcovers' (Nat.le_of_not_le hlonger)
    rcases Host.covers_iff.mp hbelow with hsame | ⟨front, hfront⟩
    · exact hlonger (Nat.le_of_eq (congrArg List.length hsame))
    -- a label and a dot stand before the shorter, which is more than a `~`
    · obtain ⟨c, front, rfl⟩ : ∃ c rest, front = c :: rest := by
        refine List.exists_cons_of_ne_nil ?_
        rintro rfl
        exact (hl entry' hentry').2 (by rw [hfront]; rfl)
      have hlength := congrArg Text.byteLength hfront
      rw [Text.byteLength_append, Text.byteLength_cons, Text.byteLength_cons,
        show Char.utf8Size '.' = 1 from rfl] at hlength
      have := c.utf8Size_pos
      omega

/-- Where a listed domain covers a host, some entry is decisive. -/
theorem exists_decisive? (hlisted : l.Lists domain) (hcovers : Host.covers domain host) :
    ∃ entry, l.decisive? host = some entry := by
  obtain ⟨entry, hentry, rfl⟩ := hlisted
  exact Option.isSome_iff_exists.mp (List.find?_isSome.mpr ⟨entry, hentry, hcovers⟩)

theorem admits_of_decisive? (h : l.decisive? host = some entry) :
    l.admits host ↔ negated? entry = none := by
  rw [decisive?] at h
  rw [admits, verdict?_eq_find?, h]
  simp

/-- The longest domain admits, unless it is listed as negated. -/
theorem admits_of_isMostSpecific (hl : l.IsProper) (h : l.IsMostSpecific host domain) :
    l.admits host ↔ '~' :: domain ∉ l.entries := by
  obtain ⟨entry, hentry⟩ := exists_decisive? h.listed h.covers
  obtain rfl := h.unique (isMostSpecific_of_decisive? hl hentry)
  rw [admits_of_decisive? hentry]
  constructor
  · intro hpositive hmem
    -- the negated entry is longer than the one that is not
    have hle := byteLength_le_of_decisive? hentry hmem (by rw [domainOf_negated]; exact h.covers)
    rw [domainOf, hpositive, Option.getD_none, Text.byteLength_cons] at hle
    have := Char.utf8Size_pos '~'
    omega
  · intro hmem
    rcases eq_domainOf_or entry with ⟨hnone, -⟩ | hnegated
    · exact hnone
    · exact absurd (hnegated ▸ List.mem_of_find?_eq_some hentry) hmem

/-- Where no listed domain covers a host, a list of negated entries alone admits it. -/
theorem admits_of_not_covered (h : ∀ domain, l.Lists domain → ¬ Host.covers domain host) :
    l.admits host ↔ l.positive = [] := by
  have hnone : l.entries.find? (fun entry => Host.covers (domainOf entry) host) = none := by
    rw [List.find?_eq_none]
    exact fun entry hentry => h (domainOf entry) ⟨entry, hentry, rfl⟩
  rw [admits, verdict?_eq_find?, hnone, hasPositive]
  simp

/-! ## Lists with the same entries -/

theorem mem_positive_iff : entry ∈ l.positive ↔ entry ∈ l.entries ∧ negated? entry = none := by
  rw [positive, List.mem_filter, Option.isNone_iff_eq_none]

/-- **The longest domain that covers a host decides.** There is one such domain, or none of the list
covers the host. It admits the host unless it is listed as negated, be it listed as it is besides;
where none covers the host, a list of negated entries alone admits it. So neither the order of the
entries counts nor how often they are there. -/
theorem admits_by_longest (hl : l.IsProper) (host : List Char) :
    ((∃! domain, l.IsMostSpecific host domain)
        ∨ ∀ domain, l.Lists domain → ¬ Host.covers domain host) ∧
      (∀ domain, l.IsMostSpecific host domain → (l.admits host ↔ '~' :: domain ∉ l.entries)) ∧
      ((∀ domain, l.Lists domain → ¬ Host.covers domain host) →
        (l.admits host ↔ l.positive = [])) ∧
      ∀ l' : HostList, (∀ entry, entry ∈ l'.entries ↔ entry ∈ l.entries) →
        l'.admits host = l.admits host := by
  have hcases : (∃! domain, l.IsMostSpecific host domain)
      ∨ ∀ domain, l.Lists domain → ¬ Host.covers domain host := by
    by_cases hcovered : ∃ domain, l.Lists domain ∧ Host.covers domain host
    · obtain ⟨domain, hlisted, hcovers⟩ := hcovered
      obtain ⟨entry, hentry⟩ := exists_decisive? hlisted hcovers
      have hdecides := isMostSpecific_of_decisive? hl hentry
      exact .inl ⟨_, hdecides, fun other hother => hother.unique hdecides⟩
    · exact .inr fun domain hlisted hcovers => hcovered ⟨domain, hlisted, hcovers⟩
  refine ⟨hcases, fun domain => admits_of_isMostSpecific hl, admits_of_not_covered, ?_⟩
  intro l' hsame
  have hlists : ∀ domain, l'.Lists domain ↔ l.Lists domain := fun domain => by
    simp only [Lists, hsame]
  rw [Bool.eq_iff_iff]
  rcases hcases with ⟨domain, hdecides, -⟩ | hnone
  · have hproper : l'.IsProper := fun entry hentry => hl entry ((hsame entry).mp hentry)
    have hdecides' : l'.IsMostSpecific host domain :=
      ⟨(hlists domain).mpr hdecides.listed, hdecides.covers,
        fun other hother => hdecides.longest other ((hlists other).mp hother)⟩
    rw [admits_of_isMostSpecific hproper hdecides', admits_of_isMostSpecific hl hdecides, hsame]
  · rw [admits_of_not_covered hnone,
      admits_of_not_covered fun domain hlisted => hnone domain ((hlists domain).mp hlisted)]
    simp only [List.eq_nil_iff_forall_not_mem, mem_positive_iff, hsame]

/-- A list with domains below domains, one of them listed both ways. -/
def nestedList : HostList := ⟨"a.org,~b.a.org,,c.b.a.org,~c.b.a.org,d.c.b.a.org"⟩

/-- Its entries, turned round and with one of them twice. -/
def turnedList : HostList := ⟨"d.c.b.a.org,~c.b.a.org,c.b.a.org,~b.a.org,a.org,~c.b.a.org"⟩

theorem admits_by_longest_nestedList :
    nestedList.IsProper ∧
      nestedList.IsMostSpecific "x.c.b.a.org".toList "c.b.a.org".toList ∧
      nestedList.admits "x.c.b.a.org".toList = false ∧
      turnedList.admits "x.c.b.a.org".toList = false := by
  have hproper : nestedList.IsProper := by decide +kernel
  have hdecides : nestedList.IsMostSpecific "x.c.b.a.org".toList "c.b.a.org".toList := by
    refine ⟨⟨"c.b.a.org".toList, mem_entries_iff.mpr (by decide +kernel), by decide⟩,
      by decide, ?_⟩
    rintro _ ⟨entry, hentry, rfl⟩
    revert entry
    have hall : ∀ entry ∈ nestedList.text.toList.splitOn ',',
        Host.covers (domainOf entry) "x.c.b.a.org".toList →
          (domainOf entry).length ≤ "c.b.a.org".toList.length := by decide +kernel
    exact fun entry hentry => hall entry (mem_entries_iff.mp hentry).1
  obtain ⟨-, hlongest, -, hsame⟩ := admits_by_longest hproper "x.c.b.a.org".toList
  have hnegated : '~' :: "c.b.a.org".toList ∈ nestedList.entries :=
    mem_entries_iff.mpr (by decide +kernel)
  have hrefused : nestedList.admits "x.c.b.a.org".toList = false := by
    rw [Bool.eq_false_iff]
    exact fun h => (hlongest _ hdecides).mp h hnegated
  refine ⟨hproper, hdecides, hrefused, (hsame turnedList fun entry => ?_).trans hrefused⟩
  simp only [mem_entries_iff]
  have hturned : ∀ entry ∈ turnedList.text.toList.splitOn ',',
      entry ∈ nestedList.text.toList.splitOn ',' := by decide +kernel
  have hnested : ∀ entry ∈ nestedList.text.toList.splitOn ',', entry ≠ [] →
      entry ∈ turnedList.text.toList.splitOn ',' := by decide +kernel
  exact ⟨fun h => ⟨hturned entry h.1, h.2⟩, fun h => ⟨hnested entry h.1 h.2, h.2⟩⟩

end HostList

end Blocklist
