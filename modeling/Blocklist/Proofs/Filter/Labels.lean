import Blocklist.Filter.Match
import Blocklist.Proofs.Filter.Glob
import Blocklist.Proofs.Text.Utf8
import Blocklist.Proofs.Url
import Blocklist.Rule.Network
/-!
# Filters — patterns that begin with a host

A pattern anchored to the host may begin with a domain and a character that
ends a host. Where the host of an address has no separators, such a pattern
matches exactly where the domain covers the host and what follows the domain
matches what follows the host (`NetworkFilter.any_labelStarts_iff`): neither
can the domain run on beyond the host, nor the host beyond the domain.
-/

namespace Blocklist

/-! ## Bytes -/

namespace Glob

variable {right : Bool} {segment start pattern back text rest domain host : List UInt8}
variable {mark c : UInt8}

/-- What a pattern begins with is taken first, up to its first `*`. -/
theorem isMatch_true_append_iff (hstart : wildcard ∉ start) :
    isMatch true right (start ++ pattern) text ↔
      ∃ rest, afterSegment? start text = some rest ∧ isMatch true right pattern rest := by
  obtain ⟨stop, after, hsplit, -, -⟩ := exists_splitOn_back pattern
  have hwhole := hsplit start hstart
  have hpattern := hsplit [] List.not_mem_nil
  simp only [List.nil_append] at hpattern
  simp only [isMatch, hwhole, hpattern, if_true, afterSegment?_append]
  cases afterSegment? start text <;> simp

/-- Without `^` a segment takes itself and nothing else. -/
theorem afterSegment?_literal_iff (hliteral : ∀ p ∈ segment, p ≠ separatorMark) :
    afterSegment? segment text = some rest ↔ text = segment ++ rest := by
  refine ⟨eq_append_of_afterSegment?_literal hliteral, ?_⟩
  rintro rfl
  induction segment with
  | nil => rfl
  | cons p segment ih =>
    have hp : ¬ (p == separatorMark) := by simpa using hliteral p List.mem_cons_self
    rw [List.cons_append, afterSegment?, if_neg hp, if_pos (beq_self_eq_true p)]
    exact ih fun q hq => hliteral q (List.mem_cons_of_mem _ hq)

/-- A byte that is a separator, or `^`, takes no byte that is none. -/
theorem not_isMatch_true_cons (hmark : Url.isSeparator mark) (hstar : mark ≠ wildcard)
    (hc : Url.isSeparator c = false) : ¬ isMatch true right (mark :: back) (c :: text) := by
  have hne : mark ≠ c := by
    rintro rfl
    rw [hc] at hmark
    exact Bool.false_ne_true hmark
  have hnone : afterSegment? [mark] (c :: text) = none := by
    simp [afterSegment?, hc, hne]
  rw [← List.singleton_append, isMatch_true_append_iff (by simpa using hstar.symm), hnone]
  rintro ⟨rest, hrest, -⟩
  cases hrest

/-- **A domain and a mark behind it match where the domain is all of the host**, if no byte of the
host is a separator and the domain does not hold the byte after the host. -/
theorem isMatch_domain_iff (hdomain : ∀ b ∈ domain, b ≠ wildcard ∧ b ≠ separatorMark)
    (hmark : Url.isSeparator mark) (hstar : mark ≠ wildcard)
    (hhost : ∀ b ∈ host, Url.isSeparator b = false) (hrest : ∀ b ∈ rest.head?, b ∉ domain) :
    isMatch true right (domain ++ mark :: back) (host ++ rest) ↔
      host = domain ∧ isMatch true right (mark :: back) rest := by
  have hfree : wildcard ∉ domain := fun h => (hdomain _ h).1 rfl
  rw [isMatch_true_append_iff hfree]
  simp only [afterSegment?_literal_iff fun b hb => (hdomain b hb).2]
  constructor
  · rintro ⟨left, htext, hmatch⟩
    rcases List.append_eq_append_iff.mp htext with ⟨more, rfl, hleft⟩ | ⟨more, rfl, rfl⟩
    -- the domain runs on into what follows the host
    · cases more with
      | nil => exact ⟨(List.append_nil host).symm, by rwa [hleft, List.nil_append]⟩
      | cons b more =>
        refine absurd (List.mem_append_right host List.mem_cons_self) (hrest b ?_)
        rw [hleft]
        rfl
    -- the host runs on behind the domain
    · cases more with
      | nil => exact ⟨List.append_nil domain, by rwa [List.nil_append] at hmatch⟩
      | cons b more =>
        have hb := hhost b (List.mem_append_right domain List.mem_cons_self)
        exact absurd hmatch (not_isMatch_true_cons hmark hstar hb)
  · rintro ⟨rfl, hmatch⟩
    exact ⟨rest, rfl, hmatch⟩

/-- A `^` takes what follows a host: a separator, or the end. -/
theorem isMatch_separatorMark (h : ∀ b ∈ text.head?, Url.isSeparator b) :
    isMatch true false [separatorMark] text := by
  have hmark : wildcard ∉ [separatorMark] := by decide
  rw [← List.append_nil [separatorMark], isMatch_true_append_iff hmark]
  cases text with
  | nil => exact ⟨[], rfl, by decide⟩
  | cons b text =>
    have hb : Url.isSeparator b := h b rfl
    have htaken : afterSegment? [separatorMark] (b :: text) = some text := by
      simp [afterSegment?, hb]
    exact ⟨text, htaken, rfl⟩

end Glob

/-! ## Characters -/

namespace NetworkRule

variable {c : Char}

/-- What ends a host is one byte, and a separator. -/
theorem isSeparator_of_endsHost (h : endsHost c) :
    c.toNat < 128 ∧ Url.isSeparator (UInt8.ofNat c.toNat) := by
  simp only [endsHost, Bool.or_eq_true, beq_iff_eq] at h
  rcases h with (((((rfl | rfl) | rfl) | rfl) | rfl) | rfl) | rfl <;> decide

@[simp] theorem endsHost_toLower (c : Char) : endsHost c.toLower = endsHost c := by
  simp only [endsHost, Text.toLower_beq (show Text.isCaseless '/' from rfl),
    Text.toLower_beq (show Text.isCaseless '^' from rfl),
    Text.toLower_beq (show Text.isCaseless '*' from rfl),
    Text.toLower_beq (show Text.isCaseless '?' from rfl),
    Text.toLower_beq (show Text.isCaseless '#' from rfl),
    Text.toLower_beq (show Text.isCaseless ':' from rfl),
    Text.toLower_beq (show Text.isCaseless '|' from rfl)]

theorem endsHost_of_endsAuthority (h : c = ':' ∨ Url.endsAuthority c) : endsHost c := by
  simp only [Url.endsAuthority, Bool.or_eq_true, beq_iff_eq] at h
  rcases h with rfl | (rfl | rfl) | rfl <;> rfl

end NetworkRule

open NetworkRule

/-- What follows a host begins with a separator, where there is anything. -/
theorem Url.Parts.head?_utf8_rest {url : List Char} {p : Url.Parts} (h : Url.parts? url = some p) :
    ∀ b ∈ (Text.utf8 (String.ofList p.rest)).head?,
      ∃ c, endsHost c ∧ b = UInt8.ofNat c.toNat := by
  have hhead := Url.Parts.head?_rest h
  cases hrest : p.rest with
  | nil => simp [Text.utf8]
  | cons c rest =>
    have hends := endsHost_of_endsAuthority (hhead c (by rw [hrest]; rfl))
    rw [Text.utf8_ofList_cons_of_ascii (isSeparator_of_endsHost hends).1]
    intro b hb
    exact ⟨c, hends, (Option.some.inj hb).symm⟩

namespace NetworkFilter

variable {search : RegexSearch} {f : NetworkFilter} {r : Request} {url domain back : List Char}
variable {mark : Char} {p : Url.Parts}

theorem patternMatches_iff_of_hostAnchor (hregex : ¬ f.mask.has .regex)
    (hhost : f.mask.has .hostAnchor) : f.patternMatches search r ↔
      ∃ p, Url.parts? (f.comparedUrl r) = some p ∧ p.labelStarts.any (f.globMatches true) := by
  rw [patternMatches, if_neg hregex, if_pos hhost]
  cases Url.parts? (f.comparedUrl r) <;> simp

/-- **A pattern that begins with a domain** matches where the domain covers the host, and the rest
of the pattern matches what follows the host. -/
theorem any_labelStarts_iff (hparts : Url.parts? url = some p)
    (hpattern : f.pattern = String.ofList (domain ++ mark :: back))
    (hdomain : ∀ c ∈ domain, ¬ endsHost c) (hmark : endsHost mark) (hstar : mark ≠ '*')
    (hhost : ∀ b ∈ Text.utf8 (String.ofList p.host), Url.isSeparator b = false) :
    p.labelStarts.any (f.globMatches true) ↔ Host.covers domain p.host ∧
      Glob.isMatch true (f.mask.has .rightAnchor) (Text.utf8 (String.ofList (mark :: back)))
        (Text.utf8 (String.ofList p.rest)) := by
  obtain ⟨hascii, hseparator⟩ := isSeparator_of_endsHost hmark
  have hnotMark : ∀ c, endsHost c → UInt8.ofNat c.toNat ∉ Text.utf8 (String.ofList domain) := by
    intro c hc hmem
    rw [Text.mem_utf8_iff_of_ascii (isSeparator_of_endsHost hc).1] at hmem
    exact hdomain c hmem hc
  have hplain : ∀ b ∈ Text.utf8 (String.ofList domain),
      b ≠ Glob.wildcard ∧ b ≠ Glob.separatorMark := by
    intro b hb
    refine ⟨?_, ?_⟩
    · rintro rfl
      exact hnotMark '*' rfl hb
    · rintro rfl
      exact hnotMark '^' rfl hb
  have hstarByte : UInt8.ofNat mark.toNat ≠ Glob.wildcard := by
    intro h
    have hnat := congrArg UInt8.toNat h
    rw [UInt8.toNat_ofNat', show Glob.wildcard.toNat = '*'.toNat from rfl] at hnat
    exact hstar (Char.toNat_inj.mp (by omega))
  have hbehind : ∀ b ∈ (Text.utf8 (String.ofList p.rest)).head?,
      b ∉ Text.utf8 (String.ofList domain) := by
    intro b hb
    obtain ⟨c, hc, rfl⟩ := Url.Parts.head?_utf8_rest hparts b hb
    exact hnotMark c hc
  -- from a label on, the pattern matches where the domain is all of the host that is left
  have hlabel : ∀ label, Host.covers label p.host →
      (f.globMatches true (label ++ p.rest) ↔ label = domain ∧
        Glob.isMatch true (f.mask.has .rightAnchor) (Text.utf8 (String.ofList (mark :: back)))
          (Text.utf8 (String.ofList p.rest))) := by
    intro label hcovers
    have hbytes : ∀ b ∈ Text.utf8 (String.ofList label), Url.isSeparator b = false := by
      intro b hb
      refine hhost b ?_
      rcases Host.covers_iff.mp hcovers with h | ⟨front, h⟩
      · rwa [h]
      · rw [h, List.append_cons, Text.utf8_ofList_append]
        exact List.mem_append_right _ hb
    rw [globMatches, hpattern, Text.utf8_ofList_append, Text.utf8_ofList_append,
      Text.utf8_ofList_cons_of_ascii hascii,
      Glob.isMatch_domain_iff hplain hseparator hstarByte hbytes hbehind]
    exact and_congr_left fun _ => ⟨Text.utf8_ofList_injective, fun h => h ▸ rfl⟩
  simp only [List.any_eq_true, Url.Parts.mem_labelStarts_iff]
  constructor
  · rintro ⟨_, ⟨label, hcovers, rfl⟩, hmatch⟩
    obtain ⟨rfl, hrest⟩ := (hlabel label hcovers).mp hmatch
    exact ⟨hcovers, hrest⟩
  · rintro ⟨hcovers, hrest⟩
    exact ⟨_, ⟨domain, hcovers, rfl⟩, (hlabel domain hcovers).mpr ⟨rfl, hrest⟩⟩

end NetworkFilter

end Blocklist
