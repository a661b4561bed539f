import Blocklist.Proofs.Rule.WrittenHosts
/-!
# Rules — cosmetic filters that are read are well formed

The parser and the classifier look for the marker each on its own. A line that
is no comment and is accepted as a cosmetic filter is classified as one
(`RuleKind.ofLine?_of_cutMarker`), and one that is classified so has a marker,
be it of a kind that is not provided for
(`RuleKind.cutMarker_ne_missingMarker`). Main statement:
`CosmeticFilter.wellFormed_and_classified`.
-/

namespace Blocklist

open CosmeticRule WrittenHost

/-- What other modules rely on. -/
structure CosmeticFilter.WellFormed (f : CosmeticFilter) : Prop where
  /-- The selector may be one. -/
  selector : IsSelector f.selector.toList
  /-- An exception is for some pages. -/
  exception : f.mask.has .unhide → f.hostnames.isSome
  /-- A filter is for scripts in one way at most. -/
  scripts : ¬ (f.mask.has .scriptInject ∧ f.mask.has .scriptBlock)
  /-- The mask has no bit without a meaning. -/
  known : f.mask.IsKnown

/-! ## Classification -/

namespace RuleKind

variable {line : List Char} {m : Marked}

/-- **A line is a cosmetic filter** if it is no comment and its first `#` begins a marker. -/
theorem ofLine?_eq_some_cosmetic_iff : ofLine? line = some cosmetic ↔
    (∀ c ∈ comments, ¬ c.toList <+: line) ∧ ∃ front after,
      Text.cut? '#' line = some (front, after) ∧ ∃ marker ∈ markers, marker.toList <+: after := by
  rw [ofLine?]
  split
  · next hpassed =>
    simp only [Bool.or_eq_true, List.isEmpty_iff, List.any_eq_true,
      List.isPrefixOf_iff_prefix] at hpassed
    refine ⟨fun h => (nomatch h), ?_⟩
    rintro ⟨hcomments, front, after, hcut, -⟩
    rcases hpassed with rfl | ⟨c, hc, hprefix⟩
    · cases hcut
    · exact absurd hprefix (hcomments c hc)
  · next hkept =>
    simp only [Bool.or_eq_true, List.any_eq_true, List.isPrefixOf_iff_prefix, not_or, not_exists,
      not_and] at hkept
    rw [and_iff_right hkept.2]
    cases Text.cut? '#' line with
    | none => simp
    | some parts =>
      obtain ⟨front, after⟩ := parts
      have hfound : (∃ front' after', some (front, after) = some (front', after') ∧
          ∃ marker ∈ markers, marker.toList <+: after') ↔
            (markers.any fun m => m.toList.isPrefixOf after) := by
        simp [List.any_eq_true, List.isPrefixOf_iff_prefix]
      rw [hfound]
      dsimp only
      split
      · next hany => exact iff_of_true rfl hany
      · next hnone =>
        refine iff_of_false ?_ hnone
        split <;> exact fun h => (nomatch h)

/-- What the parser finds, the classifier does. -/
theorem ofLine?_of_cutMarker (hcut : cutMarker line = .ok m)
    (hcomments : ∀ c ∈ comments, ¬ c.toList <+: line) : ofLine? line = some cosmetic := by
  obtain ⟨hhosts, hline⟩ := cutMarker_eq_ok_iff.mp hcut
  obtain ⟨hosts, unhide, body⟩ := m
  have hfirst : ∀ after, line = hosts ++ '#' :: after →
      Text.cut? '#' line = some (hosts, after) := by
    rintro after rfl
    exact Text.cut?_append_cons hhosts after
  refine ofLine?_eq_some_cosmetic_iff.mpr ⟨hcomments, hosts, ?_⟩
  cases unhide with
  | false => exact ⟨'#' :: body, hfirst _ hline, "#", by decide, List.prefix_append ['#'] body⟩
  | true =>
    exact ⟨'@' :: '#' :: body, hfirst _ hline, "@#", by decide, List.prefix_append ['@', '#'] body⟩

/-- What the classifier finds has a marker for the parser too. -/
theorem cutMarker_ne_missingMarker (h : ofLine? line = some cosmetic) :
    cutMarker line ≠ .error .missingMarker := by
  obtain ⟨-, front, after, hcut, marker, hmarker, rest, rfl⟩ := ofLine?_eq_some_cosmetic_iff.mp h
  intro hmissing
  rw [cutMarker, hcut] at hmissing
  -- every marker begins with a character for which the line is accepted or unsupported
  simp only [markers, List.mem_cons, List.not_mem_nil, or_false] at hmarker
  rcases hmarker with rfl | rfl | rfl | rfl | rfl | rfl | rfl | rfl <;> cases hmissing

end RuleKind

/-! ## Refusals -/

section Refusals

variable {text : List Char} {e : CosmeticError} {idna : ToAscii}

theorem eq_punycode_of_hostList? (h : hostList? idna text = .error e) : e = .punycode := by
  rcases bind_eq_error_iff.mp h with hfound | ⟨_, -, h⟩
  · obtain ⟨piece, -, hpiece⟩ := exists_of_mapM_eq_error hfound
    rw [storedHost?_eq] at hpiece
    split at hpiece
    · cases hpiece
    · split at hpiece
      · cases hpiece
      · exact (Except.error.inj hpiece).symm
  · cases h

theorem eq_unclosedScript_of_unclose (h : unclose text = .error e) : e = .unclosedScript := by
  rw [unclose] at h
  split at h
  · cases h
  · exact (Except.error.inj h).symm

theorem eq_unclosedScript_of_readBody (h : CosmeticRule.readBody text = .error e) :
    e = .unclosedScript := by
  rw [CosmeticRule.readBody] at h
  split at h
  · rcases bind_eq_error_iff.mp h with hcall | ⟨call, -, h⟩
    · exact eq_unclosedScript_of_unclose hcall
    · split at h
      · cases h
      · split at h <;> cases h
  · split at h
    · rcases bind_eq_error_iff.mp h with hcall | ⟨call, -, h⟩
      · exact eq_unclosedScript_of_unclose hcall
      · cases h
    · cases h

/-- Only the marker is missed for want of a marker. -/
theorem cutMarker_of_ofLine {keepLine : Bool} {line : String}
    (h : CosmeticFilter.ofLine idna keepLine line = .error .missingMarker) :
    cutMarker line.toList = .error .missingMarker := by
  simp only [CosmeticFilter.ofLine, bind_eq_error_iff, guard_eq_error_iff] at h
  rcases h with hmarker | ⟨m, -, hhosts | ⟨hosts, -, hbody | ⟨b, -, hchecks⟩⟩⟩
  · exact hmarker
  · cases eq_punycode_of_hostList? hhosts
  · cases eq_unclosedScript_of_readBody hbody
  · simp [pure, Except.pure] at hchecks

end Refusals

/-! ## Filters -/

namespace CosmeticFilter

variable {idna : ToAscii} {keepLine : Bool} {line : String} {f : CosmeticFilter}

theorem wellFormed_assemble {unhide : Bool} {hosts : Option HostList} {text : List Char} {b : Body}
    (hbody : BodyForm text b) (hselector : IsSelector b.selector)
    (hexception : unhide → hosts ≠ none) :
    (assemble unhide hosts b).WellFormed := by
  have hswitches : ∀ switches ∈ [[], [.scriptInject], [.scriptBlock]],
      CosmeticSwitch.unhide ∉ switches ∧
        ¬ (.scriptInject ∈ switches ∧ .scriptBlock ∈ switches) := by decide
  obtain ⟨hunhide, hscripts⟩ := hswitches _ hbody.switches_mem
  exact {
    selector := by rwa [assemble, String.toList_ofList]
    exception := by
      rw [has_assemble, or_iff_left hunhide]
      exact fun h => Option.isSome_iff_ne_none.mpr (hexception h.2)
    scripts := by simpa [has_assemble] using hscripts
    known := CosmeticMask.isKnown_make _ }

theorem wellFormed_of_ofLine_eq_ok (h : ofLine idna keepLine line = .ok f) : f.WellFormed := by
  obtain ⟨m, hosts, b, -, -, hbody, hselector, hexception, rfl⟩ := ofLine_eq_ok_iff.mp h
  exact { wellFormed_assemble (readBody_eq_ok_iff.mp hbody) hselector hexception with }

/-- A list of hosts has a text where every host has one in ASCII. -/
theorem text_ne_of_isRead {written : List WrittenHost} {l : HostList}
    (h : HostList.IsRead idna written (some l))
    (hidna : ∀ w ∈ written, ¬ Text.isAscii w.host → idna w.host ≠ some []) :
    l.text ≠ "" := by
  obtain ⟨entries, hstores, hentries⟩ := HostList.exists_entries_of_isRead h
  obtain ⟨hne, hl⟩ := Option.ite_none_left_eq_some.mp hentries
  obtain rfl := Option.some.inj hl
  intro hempty
  -- an empty text is that of one empty entry
  obtain rfl := Text.eq_singleton_of_intercalate_eq_nil (mt List.isEmpty_iff.mpr hne)
    (String.ofList_eq_empty_iff.mp hempty)
  obtain ⟨w, hw, stored, hstored, hnil⟩ := exists_of_forall₂ hstores.flip List.mem_cons_self
  obtain ⟨-, rfl⟩ := List.append_eq_nil_iff.mp hnil
  by_cases hascii : Text.isAscii w.host
  · rw [Host.normal?_of_isAscii hascii] at hstored
    exact (HostList.spec_of_isRead h hw).1 (List.map_eq_nil_iff.mp (Option.some.inj hstored))
  · rw [Host.normal?_of_not_isAscii hascii] at hstored
    exact hidna w hw hascii hstored

/-- **Every filter that is read is well formed**, and its list of hosts is not empty unless a host
of the line has an empty form in ASCII. A line that is accepted is classified as a cosmetic filter
if it is no comment, and no line that is classified as one is refused for want of a marker. -/
theorem wellFormed_and_classified (idna : ToAscii) (keepLine : Bool) (line : String) :
    (∀ f, ofLine idna keepLine line = .ok f → f.WellFormed ∧
      (∀ m, cutMarker line.toList = .ok m →
        (∀ w ∈ ofMarked m.hosts, ¬ Text.isAscii w.host → idna w.host ≠ some []) →
        ∀ l, f.hostnames = some l → l.text ≠ "") ∧
      ((∀ c ∈ RuleKind.comments, ¬ c.toList <+: line.toList) →
        RuleKind.ofLine? line.toList = some .cosmetic)) ∧
      (RuleKind.ofLine? line.toList = some .cosmetic →
        ofLine idna keepLine line ≠ .error .missingMarker) := by
  refine ⟨fun f h => ⟨wellFormed_of_ofLine_eq_ok h, fun m hcut hidna l hl => ?_,
    fun hcomments => ?_⟩, fun hkind h => ?_⟩
  · exact text_ne_of_isRead (hl ▸ .line hcut h) hidna
  · obtain ⟨m, _, _, hcut, -⟩ := ofLine_eq_ok_iff.mp h
    exact RuleKind.ofLine?_of_cutMarker hcut hcomments
  · exact RuleKind.cutMarker_ne_missingMarker hkind (cutMarker_of_ofLine h)

/-- A filter that takes a scriptlet back from some pages. -/
def scriptletException : CosmeticFilter where
  mask := .make [.unhide, .scriptInject]
  selector := "set-constant, ads, false"
  hostnames := some ⟨"news.example,~cdn.news.example"⟩

theorem wellFormed_and_classified_scriptlet : scriptletException.WellFormed ∧
    "news.example,~cdn.news.example" ≠ "" ∧
    RuleKind.ofLine?
      "News.example, ~cdn.news.example#@#+js(set-constant, ads, false)".toList
        = some .cosmetic := by
  have hline : ofLine Idna.toAscii? false
      "News.example, ~cdn.news.example#@#+js(set-constant, ads, false)"
      = .ok scriptletException := by decide +kernel
  have hcut : cutMarker "News.example, ~cdn.news.example#@#+js(set-constant, ads, false)".toList
      = .ok ⟨"News.example, ~cdn.news.example".toList, true,
          "+js(set-constant, ads, false)".toList⟩ := by decide +kernel
  obtain ⟨hall, -⟩ := wellFormed_and_classified Idna.toAscii? false
    "News.example, ~cdn.news.example#@#+js(set-constant, ads, false)"
  obtain ⟨hformed, htext, hkind⟩ := hall _ hline
  refine ⟨hformed, htext _ hcut (fun w hw hascii => absurd ?_ hascii) _ rfl, hkind (by decide)⟩
  have hplain : ∀ w ∈ ofMarked "News.example, ~cdn.news.example".toList, Text.isAscii w.host := by
    decide +kernel
  exact hplain w hw

end CosmeticFilter

end Blocklist
