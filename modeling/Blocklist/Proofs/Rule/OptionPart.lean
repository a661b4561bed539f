import Blocklist.Proofs.Host.Address
import Blocklist.Proofs.Rule.Badfilter
import Blocklist.Proofs.Rule.WellFormed
/-!
# Rules — a pattern and the options behind it

Where a pattern without blanks and `$` has options behind a `$`, the filter
has the options as they are read by themselves (`NetworkFilter.HasOptions`),
and its anchors and its pattern come from the pattern alone
(`NetworkFilter.HasPattern`). The exception is a line that is a regular
expression as a whole, options and all (`IsWhole`): slashes on the outside
win over a `$` between them. Main statement: `NetworkFilter.ofLine_withOptions`.
-/

namespace Blocklist

namespace NetworkRule

variable {text options pattern : List Char} {o : RuleOptions} {exception : List NetworkSwitch}
variable {f : NetworkFilter} {bare : Bool} {idna : ToAscii} {check : RegexCheck}

/-! ## What a pattern is by itself -/

/-- The switches that a pattern turns on by itself: its anchors, unless it is a regular
expression. -/
def patternSwitches (text : List Char) : List NetworkSwitch :=
  if (regexSource? text).isSome then [.regex] else (cutAnchors text).switches

/-- What is stored of a pattern by itself. -/
def storedForm (idna : ToAscii) (matchCase : Bool) (text : List Char) :
    Except NetworkError (List Char) :=
  match regexSource? text with
  | some source => .ok source
  | none =>
    storedPattern idna ((cutAnchors text).switches.contains .hostAnchor) matchCase
      (cutAnchors text).pattern

theorem patternSwitches_subset (text : List Char) : patternSwitches text ⊆ formChoices := by
  rw [patternSwitches]
  split
  · decide
  · intro switch hswitch
    exact List.mem_append_left [.regex] ((switches_cutAnchors text).1 hswitch)

/-- **A filter is put together** from a mark, options, and what the pattern is by itself. -/
theorem exists_storedForm_of_readPattern
    (h : readPattern idna check exception o bare text = .ok f) :
    ∃ pattern, storedForm idna o.matchCase text = .ok pattern ∧
      assemble o (exception ++ patternSwitches text) pattern = f := by
  rcases readPattern_eq_ok_iff.mp h with
    ⟨source, hsource, -, rfl⟩ | ⟨hnone, -, pattern, hstored, rfl⟩
  · exact ⟨source, by rw [storedForm, hsource], by rw [patternSwitches, hsource]; rfl⟩
  · exact ⟨pattern, by rw [storedForm, hnone]; exact hstored,
      by rw [patternSwitches, hnone]; rfl⟩

/-! ## Where options begin -/

/-- Whether a pattern and the options behind it are one regular expression. -/
def IsWhole (text options : List Char) : Prop :=
  text.head? = some '/' ∧ options.getLast? = some '/'

/-- **A regular expression as a whole** begins in the pattern and ends in the options. -/
theorem regexSource?_eq_some_iff_of_options {source : List Char} :
    regexSource? (text ++ '$' :: options) = some source ↔
      IsWhole text options ∧ '/' :: source ++ ['/'] = text ++ '$' :: options := by
  rw [regexSource?_eq_some_iff]
  constructor
  · rintro ⟨hwhole, -⟩
    refine ⟨⟨?_, ?_⟩, hwhole.symm⟩
    · cases text with
      | nil => exact absurd (List.cons.inj hwhole).1 (by decide)
      | cons c text => exact congrArg some (List.cons.inj hwhole).1
    · have hlast := congrArg List.getLast? hwhole
      rw [List.getLast?_concat] at hlast
      rcases List.eq_nil_or_concat options with rfl | ⟨front, c, rfl⟩
      · rw [List.getLast?_concat] at hlast
        exact absurd (Option.some.inj hlast) (by decide)
      · rw [List.concat_eq_append] at hlast ⊢
        rw [← List.cons_append, ← List.append_assoc, List.getLast?_concat] at hlast
        rw [List.getLast?_concat, hlast]
  · rintro ⟨-, hwhole⟩
    refine ⟨hwhole.symm, ?_⟩
    rintro rfl
    -- between its slashes there is the `$` at least
    have hdollar : '$' ∈ ('/' :: [] ++ ['/'] : List Char) := by rw [hwhole]; simp
    exact absurd hdollar (by decide)

theorem exists_regexSource?_of_isWhole (h : IsWhole text options) :
    ∃ source, regexSource? (text ++ '$' :: options) = some source := by
  obtain ⟨hhead, hlast⟩ := h
  obtain ⟨rest, rfl⟩ := List.head?_eq_some_iff.mp hhead
  obtain ⟨front, rfl⟩ := List.getLast?_eq_some_iff.mp hlast
  refine ⟨rest ++ '$' :: front, regexSource?_eq_some_iff.mpr ⟨by simp, by simp⟩⟩

/-- **Options begin behind the `$`**, unless the whole is a regular expression. -/
theorem cutOptions_append_of_not_isWhole (hdollar : '$' ∉ options)
    (h : ¬ IsWhole text options) :
    cutOptions (text ++ '$' :: options) = (text, some options) := by
  refine cutOptions_eq_iff.mpr ⟨?_, Text.cutLast?_append_cons hdollar text⟩
  rw [Option.eq_none_iff_forall_ne_some]
  exact fun source hsource => h (regexSource?_eq_some_iff_of_options.mp hsource).1

theorem cutOptions_append_of_isWhole (h : IsWhole text options) :
    cutOptions (text ++ '$' :: options) = (text ++ '$' :: options, none) := by
  obtain ⟨source, hsource⟩ := exists_regexSource?_of_isWhole h
  rw [cutOptions, hsource]
  rfl

/-- A line whose first word has a `$` is no entry of a hosts file. -/
theorem hostsDomain?_append_of_dollar (idna : ToAscii)
    (hblank : ∀ c ∈ text, Text.isBlank c = false) (options : List Char) :
    hostsDomain? idna (text ++ '$' :: options) = .ok none := by
  have hword : ∀ c ∈ text ++ ['$'], Text.isBlank c = false := by
    intro c hc
    rcases List.mem_append.mp hc with hc | hc
    · exact hblank c hc
    · rw [List.mem_singleton.mp hc]
      decide
  obtain ⟨last, others, hwords⟩ := Text.exists_words_word_append (by simp) hword options
  rw [List.append_cons, hostsDomain?_eq_none_iff, hwords]
  intro first second rest hfirst haddress
  cases (List.cons.inj hfirst).1
  exact absurd (Host.isPart_of_isAddress haddress '$' (by simp)) (by decide)

/-! ## What a filter has -/

theorem markSwitches_subset (line : List Char) : markSwitches line ⊆ [.exception] := by
  rcases markSwitches_cases line with h | h <;> rw [h] <;> decide

theorem mem_markSwitches_iff {line : List Char} :
    .exception ∈ markSwitches line ↔ ['@', '@'] <+: line := by
  rw [markSwitches]
  constructor
  · intro h
    split at h
    · next hmark =>
      obtain ⟨rest, hrest⟩ := Option.isSome_iff_exists.mp hmark
      exact ⟨rest, (Text.eq_append_of_dropOpening? hrest).symm⟩
    · exact absurd h List.not_mem_nil
  · rintro ⟨rest, rfl⟩
    rw [Text.dropOpening?_append]
    exact List.mem_cons_self

end NetworkRule

open NetworkRule

namespace NetworkFilter

variable {keepLine : Bool} {pattern options : String} {text : List Char} {o : RuleOptions}
variable {exception : List NetworkSwitch} {f : NetworkFilter} {bare : Bool}
variable {idna : ToAscii} {check : RegexCheck}

/-- **A filter has the options**: their types, parties and flags, their lists and their value. -/
structure HasOptions (f : NetworkFilter) (o : RuleOptions) : Prop where
  /-- Its types are theirs. -/
  types : f.mask.types = o.types
  /-- Of the switches that options can turn on it has those that they do. -/
  switches : ∀ switch ∈ RuleOptions.switchChoices, (f.mask.has switch ↔ switch ∈ o.switches)
  /-- Its pages are theirs. -/
  domains : f.domains = o.domains
  /-- So are the hosts that a matching address may not have. -/
  denyallow : f.denyallow = o.denyallow
  /-- Its value is that of their modifier. -/
  value : f.value = o.value

/-- **A filter has the pattern**: of the switches that a pattern can turn on it has those that this
one does, and its text is what is stored of this one. -/
structure HasPattern (f : NetworkFilter) (idna : ToAscii) (matchCase : Bool) (text : List Char) :
    Prop where
  /-- Its anchors are those of the pattern, and it is a regular expression if the pattern is. -/
  switches : ∀ switch ∈ formChoices, (f.mask.has switch ↔ switch ∈ patternSwitches text)
  /-- Its text is what is stored of the pattern. -/
  stored : storedForm idna matchCase text = .ok f.pattern.toList

/-- A filter has the options and the pattern that it is read from. -/
theorem has_of_readPattern (ho : o.included.IsKnown) (hexception : exception ⊆ [.exception])
    (h : readPattern idna check exception o bare text = .ok f) :
    (f.mask.has .exception ↔ .exception ∈ exception) ∧ f.HasOptions o ∧
      f.HasPattern idna o.matchCase text := by
  obtain ⟨stored, hstored, rfl⟩ := exists_storedForm_of_readPattern h
  have hform := patternSwitches_subset text
  refine ⟨?_, ?_, ?_⟩
  · have hoption : .exception ∉ o.switches := fun hmem =>
      absurd (o.switches_subset hmem) (by decide)
    have hpattern : .exception ∉ patternSwitches text := fun hmem =>
      exception_not_mem_formChoices (hform hmem)
    rw [has_assemble ho, or_iff_right hoption, or_iff_left hpattern]
  · exact {
      types := NetworkMask.types_make (RuleOptions.isKnown_types ho)
      switches := fun _ => has_assemble_of_option ho hexception hform
      domains := rfl
      denyallow := rfl
      value := rfl }
  · exact {
      switches := fun _ => has_assemble_of_form ho hexception
      stored := by rw [assemble, String.toList_ofList]; exact hstored }

/-- **Options change nothing of the pattern before them, and a pattern nothing of its options.**
Where options are accepted by themselves, and also behind a `$` and a pattern without blanks, the
filter is an exception exactly if the pattern has its mark; and unless the pattern begins and the
options end with a slash, the filter has these options, and its anchors and its text are those of
the pattern, in whose text the options count by `match-case` alone. If there are these slashes, the
line is one regular expression and has no options: all that stands between them is its source. -/
theorem ofLine_withOptions (hblank : ∀ c ∈ pattern.toList, Text.isBlank c = false)
    (hdollar : '$' ∉ options.toList)
    (hoptions : readOptions idna (markSwitches pattern.toList) (some options.toList) = .ok o)
    (hline : ofLine idna check keepLine (pattern ++ "$" ++ options) = .ok f) :
    (f.mask.has .exception ↔ ['@', '@'] <+: pattern.toList) ∧
      (¬ IsWhole (afterMark pattern.toList) options.toList →
        f.HasOptions o ∧ f.HasPattern idna o.matchCase (afterMark pattern.toList)) ∧
      (IsWhole (afterMark pattern.toList) options.toList →
        f.HasOptions {} ∧ f.mask.has .regex ∧
          '/' :: f.pattern.toList ++ ['/']
            = afterMark pattern.toList ++ '$' :: options.toList) := by
  have htext : (pattern ++ "$" ++ options).toList = pattern.toList ++ '$' :: options.toList := by
    simp
  have hhosts := hostsDomain?_append_of_dollar idna hblank options.toList
  rw [← htext] at hhosts
  obtain ⟨-, g, hbody, rfl⟩ := (ofLine_eq_ok_iff hhosts).mp hline
  rw [htext] at hbody
  obtain ⟨read, hread, hpattern⟩ := readBody_eq_ok_iff.mp hbody
  rw [markSwitches_append (by decide), afterMark_append (by decide)] at hread hpattern
  have hmark := markSwitches_subset pattern.toList
  rw [← mem_markSwitches_iff]
  by_cases hwhole : IsWhole (afterMark pattern.toList) options.toList
  · -- the line is a regular expression, so no options are read
    rw [cutOptions_append_of_isWhole hwhole] at hread hpattern
    cases hread
    obtain ⟨hexception, hnone, hall⟩ := has_of_readPattern TypeSet.isKnown_empty hmark hpattern
    obtain ⟨source, hsource⟩ := exists_regexSource?_of_isWhole hwhole
    have hstored := hall.stored
    rw [storedForm, hsource] at hstored
    refine ⟨hexception, absurd hwhole, fun _ => ⟨{ hnone with }, ?_, ?_⟩⟩
    · rw [hall.switches .regex (by decide), patternSwitches, hsource]
      exact List.mem_cons_self
    · rw [← (regexSource?_eq_some_iff_of_options.mp hsource).2, Except.ok.inj hstored]
  · rw [cutOptions_append_of_not_isWhole hdollar hwhole] at hread hpattern
    cases hoptions.symm.trans hread
    have ho := (RuleOptions.sound_of_ofText hoptions).included
    obtain ⟨hexception, hall, hform⟩ := has_of_readPattern ho hmark hpattern
    exact ⟨hexception, fun _ => ⟨{ hall with }, { hform with }⟩, fun h => absurd h hwhole⟩

/-- The filter of `@@||Ads.example/Top` with options that name types, pages and a policy. -/
def topFilter : NetworkFilter where
  mask := .make (.ofList [.script, .image]) [.firstParty, .matchCase, .csp, .exception, .hostAnchor]
  pattern := "ads.example/Top"
  domains := some ⟨"a.com,~b.a.com"⟩
  value := some "script-src /x/"

theorem ofLine_withOptions_topFilter :
    ∃ o, readOptions Idna.toAscii? [.exception]
        (some "image,~3p,domain=a.com|~b.a.com,csp=script-src /x/,match-case,script".toList)
          = .ok o ∧
      topFilter.HasOptions o ∧
      topFilter.HasPattern Idna.toAscii? true "||Ads.example/Top".toList := by
  have hoptions : readOptions Idna.toAscii? (markSwitches "@@||Ads.example/Top".toList)
      (some "image,~3p,domain=a.com|~b.a.com,csp=script-src /x/,match-case,script".toList) = .ok
        { included := .ofList [.script, .image]
          thirdParty := false
          matchCase := true
          modifier := some (.csp, "script-src /x/")
          domains := some ⟨"a.com,~b.a.com"⟩ } := by decide +kernel
  have hline : ofLine Idna.toAscii? .compiled false ("@@||Ads.example/Top" ++ "$"
      ++ "image,~3p,domain=a.com|~b.a.com,csp=script-src /x/,match-case,script")
        = .ok topFilter := by decide +kernel
  have hblank : "@@||Ads.example/Top".toList.all (!Text.isBlank ·) := by decide +kernel
  obtain ⟨-, hread, -⟩ := ofLine_withOptions
    (fun c hc => by simpa using List.all_eq_true.mp hblank c hc) (by decide +kernel) hoptions hline
  refine ⟨_, hoptions, hread ?_⟩
  rintro ⟨hslash, -⟩
  exact absurd hslash (by decide +kernel)

/-- **Options may become a part of the pattern**: behind `/(?-i)ads` the policy `/a/` is read as the
end of a regular expression, though both are accepted by themselves. -/
theorem ofLine_wholeRegex :
    (∀ c ∈ "/(?-i)ads".toList, Text.isBlank c = false ∧ c ≠ '$') ∧ '$' ∉ "csp=/a/".toList ∧
    ∃ o f, (∀ idna, readOptions idna (markSwitches "/(?-i)ads".toList)
        (some "csp=/a/".toList) = .ok o) ∧
      (∀ (idna : ToAscii) (check : RegexCheck), check "(?-i)ads$csp=/a" false = none →
        ofLine idna check false ("/(?-i)ads" ++ "$" ++ "csp=/a/") = .ok f) ∧
      ¬ f.HasOptions o ∧ f.pattern = "(?-i)ads$csp=/a" ∧
      RegexCheck.compiled "(?-i)ads$csp=/a" false = none := by
  have hplain : ∀ c ∈ "/(?-i)ads".toList, Text.isBlank c = false ∧ c ≠ '$' := by
    have hall : "/(?-i)ads".toList.all fun c => !Text.isBlank c && c != '$' := by decide +kernel
    exact fun c hc => by simpa using List.all_eq_true.mp hall c hc
  refine ⟨hplain, by decide +kernel, { modifier := some (.csp, "/a/") },
    assemble {} [.regex] "(?-i)ads$csp=/a".toList, fun idna => ?_, fun idna check hcheck => ?_,
    fun h => ?_, String.ofList_toList, by decide +kernel⟩
  · rw [readOptions,
      RuleOptions.ofText_congr_of_isAscii idna Idna.toAscii? (by decide +kernel)]
    decide +kernel
  · have hline : ("/(?-i)ads" ++ "$" ++ "csp=/a/").toList
        = "/(?-i)ads".toList ++ '$' :: "csp=/a/".toList := by decide +kernel
    have hmark : markSwitches ("/(?-i)ads".toList ++ '$' :: "csp=/a/".toList) = [] := by
      decide +kernel
    have hcut : cutOptions (afterMark ("/(?-i)ads".toList ++ '$' :: "csp=/a/".toList))
        = ("/(?-i)ads$csp=/a/".toList, none) := by decide +kernel
    have hsource : regexSource? "/(?-i)ads$csp=/a/".toList = some "(?-i)ads$csp=/a".toList := by
      decide +kernel
    have hhosts := hostsDomain?_append_of_dollar idna
      (fun c hc => (hplain c hc).1) "csp=/a/".toList
    have hread : readPattern idna check [] {} true "/(?-i)ads$csp=/a/".toList
        = .ok (assemble {} [.regex] "(?-i)ads$csp=/a".toList) :=
      readPattern_eq_ok_iff.mpr (.inl ⟨_, hsource, by rwa [String.ofList_toList], rfl⟩)
    rw [← hline] at hhosts
    rw [ofLine_eq_ok_iff hhosts, hline]
    refine ⟨by decide, assemble {} [.regex] "(?-i)ads$csp=/a".toList,
      readBody_eq_ok_iff.mpr ⟨{}, ?_, ?_⟩, rfl⟩
    · rw [hcut]
      rfl
    · rw [hmark, hcut]
      exact hread
  · exact absurd h.value (by decide)

end NetworkFilter

end Blocklist
