import Mathlib.Data.List.Permutation
import Blocklist.Proofs.Idna.Name
import Blocklist.Proofs.Rule.Ascii
import Blocklist.Proofs.Rule.Options
import Blocklist.Proofs.Rule.Reading
import Blocklist.Regex.Program
/-!
# Rules — filters that are read are well formed

Whichever way a filter is read from its line, it is put together from a mark,
options that are accepted and the form of its pattern (`ReadFrom`). Main
statement (`wellFormed_of_ofLine`): what other modules rely on holds of it.
Its pattern is empty only where its line has options, or where the host that
the pattern begins with has nothing left in ASCII.
-/

namespace Blocklist

/-! ## What is relied on -/

/-- What matching, storing and filing rely on. -/
structure NetworkFilter.WellFormed (check : RegexCheck) (f : NetworkFilter) : Prop where
  /-- The mask has no bit without a meaning. -/
  known : f.mask.IsKnown
  /-- The filter is for requests of some type. -/
  types : ¬ f.mask.types.isEmpty
  /-- It is for requests of some party. -/
  party : f.mask.has .firstParty ∨ f.mask.has .thirdParty
  /-- It has one modifier at most. -/
  modifier : ∀ m m' : Modifier, f.mask.has m.switch → f.mask.has m'.switch → m = m'
  /-- It has a value where it has a modifier. -/
  value : f.value.isSome ↔ ∃ m : Modifier, f.mask.has m.switch
  /-- Only an exception has an empty value. -/
  emptyValue : f.value = some "" → f.mask.has .exception
  /-- A regular expression has no anchors. -/
  regex : f.mask.has .regex →
    ¬ f.mask.has .leftAnchor ∧ ¬ f.mask.has .rightAnchor ∧ ¬ f.mask.has .hostAnchor
  /-- A pattern has one anchor at most at its beginning. -/
  anchors : ¬ (f.mask.has .leftAnchor ∧ f.mask.has .hostAnchor)
  /-- A regular expression compiles. -/
  program : f.mask.has .regex → f.compiles check
  /-- Any other pattern is in lower case, unless case counts. -/
  lower : ¬ f.mask.has .regex → ¬ f.mask.has .matchCase → Text.IsLower f.pattern.toList
  /-- No host is excepted from those that an address may not have. -/
  denyallow : ∀ list, f.denyallow = some list →
    ∀ entry ∈ list.parts, HostList.negated? entry = none
  /-- Lists are in lower case. -/
  lists : ∀ list, f.domains = some list ∨ f.denyallow = some list →
    ∀ entry ∈ list.parts, Text.IsLower entry

theorem NetworkFilter.WellFormed.of_line {check : RegexCheck} {f : NetworkFilter}
    (h : f.WellFormed check) (rawLine : Option String) :
    NetworkFilter.WellFormed check { f with rawLine } := { h with }

/-! ## The switches of options -/

namespace RuleOptions

variable {o : RuleOptions} {switch : NetworkSwitch} {modifier : Modifier}

/-- The switches that options turn on by a word without a value. -/
def flagChoices : List NetworkSwitch := [.firstParty, .thirdParty, .matchCase, .badfilter]

/-- The switches that options can turn on. -/
def switchChoices : List NetworkSwitch := flagChoices ++ [.csp, .redirect, .redirectRule]

/-- Whether a word turns on a switch. -/
def flag (o : RuleOptions) : NetworkSwitch → Bool
  | .firstParty => o.firstParty
  | .thirdParty => o.thirdParty
  | .matchCase => o.matchCase
  | .badfilter => o.badfilter
  | _ => false

theorem mem_switches : switch ∈ o.switches ↔
    o.flag switch ∨ ∃ modifier value, o.modifier = some (modifier, value) ∧
      modifier.switch = switch := by
  cases switch <;> simp [switches, flag]

theorem mem_switches_iff_flag (h : switch ∈ flagChoices) :
    switch ∈ o.switches ↔ o.flag switch := by
  rw [mem_switches, or_iff_left]
  rintro ⟨modifier, -, -, rfl⟩
  revert h
  cases modifier <;> decide

theorem mem_switches_iff_modifier :
    modifier.switch ∈ o.switches ↔ ∃ value, o.modifier = some (modifier, value) := by
  have hflag : ¬ o.flag modifier.switch := by cases modifier <;> exact Bool.false_ne_true
  have hinjective : ∀ other : Modifier, other.switch = modifier.switch → other = modifier := by
    intro other
    cases other <;> cases modifier <;> decide
  rw [mem_switches, or_iff_right hflag]
  constructor
  · rintro ⟨other, value, hother, heq⟩
    exact ⟨value, hinjective other heq ▸ hother⟩
  · rintro ⟨value, hvalue⟩
    exact ⟨modifier, value, hvalue, rfl⟩

theorem switch_mem_switchChoices (modifier : Modifier) : modifier.switch ∈ switchChoices := by
  cases modifier <;> decide

theorem switches_subset (o : RuleOptions) : o.switches ⊆ switchChoices := by
  intro switch h
  rcases mem_switches.mp h with hflag | ⟨modifier, -, -, rfl⟩
  · revert hflag
    cases switch <;> simp [flag, switchChoices, flagChoices]
  · exact switch_mem_switchChoices modifier

theorem isKnown_types (h : o.included.IsKnown) : o.types.IsKnown := by
  refine TypeSet.IsKnown.without ?_ _
  split
  · exact TypeSet.isKnown_full
  · exact h

end RuleOptions

/-! ## The form of a pattern -/

namespace NetworkRule

variable {line text pattern : List Char} {o : RuleOptions} {exception form : List NetworkSwitch}
variable {f : NetworkFilter} {bare matchCase hostAnchor : Bool}
variable {idna : ToAscii} {check : RegexCheck}

/-- What a pattern can be, with the switches that say so. -/
inductive PatternForm (check : RegexCheck) (matchCase : Bool) :
    List NetworkSwitch → List Char → Prop
  | regex {source : List Char}
      (hcompiles : check (String.ofList source) matchCase = none) :
      PatternForm check matchCase [.regex] source
  | literal {anchors : List NetworkSwitch} {pattern : List Char}
      (hanchors : anchors ⊆ [.leftAnchor, .rightAnchor, .hostAnchor])
      (honce : .leftAnchor ∈ anchors → .hostAnchor ∉ anchors)
      (hlower : ¬ matchCase → Text.IsLower pattern) :
      PatternForm check matchCase anchors pattern

/-- The switches that a pattern can turn on. -/
def formChoices : List NetworkSwitch := [.leftAnchor, .rightAnchor, .hostAnchor, .regex]

theorem PatternForm.subset (h : PatternForm check matchCase form pattern) : form ⊆ formChoices := by
  cases h with
  | regex => decide
  | literal hanchors =>
    intro switch hswitch
    exact List.mem_append_left [.regex] (hanchors hswitch)

theorem PatternForm.anchors_of_regex (h : PatternForm check matchCase form pattern)
    (hregex : .regex ∈ form) : .leftAnchor ∉ form ∧ .rightAnchor ∉ form ∧ .hostAnchor ∉ form := by
  cases h with
  | regex => decide
  | literal hanchors => exact absurd (hanchors hregex) (by decide)

theorem PatternForm.not_both (h : PatternForm check matchCase form pattern) :
    ¬ (.leftAnchor ∈ form ∧ .hostAnchor ∈ form) := by
  cases h with
  | regex => decide
  | literal _ honce => exact fun hboth => honce hboth.1 hboth.2

theorem PatternForm.compiles (h : PatternForm check matchCase form pattern)
    (hregex : .regex ∈ form) :
    check (String.ofList pattern) matchCase = none := by
  cases h with
  | regex hcompiles => exact hcompiles
  | literal hanchors => exact absurd (hanchors hregex) (by decide)

theorem PatternForm.isLower (h : PatternForm check matchCase form pattern) (hregex : .regex ∉ form)
    (hcase : ¬ matchCase) : Text.IsLower pattern := by
  cases h with
  | regex => exact absurd List.mem_cons_self hregex
  | literal _ _ hlower => exact hlower hcase

theorem switches_cutAnchors (text : List Char) :
    (cutAnchors text).switches ⊆ [.leftAnchor, .rightAnchor, .hostAnchor] ∧
      (.leftAnchor ∈ (cutAnchors text).switches → .hostAnchor ∉ (cutAnchors text).switches) := by
  rw [cutAnchors]
  cases Text.dropOpening? ['|', '|'] text with
  | some rest =>
    dsimp only
    split <;> simp
  | none =>
    dsimp only
    cases Text.dropOpening? ['|'] text <;> dsimp only <;> split <;> simp

theorem isLower_storedPattern (hidna : idna.IsLowerAscii)
    (h : storedPattern idna hostAnchor false text = .ok pattern) :
    Text.IsLower pattern := by
  rw [storedPattern] at h
  split at h
  · split at h
    · next hstored =>
      cases h
      exact (Host.isLower_normal? hidna hstored).append (Text.isLower_lower _)
    · cases h
  · cases h
    exact Text.isLower_lower _

/-- The host that an anchored pattern is has nothing left in ASCII. -/
def HostVanishes (idna : ToAscii) (text : List Char) : Prop :=
  .hostAnchor ∈ (cutAnchors text).switches ∧ (cutAnchors text).pattern ≠ [] ∧
    ¬ Text.isAscii (cutAnchors text).pattern ∧ idna (cutAnchors text).pattern = some []

/-- A pattern is stored as nothing where it is nothing, or where its host vanishes. -/
theorem eq_nil_of_storedPattern (h : storedPattern idna hostAnchor matchCase text = .ok []) :
    text = [] ∨ hostAnchor ∧ ¬ Text.isAscii text ∧ idna text = some [] := by
  rw [storedPattern] at h
  have hfold : ∀ rest, foldCase matchCase rest = [] → rest = [] := by
    intro rest hrest
    cases matchCase
    · exact List.map_eq_nil_iff.mp hrest
    · exact hrest
  split at h
  · next hhost =>
    split at h
    · next host hstored =>
      obtain ⟨rfl, hrest⟩ := List.append_eq_nil_iff.mp (Except.ok.inj h)
      -- nothing follows the host, so the pattern is all host
      have hwhole : text.takeWhile (!endsHost ·) = text := by
        have happend := List.takeWhile_append_dropWhile (p := (!endsHost ·)) (l := text)
        rwa [hfold _ hrest, List.append_nil] at happend
      rw [hwhole, Host.normal?] at hstored
      split at hstored
      · exact .inl (List.map_eq_nil_iff.mp (Option.some.inj hstored))
      · next hascii => exact .inr ⟨hhost, hascii, hstored⟩
    · cases h
  · exact .inl (hfold _ (Except.ok.inj h))

/-- **What a pattern is read as.** -/
theorem patternForm_of_readPattern (hidna : idna.IsLowerAscii)
    (h : readPattern idna check exception o bare text = .ok f) :
    ∃ form pattern, f = assemble o (exception ++ form) pattern ∧
      PatternForm check o.matchCase form pattern ∧
      (pattern = [] → ¬ bare ∨ HostVanishes idna text) := by
  rcases readPattern_eq_ok_iff.mp h with
    ⟨source, hsource, hcompiles, rfl⟩ | ⟨-, hbare, pattern, hstored, rfl⟩
  · refine ⟨[.regex], source, rfl, .regex hcompiles, fun hnil => ?_⟩
    exact absurd hnil (regexSource?_eq_some_iff.mp hsource).2
  · obtain ⟨hanchors, honce⟩ := switches_cutAnchors text
    refine ⟨_, pattern, rfl, .literal hanchors honce fun hcase => ?_, ?_⟩
    · rw [Bool.eq_false_iff.mpr hcase] at hstored
      exact isLower_storedPattern hidna hstored
    · rintro rfl
      by_cases hempty : (cutAnchors text).pattern = []
      · left
        rintro rfl
        exact hbare (by simp [hempty])
      · right
        obtain ⟨hhost, hascii, hnil⟩ := (eq_nil_of_storedPattern hstored).resolve_left hempty
        exact ⟨by simpa using hhost, hempty, hascii, hnil⟩

/-! ## The filter of a line -/

/-- How a filter comes from a line: it is put together from a mark, options that stand in the line,
and the form of a pattern. -/
inductive ReadFrom (idna : ToAscii) (check : RegexCheck) (line : List Char) : NetworkFilter → Prop
  | intro {mark form : List NetworkSwitch} {text pattern : List Char} {o : RuleOptions}
      {rawLine : Option String} (hmark : mark = [] ∨ mark = [.exception]) (htext : text ⊆ line)
      (hoptions : RuleOptions.ofText idna (!mark.isEmpty) text = .ok o)
      (hform : PatternForm check o.matchCase form pattern)
      (hempty : pattern = [] → (cutOptions (afterMark line)).2.isSome
        ∨ HostVanishes idna (cutOptions (afterMark line)).1) :
      ReadFrom idna check line { assemble o (mark ++ form) pattern with rawLine }

theorem isLower_of_hostsDomain? {domain : List Char} (hidna : idna.IsLowerAscii)
    (h : hostsDomain? idna line = .ok (some domain)) : Text.IsLower domain := by
  obtain ⟨_, second, _, -, -, hread⟩ := hostsDomain?_eq_some_iff.mp h
  obtain ⟨-, -, ⟨-, -, rfl⟩ | ⟨-, hstored⟩⟩ := readDomain_eq_some_iff.mp hread
  · exact Text.isLower_lower _
  · exact hidna.isLower hstored

/-- An entry of a hosts file is read as if it were a pattern with an anchor. -/
theorem readFrom_blockDomain {domain : List Char} (hlower : Text.IsLower domain)
    (rawLine : Option String) : ReadFrom idna check line { blockDomain domain with rawLine } := by
  have hform : PatternForm check false [.hostAnchor] (domain ++ ['^']) :=
    .literal (by decide) (by decide) fun _ => hlower.append (by decide)
  exact .intro (.inl rfl) (List.nil_subset line) (RuleOptions.ofText_nil _ _) hform (by simp)

theorem options_subset {options : List Char}
    (h : (cutOptions (afterMark line)).2 = some options) : options ⊆ line := by
  have hcut := (cutOptions_eq_iff.mp (Prod.ext rfl h)).2
  exact fun c hc => afterMark_subset line (Text.subset_of_cutLast? hcut hc)

theorem markSwitches_cases (line : List Char) :
    markSwitches line = [] ∨ markSwitches line = [.exception] := (ite_eq_or_eq _ _ _).symm

/-- A line without options has those of an empty text. -/
theorem exists_ofText_of_readOptions
    (h : readOptions idna (markSwitches line) (cutOptions (afterMark line)).2 = .ok o) :
    ∃ text ⊆ line, RuleOptions.ofText idna (!(markSwitches line).isEmpty) text = .ok o := by
  cases hcut : (cutOptions (afterMark line)).2 with
  | none =>
    rw [hcut] at h
    exact ⟨[], List.nil_subset _, h⟩
  | some options =>
    rw [hcut] at h
    exact ⟨options, options_subset hcut, h⟩

theorem readFrom_of_readBody (hidna : idna.IsLowerAscii)
    (h : readBody idna check line = .ok f) (rawLine : Option String) :
    ReadFrom idna check line { f with rawLine } := by
  obtain ⟨o, hoptions, hpattern⟩ := readBody_eq_ok_iff.mp h
  obtain ⟨form, pattern, rfl, hform, hempty⟩ := patternForm_of_readPattern hidna hpattern
  obtain ⟨text, htext, hoptions⟩ := exists_ofText_of_readOptions hoptions
  refine .intro (markSwitches_cases line) htext hoptions hform fun hnil => ?_
  exact (hempty hnil).imp_left fun hbare => by simpa [Option.isSome_iff_ne_none] using hbare

/-- **Every filter comes from its line** in one way. -/
theorem readFrom_of_ofLine {keepLine : Bool} {line : String} (hidna : idna.IsLowerAscii)
    (h : NetworkFilter.ofLine idna check keepLine line = .ok f) :
    ReadFrom idna check line.toList f := by
  obtain ⟨g, rfl, ⟨domain, hfound, rfl⟩ | ⟨-, hbody⟩⟩ := NetworkFilter.exists_of_ofLine h
  · exact readFrom_blockDomain (isLower_of_hostsDomain? hidna hfound) _
  · exact readFrom_of_readBody hidna hbody _

/-! ## The switches of a filter

The mark, the options and the pattern each turn on switches of their own, so a switch of the mask
says something of one of them. -/

theorem option_not_mem_formChoices :
    ∀ switch ∈ RuleOptions.switchChoices, switch ∉ .exception :: formChoices := by decide

theorem exception_not_mem_formChoices : .exception ∉ formChoices := by decide

section Assembled

variable {mark : List NetworkSwitch} {switch : NetworkSwitch}

theorem has_assemble (ho : o.included.IsKnown) :
    (assemble o (mark ++ form) pattern).mask.has switch ↔
      switch ∈ o.switches ∨ switch ∈ mark ∨ switch ∈ form := by
  rw [assemble, NetworkMask.has_make (RuleOptions.isKnown_types ho), List.mem_append,
    List.mem_append]

/-- What an option can turn on, nothing else does. -/
theorem has_assemble_of_option (ho : o.included.IsKnown) (hmark : mark ⊆ [.exception])
    (hform : form ⊆ formChoices) (hswitch : switch ∈ RuleOptions.switchChoices) :
    (assemble o (mark ++ form) pattern).mask.has switch ↔ switch ∈ o.switches := by
  have hnot := option_not_mem_formChoices switch hswitch
  have hothers : ¬ (switch ∈ mark ∨ switch ∈ form) := by
    rintro (h | h)
    · exact hnot (List.mem_singleton.mp (hmark h) ▸ List.mem_cons_self)
    · exact hnot (List.mem_cons_of_mem _ (hform h))
  rw [has_assemble ho, or_iff_left hothers]

theorem has_assemble_of_flag (ho : o.included.IsKnown) (hmark : mark ⊆ [.exception])
    (hform : form ⊆ formChoices) (hswitch : switch ∈ RuleOptions.flagChoices) :
    (assemble o (mark ++ form) pattern).mask.has switch ↔ o.flag switch := by
  rw [has_assemble_of_option ho hmark hform (List.mem_append_left _ hswitch),
    RuleOptions.mem_switches_iff_flag hswitch]

theorem has_assemble_modifier (ho : o.included.IsKnown) (hmark : mark ⊆ [.exception])
    (hform : form ⊆ formChoices) (modifier : Modifier) :
    (assemble o (mark ++ form) pattern).mask.has modifier.switch ↔
      ∃ value, o.modifier = some (modifier, value) := by
  rw [has_assemble_of_option ho hmark hform (RuleOptions.switch_mem_switchChoices modifier),
    RuleOptions.mem_switches_iff_modifier]

/-- What a pattern can turn on, nothing else does. -/
theorem has_assemble_of_form (ho : o.included.IsKnown) (hmark : mark ⊆ [.exception])
    (hswitch : switch ∈ formChoices) :
    (assemble o (mark ++ form) pattern).mask.has switch ↔ switch ∈ form := by
  have hoption : switch ∉ o.switches := fun h =>
    option_not_mem_formChoices switch (o.switches_subset h) (List.mem_cons_of_mem _ hswitch)
  have hexception : switch ∉ mark := fun h =>
    exception_not_mem_formChoices (List.mem_singleton.mp (hmark h) ▸ hswitch)
  rw [has_assemble ho, or_iff_right hoption, or_iff_right hexception]

/-! ## What holds of every filter -/

/-- **A filter is well formed** that is put together from sound parts. -/
theorem wellFormed_assemble (hidna : idna.IsLowerAscii) (hmark : mark = [] ∨ mark = [.exception])
    (hoptions : RuleOptions.ofText idna (!mark.isEmpty) text = .ok o)
    (hform : PatternForm check o.matchCase form pattern) :
    (assemble o (mark ++ form) pattern).WellFormed check := by
  obtain ⟨-, htypes, hparty⟩ := RuleOptions.ofText_eq_ok_iff.mp hoptions
  have ho := RuleOptions.sound_of_ofText hoptions
  have hknown := RuleOptions.isKnown_types ho.included
  have hexception : mark ⊆ [.exception] := by rcases hmark with rfl | rfl <;> decide
  have hflag : ∀ switch ∈ RuleOptions.flagChoices,
      ((assemble o (mark ++ form) pattern).mask.has switch ↔ o.flag switch) :=
    fun _ => has_assemble_of_flag ho.included hexception hform.subset
  have hmodifier : ∀ m : Modifier, (assemble o (mark ++ form) pattern).mask.has m.switch ↔
      ∃ value, o.modifier = some (m, value) :=
    has_assemble_modifier ho.included hexception hform.subset
  have hchoice : ∀ switch ∈ formChoices,
      ((assemble o (mark ++ form) pattern).mask.has switch ↔ switch ∈ form) :=
    fun _ => has_assemble_of_form ho.included hexception
  have hmatchCase := hflag .matchCase (by decide)
  have hregex := hchoice .regex (by decide)
  have hleft := hchoice .leftAnchor (by decide)
  have hright := hchoice .rightAnchor (by decide)
  have hhost := hchoice .hostAnchor (by decide)
  exact {
    known := NetworkMask.isKnown_make hknown
    types := by rwa [assemble, NetworkMask.types_make hknown]
    party := by
      rw [hflag .firstParty (by decide), hflag .thirdParty (by decide)]
      simpa [RuleOptions.flag, Decidable.imp_iff_not_or] using hparty
    modifier := by
      intro m m' h h'
      obtain ⟨value, hm⟩ := (hmodifier m).mp h
      obtain ⟨value', hm'⟩ := (hmodifier m').mp h'
      exact (Prod.mk.inj (Option.some.inj (hm.symm.trans hm'))).1
    value := by
      simp only [hmodifier]
      simp [assemble, RuleOptions.value, Option.isSome_iff_exists]
    emptyValue := by
      intro hvalue
      obtain ⟨⟨m, value⟩, hm, rfl⟩ := Option.map_eq_some_iff.mp hvalue
      have hmarked : mark ≠ [] := by simpa using ho.value m hm
      rw [has_assemble ho.included, hmark.resolve_left hmarked]
      exact .inr (.inl List.mem_cons_self)
    regex := by
      rw [hregex, hleft, hright, hhost]
      exact hform.anchors_of_regex
    anchors := by
      rw [hleft, hhost]
      exact hform.not_both
    program := by
      intro h
      have hcompiles := hform.compiles (hregex.mp h)
      rw [NetworkFilter.compiles, h, Bool.eq_iff_iff.mpr hmatchCase]
      exact Option.isNone_iff_eq_none.mpr hcompiles
    lower := by
      rw [hregex, hmatchCase, assemble, String.toList_ofList]
      exact hform.isLower
    denyallow := ho.denyallow
    lists := by
      intro list hlist entry hentry
      obtain ⟨domain, -, hfrom⟩ := ho.lists list hlist entry hentry
      exact hfrom.isLower hidna
  }

end Assembled

end NetworkRule

open NetworkRule

variable {idna : ToAscii} {check : RegexCheck} {keepLine : Bool} {line : String} {f : NetworkFilter}

theorem NetworkFilter.wellFormed_of_readFrom (hidna : idna.IsLowerAscii) {text : List Char}
    (h : ReadFrom idna check text f) : f.WellFormed check := by
  obtain ⟨hmark, -, hoptions, hform, -⟩ := h
  exact (wellFormed_assemble hidna hmark hoptions hform).of_line _

/-- **Every filter that is read is well formed**, whatever compiles and whichever way names are put
into lower-case ASCII. Its pattern is empty only where its line has options, or where the host that
the pattern begins with has nothing left in ASCII; and the lists of a line in ASCII have no empty
entry. -/
theorem wellFormed_of_ofLine (hidna : idna.IsLowerAscii)
    (h : NetworkFilter.ofLine idna check keepLine line = .ok f) :
    f.WellFormed check ∧
      (f.pattern = "" → (cutOptions (afterMark line.toList)).2.isSome
        ∨ HostVanishes idna (cutOptions (afterMark line.toList)).1) ∧
      (Text.isAscii line.toList → ∀ list, f.domains = some list ∨ f.denyallow = some list →
        ∀ entry ∈ list.parts, entry ≠ []) := by
  have hfrom := readFrom_of_ofLine hidna h
  refine ⟨NetworkFilter.wellFormed_of_readFrom hidna hfrom, ?_⟩
  obtain ⟨-, htext, hoptions, -, hempty⟩ := hfrom
  refine ⟨fun hpattern => hempty ?_, ?_⟩
  · exact String.ofList_eq_empty_iff.mp hpattern
  · intro hascii list hlist entry hentry
    obtain ⟨domain, hdomain, hfrom⟩ :=
      (RuleOptions.sound_of_ofText hoptions).lists list hlist entry hentry
    exact hfrom.ne_nil (Text.isAscii_of_subset (fun c hc => htext (hdomain hc)) hascii)

/-- The filter of an exception with options that have values. -/
def policyException : NetworkFilter where
  mask := .make .full [.firstParty, .thirdParty, .csp, .exception, .hostAnchor]
  pattern := "ads.example.com^"
  domains := some ⟨"a.com,~b.a.com"⟩
  denyallow := some ⟨"c.com"⟩
  value := some ""

theorem wellFormed_of_ofLine_policyException :
    policyException.WellFormed .compiled ∧
      (policyException.pattern = "" →
        (cutOptions "||Ads.example.com^$csp,domain=A.com|~b.a.com,denyallow=C.com".toList).2.isSome
          ∨ HostVanishes Idna.toAscii? "||Ads.example.com^".toList) ∧
      ∀ list, policyException.domains = some list ∨ policyException.denyallow = some list →
        ∀ entry ∈ list.parts, entry ≠ [] := by
  have hline : NetworkFilter.ofLine Idna.toAscii? .compiled false
      "@@||Ads.example.com^$csp,domain=A.com|~b.a.com,denyallow=C.com" = .ok policyException := by
    decide +kernel
  obtain ⟨hformed, hpattern, hlists⟩ := wellFormed_of_ofLine Idna.isLowerAscii_toAscii? hline
  exact ⟨hformed, hpattern, hlists (by decide +kernel)⟩

/-! ## A host that vanishes -/

theorem storedPattern_of_vanishing (hidna : idna ['\u00AD'] = some []) :
    storedPattern idna true false ['\u00AD'] = .ok [] := by
  have hhost : Host.normal? idna ['\u00AD'] = some [] := by
    rw [Host.normal?_of_not_isAscii (by decide), hidna]
  have hwhole : ['\u00AD'].takeWhile (!endsHost ·) = ['\u00AD'] := by decide
  have hnone : ['\u00AD'].dropWhile (!endsHost ·) = [] := by decide
  rw [storedPattern, if_pos rfl, hwhole, hnone, hhost]
  rfl

/-- **A pattern may be empty without options**: whether there is one is asked before its host is
put into ASCII, and of a soft hyphen nothing is left. -/
theorem ofLine_softHyphen : ∃ f,
    (∀ (idna : ToAscii) (check : RegexCheck), idna ['\u00AD'] = some [] →
      NetworkFilter.ofLine idna check false "||\u00AD" = .ok f) ∧
    f.pattern = "" ∧ (cutOptions (afterMark "||\u00AD".toList)).2 = none ∧
    Idna.toAscii? ['\u00AD'] = some [] := by
  refine ⟨assemble {} [.hostAnchor] [], fun idna check hidna => ?_, rfl, by decide,
    Idna.toAscii?_softHyphen⟩
  have hwords : Text.words "||\u00AD".toList = ["||\u00AD".toList] := by decide +kernel
  have hhosts : hostsDomain? idna "||\u00AD".toList = .ok none := by
    rw [hostsDomain?_eq_none_iff, hwords]
    exact fun first second rest h => by simp at h
  have hpattern : readPattern idna check [] {} true ['|', '|', '\u00AD']
      = .ok (assemble {} [.hostAnchor] []) := by
    have hregex : regexSource? ['|', '|', '\u00AD'] = none := by decide
    have hanchors : cutAnchors ['|', '|', '\u00AD'] = ⟨[.hostAnchor], ['\u00AD']⟩ := by decide
    rw [readPattern, hregex, hanchors]
    show (storedPattern idna true false ['\u00AD'] >>= fun pattern => _) = _
    rw [storedPattern_of_vanishing hidna]
    rfl
  rw [NetworkFilter.ofLine_eq_ok_iff hhosts]
  exact ⟨by decide, _, readBody_eq_ok_iff.mpr ⟨{}, rfl, hpattern⟩, rfl⟩

end Blocklist
