import Blocklist.Idna.Name
import Blocklist.Proofs.Checks
import Blocklist.Proofs.Filter.Mask
import Blocklist.Proofs.Host.Covering
import Blocklist.Proofs.Rule.Ascii
import Blocklist.Proofs.Text.Cut
import Blocklist.Rule.List
/-!
# Rules — how lines of cosmetic filters are read

A line is hosts without a `#`, a marker and a body (`cutMarker_eq_ok_iff`), and
a body has one of five forms (`readBody_eq_ok_iff`). The selector is the body as
it stands but for the calls of scripts (`CosmeticFilter.exists_body_of_ofLine`).
One form is no call and loses its ends all the same: what begins with `script:`
and names neither call, so that a selector of `script` elements is cut short
(`CosmeticFilter.ofLine_scriptSelector`).
-/

namespace Blocklist

namespace CosmeticRule

variable {line text inner call : List Char} {m : Marked} {b : Body} {unhide : Bool}

/-! ## The marker -/

/-- The marker of a line. -/
def marker (unhide : Bool) : List Char := if unhide then ['#', '@', '#'] else ['#', '#']

/-- **A line is cut at its first `#`**, where its marker stands. -/
theorem cutMarker_eq_ok_iff :
    cutMarker line = .ok m ↔ '#' ∉ m.hosts ∧ line = m.hosts ++ (marker m.unhide ++ m.body) := by
  constructor
  · intro h
    rw [cutMarker] at h
    split at h
    · cases h
    · next hosts after hcut =>
      obtain ⟨rfl, hhosts⟩ := Text.eq_append_of_cut? hcut
      split at h <;> cases h
      · exact ⟨hhosts, rfl⟩
      · exact ⟨hhosts, rfl⟩
  · rintro ⟨hhosts, rfl⟩
    obtain ⟨hosts, unhide, body⟩ := m
    cases unhide with
    | false =>
      show cutMarker (hosts ++ '#' :: '#' :: body) = _
      rw [cutMarker, Text.cut?_append_cons hhosts]
      rfl
    | true =>
      show cutMarker (hosts ++ '#' :: '@' :: '#' :: body) = _
      rw [cutMarker, Text.cut?_append_cons hhosts]
      rfl

/-! ## The body -/

/-- What a body begins with that calls for a script. -/
def scriptMark : List Char := "script:".toList

/-- What the name of a scriptlet follows. -/
def injectMark : List Char := "inject(".toList

/-- What the part of a script follows. -/
def containsMark : List Char := "contains(".toList

/-- What a scriptlet follows in its short form. -/
def scriptletMark : List Char := "+js(".toList

/-- **The forms of a body.** -/
inductive BodyForm : List Char → Body → Prop
  /-- A selector, as it stands. -/
  | selector {text : List Char} (hscript : ¬ scriptMark <+: text)
      (hscriptlet : ¬ scriptletMark <+: text) : BodyForm text ⟨[], text⟩
  /-- A scriptlet in its short form. -/
  | scriptlet (inner : List Char) :
      BodyForm (scriptletMark ++ (inner ++ [')'])) ⟨[.scriptInject], inner⟩
  /-- A scriptlet. -/
  | inject (inner : List Char) :
      BodyForm (scriptMark ++ (injectMark ++ (inner ++ [')']))) ⟨[.scriptInject], inner⟩
  /-- A part of scripts. -/
  | contains (inner : List Char) :
      BodyForm (scriptMark ++ (containsMark ++ (inner ++ [')']))) ⟨[.scriptBlock], unslash inner⟩
  /-- What begins like a call and names none: it goes without the beginning and the last
  parenthesis. -/
  | uncalled {call : List Char} (hinject : ¬ injectMark <+: call)
      (hcontains : ¬ containsMark <+: call) : BodyForm (scriptMark ++ (call ++ [')'])) ⟨[], call⟩

theorem unclose_eq_ok_iff : unclose text = .ok inner ↔ text = inner ++ [')'] := by
  rw [unclose, ← Text.dropClosing?_eq_some_iff]
  cases Text.dropClosing? [')'] text <;> simp

/-- Slashes around a text go if there is one on either side. -/
theorem unslash_eq_iff : unslash text = inner ↔
    text = '/' :: (inner ++ ['/']) ∨
      (∀ between, text ≠ '/' :: (between ++ ['/'])) ∧ text = inner := by
  have hpair : ∀ between, ((Text.dropOpening? ['/'] text).bind (Text.dropClosing? ['/']))
      = some between ↔ text = '/' :: (between ++ ['/']) := by
    intro between
    simp only [Option.bind_eq_some_iff, Text.dropOpening?_eq_some_iff,
      Text.dropClosing?_eq_some_iff]
    exact exists_eq_right
  rw [unslash]
  cases hfound : (Text.dropOpening? ['/'] text).bind (Text.dropClosing? ['/']) with
  | none =>
    have hnone : ∀ between, text ≠ '/' :: (between ++ ['/']) := fun between h =>
      Option.some_ne_none between (((hpair between).mpr h).symm.trans hfound)
    rw [Option.getD_none, or_iff_right (hnone inner), and_iff_right hnone]
  | some between =>
    have hbetween := (hpair between).mp hfound
    rw [Option.getD_some, ← hpair, hfound, Option.some.injEq, or_iff_left]
    exact fun h => h.1 between hbetween

/-- What begins like a call is read by what is called. -/
theorem readBody_append_scriptMark (call : List Char) :
    readBody (scriptMark ++ (call ++ [')'])) =
      match Text.dropOpening? injectMark call with
      | some inner => .ok ⟨[.scriptInject], inner⟩
      | none =>
        match Text.dropOpening? containsMark call with
        | some inner => .ok ⟨[.scriptBlock], unslash inner⟩
        | none => .ok ⟨[], call⟩ := by
  have hopening : Text.dropOpening? "script:".toList (scriptMark ++ (call ++ [')']))
      = some (call ++ [')']) := Text.dropOpening?_append scriptMark _
  rw [readBody, hopening]
  dsimp only
  rw [unclose_eq_ok_iff.mpr rfl]
  rfl

/-- **A body is read** as the form that it has. -/
theorem readBody_eq_ok_iff : readBody text = .ok b ↔ BodyForm text b := by
  constructor
  · intro h
    rw [readBody] at h
    split at h
    · next called hscript =>
      obtain rfl := Text.eq_append_of_dropOpening? hscript
      obtain ⟨call, hcall, hread⟩ := bind_eq_ok_iff.mp h
      obtain rfl := unclose_eq_ok_iff.mp hcall
      split at hread
      · next inner hinject =>
        obtain rfl := Text.eq_append_of_dropOpening? hinject
        cases hread
        rw [List.append_assoc]
        exact .inject inner
      · next hinject =>
        split at hread
        · next inner hcontains =>
          obtain rfl := Text.eq_append_of_dropOpening? hcontains
          cases hread
          rw [List.append_assoc]
          exact .contains inner
        · next hcontains =>
          cases hread
          exact .uncalled (Text.dropOpening?_eq_none_iff.mp hinject)
            (Text.dropOpening?_eq_none_iff.mp hcontains)
    · next hscript =>
      split at h
      · next called hscriptlet =>
        obtain rfl := Text.eq_append_of_dropOpening? hscriptlet
        obtain ⟨inner, hcall, hread⟩ := bind_eq_ok_iff.mp h
        obtain rfl := unclose_eq_ok_iff.mp hcall
        cases hread
        exact .scriptlet inner
      · next hscriptlet =>
        cases h
        exact .selector (Text.dropOpening?_eq_none_iff.mp hscript)
          (Text.dropOpening?_eq_none_iff.mp hscriptlet)
  · intro h
    cases h with
    | selector hscript hscriptlet =>
      have hscript : Text.dropOpening? "script:".toList text = none :=
        Text.dropOpening?_eq_none_iff.mpr hscript
      have hscriptlet : Text.dropOpening? "+js(".toList text = none :=
        Text.dropOpening?_eq_none_iff.mpr hscriptlet
      rw [readBody, hscript]
      dsimp only
      rw [hscriptlet]
      rfl
    | scriptlet inner =>
      have hscript : Text.dropOpening? "script:".toList (scriptletMark ++ (inner ++ [')']))
          = none := rfl
      have hscriptlet : Text.dropOpening? "+js(".toList (scriptletMark ++ (inner ++ [')']))
          = some (inner ++ [')']) := Text.dropOpening?_append scriptletMark _
      rw [readBody, hscript]
      dsimp only
      rw [hscriptlet]
      dsimp only
      rw [unclose_eq_ok_iff.mpr rfl]
      rfl
    | inject inner =>
      rw [← List.append_assoc injectMark, readBody_append_scriptMark, Text.dropOpening?_append]
    | contains inner =>
      rw [← List.append_assoc containsMark, readBody_append_scriptMark, Text.dropOpening?_append]
      rfl
    | uncalled hinject hcontains =>
      rw [readBody_append_scriptMark, Text.dropOpening?_eq_none_iff.mpr hinject,
        Text.dropOpening?_eq_none_iff.mpr hcontains]

/-- What calls for no script stands as it is, or loses what only seems to be a call. -/
theorem BodyForm.of_not_mem (h : BodyForm text b) (hinjects : .scriptInject ∉ b.switches)
    (hblocks : .scriptBlock ∉ b.switches) :
    (¬ scriptMark <+: text ∧ text = b.selector) ∨
      (text = scriptMark ++ (b.selector ++ [')']) ∧ ¬ injectMark <+: b.selector ∧
        ¬ containsMark <+: b.selector) := by
  cases h with
  | selector hscript _ => exact .inl ⟨hscript, rfl⟩
  | scriptlet | inject => exact absurd List.mem_cons_self hinjects
  | contains => exact absurd List.mem_cons_self hblocks
  | uncalled hinject hcontains => exact .inr ⟨rfl, hinject, hcontains⟩

/-- A body is for scripts in one way at most. -/
theorem BodyForm.switches_mem (h : BodyForm text b) :
    b.switches ∈ [[], [.scriptInject], [.scriptBlock]] := by
  cases h <;> simp

/-! ## The filter -/

/-- What no selector may be or have. -/
structure IsSelector (selector : List Char) : Prop where
  /-- A selector is not empty. -/
  ne_nil : selector ≠ []
  /-- It does not end with a block of styles. -/
  style : selector.getLast? ≠ some '\x7d'
  /-- It has no marker. -/
  marker : ∀ unhide, ¬ marker unhide <:+: selector

theorem isSelector_iff : IsSelector text ↔
    ¬ text.isEmpty ∧ ¬ text.getLast? == some '\x7d' ∧ ¬ hasMarker text := by
  have hmarker : ¬ hasMarker text ↔ ∀ unhide, ¬ marker unhide <:+: text := by
    simp [hasMarker, Bool.forall_bool, marker]
  rw [List.isEmpty_iff, beq_iff_eq, hmarker]
  exact ⟨fun h => ⟨h.ne_nil, h.style, h.marker⟩, fun ⟨hne, hstyle, hnone⟩ => ⟨hne, hstyle, hnone⟩⟩

/-- The filter of the parts of a line. -/
def assemble (unhide : Bool) (hosts : Option HostList) (b : Body) : CosmeticFilter where
  mask := .make ((if unhide then [.unhide] else []) ++ b.switches)
  selector := String.ofList b.selector
  hostnames := hosts

theorem has_assemble {hosts : Option HostList} {switch : CosmeticSwitch} :
    (assemble unhide hosts b).mask.has switch ↔
      (switch = .unhide ∧ unhide) ∨ switch ∈ b.switches := by
  rw [assemble, CosmeticMask.has_make, List.mem_append]
  cases unhide <;> simp

end CosmeticRule

open CosmeticRule

namespace CosmeticFilter

variable {idna : ToAscii} {keepLine : Bool} {line : String} {f : CosmeticFilter}

/-- **A line is accepted** if its parts are, if its selector may be one, and if an exception has
hosts. -/
theorem ofLine_eq_ok_iff : ofLine idna keepLine line = .ok f ↔
    ∃ m hosts b, cutMarker line.toList = .ok m ∧ hostList? idna m.hosts = .ok hosts ∧
      readBody m.body = .ok b ∧ IsSelector b.selector ∧ (m.unhide → hosts ≠ none) ∧
      { assemble m.unhide hosts b with rawLine := if keepLine then some line else none } = f := by
  have hexception : ∀ (unhide : Bool) (hosts : Option HostList),
      (unhide → hosts ≠ none) ↔ ¬ (unhide && hosts.isNone) = true := by
    simp
  simp only [ofLine, bind_eq_ok_iff, guard_eq_ok_iff, pure_eq_ok_iff, isSelector_iff, hexception,
    assemble, and_assoc, exists_and_left]

/-- **What a selector is of its line.** Where the filter is for no scripts, the selector is all
that follows the marker, except that what begins with `script:` and names no call goes without that
and its last parenthesis. What stands within a call is the selector, for parts of scripts without
slashes around it. -/
theorem exists_body_of_ofLine (h : ofLine idna keepLine line = .ok f) :
    ∃ m : Marked, '#' ∉ m.hosts ∧ line.toList = m.hosts ++ (marker m.unhide ++ m.body) ∧
      (¬ f.mask.has .scriptInject → ¬ f.mask.has .scriptBlock →
        (¬ scriptMark <+: m.body ∧ m.body = f.selector.toList) ∨
        (m.body = scriptMark ++ (f.selector.toList ++ [')']) ∧
          ¬ injectMark <+: f.selector.toList ∧ ¬ containsMark <+: f.selector.toList)) ∧
      (∀ inner, m.body = scriptMark ++ (injectMark ++ (inner ++ [')'])) ∨
          m.body = scriptletMark ++ (inner ++ [')']) →
        f.mask.has .scriptInject ∧ f.selector.toList = inner) ∧
      ∀ inner, m.body = scriptMark ++ (containsMark ++ (inner ++ [')'])) →
        f.mask.has .scriptBlock ∧
          (inner = '/' :: (f.selector.toList ++ ['/']) ∨
            (∀ between, inner ≠ '/' :: (between ++ ['/'])) ∧ inner = f.selector.toList) := by
  obtain ⟨m, hosts, b, hm, -, hb, -, -, rfl⟩ := ofLine_eq_ok_iff.mp h
  obtain ⟨hhosts, hline⟩ := cutMarker_eq_ok_iff.mp hm
  have hread : ∀ b', BodyForm m.body b' → b = b' := fun b' hb' =>
    Except.ok.inj (hb.symm.trans (readBody_eq_ok_iff.mpr hb'))
  have hselector : (String.ofList b.selector).toList = b.selector := String.toList_ofList
  have hon : ∀ switch ∈ b.switches, (assemble m.unhide hosts b).mask.has switch := fun _ h =>
    has_assemble.mpr (.inr h)
  refine ⟨m, hhosts, hline, fun hinject hblock => ?_, fun inner hinner => ?_,
    fun inner hinner => ?_⟩
  · have hform := (readBody_eq_ok_iff.mp hb).of_not_mem (fun h => hinject (hon _ h))
      fun h => hblock (hon _ h)
    rwa [← hselector] at hform
  · obtain rfl : b = ⟨[.scriptInject], inner⟩ := by
      rcases hinner with hinner | hinner
      · exact hread _ (hinner ▸ .inject inner)
      · exact hread _ (hinner ▸ .scriptlet inner)
    exact ⟨hon _ List.mem_cons_self, hselector⟩
  · obtain rfl := hread _ (hinner ▸ BodyForm.contains inner)
    exact ⟨hon _ List.mem_cons_self, unslash_eq_iff.mp hselector.symm⟩

/-- A filter that blocks scripts with a word. -/
def popunderFilter : CosmeticFilter where
  mask := .make [.scriptBlock]
  selector := "popunder"
  hostnames := some ⟨"news.example,~blog.news.example"⟩

theorem exists_body_of_ofLine_popunder :
    ofLine Idna.toAscii? false "News.example,~blog.news.example##script:contains(/popunder/)"
        = .ok popunderFilter ∧
      popunderFilter.mask.has .scriptBlock ∧
      "/popunder/".toList = '/' :: (popunderFilter.selector.toList ++ ['/']) := by
  have hline :
      ofLine Idna.toAscii? false "News.example,~blog.news.example##script:contains(/popunder/)"
      = .ok popunderFilter := by decide +kernel
  have hcut : cutMarker "News.example,~blog.news.example##script:contains(/popunder/)".toList
      = .ok ⟨"News.example,~blog.news.example".toList, false,
          "script:contains(/popunder/)".toList⟩ := by decide +kernel
  obtain ⟨m, hhosts, hparts, -, -, hcontains⟩ := exists_body_of_ofLine hline
  cases (cutMarker_eq_ok_iff.mpr ⟨hhosts, hparts⟩).symm.trans hcut
  obtain ⟨hblock, hslashes⟩ := hcontains "/popunder/".toList (by decide +kernel)
  exact ⟨hline, hblock, hslashes.resolve_right fun h => h.1 "popunder".toList (by decide +kernel)⟩

/-- **A selector may be cut short**: one of `script` elements loses its beginning and its last
parenthesis, though it calls for no script. -/
theorem ofLine_scriptSelector : ∃ f,
    (∀ idna, ofLine idna false "example.com##script:nth-child(2)" = .ok f) ∧
    ¬ f.mask.has .scriptInject ∧ ¬ f.mask.has .scriptBlock ∧
    cutMarker "example.com##script:nth-child(2)".toList
      = .ok ⟨"example.com".toList, false, "script:nth-child(2)".toList⟩ ∧
    f.selector ≠ "script:nth-child(2)" ∧ f.selector = "nth-child(2" := by
  have hcut : cutMarker "example.com##script:nth-child(2)".toList
      = .ok ⟨"example.com".toList, false, "script:nth-child(2)".toList⟩ := by decide +kernel
  refine ⟨{ mask := .make [], selector := "nth-child(2", hostnames := some ⟨"example.com"⟩ },
    fun idna => ?_, by decide, by decide, hcut, by decide, rfl⟩
  rw [ofLine_congr_of_isAscii idna Idna.toAscii? hcut (by decide)]
  decide +kernel

end CosmeticFilter

end Blocklist
