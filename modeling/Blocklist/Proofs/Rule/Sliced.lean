import Blocklist.Proofs.Filter.Sliced
import Blocklist.Proofs.Rule.Cosmetic
import Blocklist.Proofs.Rule.Reading
import Blocklist.Proofs.Text.Slice
/-!
# Rules — lines by offsets

How lines are read, with every slice written out that is taken of a line:
what its marker parts, what stands between the slashes of a regular
expression, and the options behind a `$`. None of them is a fault, so a line
is accepted or refused, whatever its letters (`ruleKind?_eq`,
`networkFilter_eq`, `cosmeticFilter_eq`). Main statement, with the slices of
filters and addresses: `no_slice_is_fault`.
-/

namespace Blocklist

namespace Sliced

/-! ## Kinds of lines -/

/-- The kind of a line; none for a blank line, a header or a comment. -/
def ruleKind? (line : List Char) : Except Fault (Option RuleKind) := do
  if line.isEmpty || RuleKind.comments.any fun c => c.toList.isPrefixOf line then return none
  match Text.offset? (· == '#') line with
  | none => return some .network
  | some sharp =>
    let after ← Text.sliceFrom (sharp + 1) line
    if RuleKind.markers.any fun m => m.toList.isPrefixOf after then return some .cosmetic
    if sharp = 0 then return none
    return some .network

theorem ruleKind?_eq (line : List Char) : ruleKind? line = .ok (RuleKind.ofLine? line) := by
  rw [ruleKind?, RuleKind.ofLine?, Text.offset?_beq]
  split
  · rfl
  · cases hcut : Text.cut? '#' line with
    | none => rfl
    | some parts =>
      obtain ⟨front, after⟩ := parts
      obtain ⟨rfl, -⟩ := Text.eq_append_of_cut? hcut
      have hempty : (Text.byteLength front = 0) = (front.isEmpty = true) := by
        rw [Text.byteLength_eq_zero_iff, List.isEmpty_iff]
      dsimp only [Option.map_some]
      rw [Text.sliceFrom_append_cons rfl, ok_bind]
      simp only [hempty]
      split
      · rfl
      · split <;> rfl

/-! ## Network filters -/

open NetworkRule

/-- Whether a pattern is a regular expression: between slashes, with something between them. -/
def isRegex (text : List Char) : Bool :=
  2 < Text.byteLength text && text.head? == some '/' && text.getLast? == some '/'

/-- What stands between the slashes of a regular expression. -/
def regexSource? (text : List Char) : Except Fault (Option (List Char)) := do
  if !isRegex text then return none
  let stop ← Access.sub (Text.byteLength text) 1
  return some (← Text.slice 1 stop text)

/-- The pattern and the options of a line. -/
def cutOptions (text : List Char) : Except Fault (List Char × Option (List Char)) := do
  if isRegex text then return (text, none)
  match Text.lastOffset? (· == '$') text with
  | none => return (text, none)
  | some dollar =>
    let pattern ← Text.slice 0 dollar text
    let options ← Text.sliceFrom (dollar + 1) text
    return (pattern, some options)

/-- The stored form of a pattern. -/
def storedPattern (idna : ToAscii) (hostAnchor matchCase : Bool) (text : List Char) :
    Guarded NetworkError (List Char) := do
  if !hostAnchor then return foldCase matchCase text
  let stop := (Text.offset? endsHost text).getD (Text.byteLength text)
  let host ← Text.slice 0 stop text
  let path ← Text.sliceFrom stop text
  match Host.normal? idna host with
  | some host => return host ++ foldCase matchCase path
  | none => throw .punycode

/-- The filter of a pattern whose options have been read; it is `bare` if it has none. -/
def readPattern (idna : ToAscii) (regex : RegexCheck) (exception : List NetworkSwitch)
    (o : RuleOptions) (bare : Bool) (text : List Char) : Guarded NetworkError NetworkFilter := do
  match ← regexSource? text with
  | some source =>
    match regex (String.ofList source) o.matchCase with
    | some reason => throw (.invalidRegex reason)
    | none => return assemble o (exception ++ [.regex]) source
  | none =>
    let anchored := cutAnchors text
    if anchored.pattern.isEmpty && bare then throw .empty
    let pattern ←
      storedPattern idna (anchored.switches.contains .hostAnchor) o.matchCase anchored.pattern
    return assemble o (exception ++ anchored.switches) pattern

/-- The filter of a pattern with its options. -/
def readBody (idna : ToAscii) (regex : RegexCheck) (line : List Char) :
    Guarded NetworkError NetworkFilter := do
  let (text, options) ← cutOptions (afterMark line)
  let o ← Guarded.ofExcept (readOptions idna (markSwitches line) options)
  readPattern idna regex (markSwitches line) o options.isNone text

/-- The network filter of a line. -/
def networkFilter (idna : ToAscii) (regex : RegexCheck) (keepLine : Bool) (line : String) :
    Guarded NetworkError NetworkFilter := do
  if line.isEmpty then throw .empty
  let filter ← match ← Guarded.ofExcept (hostsDomain? idna line.toList) with
    | some domain => pure (blockDomain domain)
    | none => readBody idna regex line.toList
  return { filter with rawLine := if keepLine then some line else none }

/-- A regular expression takes more bytes than its slashes. -/
theorem isRegex_iff {text : List Char} :
    isRegex text ↔ ∃ source, NetworkRule.regexSource? text = some source := by
  simp only [regexSource?_eq_some_iff, isRegex, Bool.and_eq_true, decide_eq_true_eq, beq_iff_eq]
  constructor
  · rintro ⟨⟨hlength, hhead⟩, hlast⟩
    obtain ⟨rest, rfl⟩ : ∃ rest, text = '/' :: rest := by
      cases text with
      | nil => cases hhead
      | cons c rest => exact ⟨rest, congrArg (· :: rest) (Option.some.inj hhead)⟩
    rcases List.eq_nil_or_concat rest with rfl | ⟨source, c, rfl⟩
    · exact absurd hlength (by decide)
    rw [List.concat_eq_append, ← List.cons_append, List.getLast?_concat] at hlast
    obtain rfl := Option.some.inj hlast
    refine ⟨source, by rw [List.concat_eq_append, List.cons_append], ?_⟩
    rintro rfl
    exact absurd hlength (by decide)
  · rintro ⟨source, rfl, hne⟩
    refine ⟨⟨?_, rfl⟩, List.getLast?_concat⟩
    have hslashes : Text.byteLength ('/' :: source ++ ['/']) = Text.byteLength source + 2 := by
      rw [Text.byteLength_append, Text.byteLength_cons]
      show 1 + Text.byteLength source + 1 = _
      omega
    have := mt Text.byteLength_eq_zero_iff.mp hne
    omega

theorem regexSource?_eq (text : List Char) :
    regexSource? text = .ok (NetworkRule.regexSource? text) := by
  rw [regexSource?]
  cases hsource : NetworkRule.regexSource? text with
  | none =>
    have hnone : isRegex text = false := by
      rw [Bool.eq_false_iff, Ne, isRegex_iff, hsource]
      exact fun ⟨_, h⟩ => nomatch h
    rw [hnone]
    rfl
  | some source =>
    rw [isRegex_iff.mpr ⟨source, hsource⟩]
    obtain ⟨rfl, -⟩ := regexSource?_eq_some_iff.mp hsource
    have hstop : Access.sub (Text.byteLength ('/' :: source ++ ['/'])) 1
        = .ok (Text.byteLength ['/'] + Text.byteLength source) := by
      rw [Text.byteLength_append, Text.byteLength_cons]
      exact Access.sub_of_le (Nat.le_add_left ..)
    rw [hstop, ok_bind]
    exact congrArg (· >>= fun source => pure (some source)) (Text.slice_append ['/'] source ['/'])

theorem cutOptions_eq (text : List Char) : cutOptions text = .ok (NetworkRule.cutOptions text) := by
  have hregex : isRegex text = (NetworkRule.regexSource? text).isSome := by
    rw [Bool.eq_iff_iff, isRegex_iff, Option.isSome_iff_exists]
  rw [cutOptions, NetworkRule.cutOptions, hregex, Text.lastOffset?_beq]
  split
  · rfl
  · cases hcut : Text.cutLast? '$' text with
    | none => rfl
    | some parts =>
      obtain ⟨pattern, options⟩ := parts
      obtain ⟨rfl, -⟩ := Text.eq_append_of_cutLast? hcut
      dsimp only [Option.map_some]
      rw [Text.slice_zero_append, ok_bind, Text.sliceFrom_append_cons rfl, ok_bind]
      rfl

theorem storedPattern_eq (idna : ToAscii) (hostAnchor matchCase : Bool) (text : List Char) :
    storedPattern idna hostAnchor matchCase text
      = .ofExcept (NetworkRule.storedPattern idna hostAnchor matchCase text) := by
  rw [storedPattern, NetworkRule.storedPattern, Text.getD_offset?]
  cases hostAnchor with
  | false => rfl
  | true =>
    have htext : text.takeWhile (!endsHost ·) ++ text.dropWhile (!endsHost ·) = text :=
      List.takeWhile_append_dropWhile
    generalize text.takeWhile (!endsHost ·) = host at *
    generalize text.dropWhile (!endsHost ·) = path at *
    subst htext
    dsimp only
    rw [Text.slice_zero_append, Text.sliceFrom_append, Guarded.liftM_ok_bind,
      Guarded.liftM_ok_bind]
    cases Host.normal? idna host <;> rfl

theorem readPattern_eq (idna : ToAscii) (regex : RegexCheck) (exception : List NetworkSwitch)
    (o : RuleOptions) (bare : Bool) (text : List Char) :
    readPattern idna regex exception o bare text
      = .ofExcept (NetworkRule.readPattern idna regex exception o bare text) := by
  rw [readPattern, NetworkRule.readPattern, regexSource?_eq, Guarded.liftM_ok_bind]
  cases NetworkRule.regexSource? text with
  | some source =>
    dsimp only
    cases regex (String.ofList source) o.matchCase <;> rfl
  | none =>
    refine Guarded.guard_eq_ofExcept fun _ => ?_
    rw [storedPattern_eq, Guarded.ofExcept_bind]
    rfl

/-- **A body is sliced within bounds.** -/
theorem readBody_eq (idna : ToAscii) (regex : RegexCheck) (line : List Char) :
    readBody idna regex line = .ofExcept (NetworkRule.readBody idna regex line) := by
  rw [readBody, cutOptions_eq, Guarded.liftM_ok_bind, readBody_eq_bind, Guarded.ofExcept_bind]
  simp only [readPattern_eq]

/-- **No slice of a network filter is a fault**, whatever its line. -/
theorem networkFilter_eq (idna : ToAscii) (regex : RegexCheck) (keepLine : Bool) (line : String) :
    networkFilter idna regex keepLine line
      = .ofExcept (NetworkFilter.ofLine idna regex keepLine line) := by
  rw [networkFilter, NetworkFilter.ofLine]
  refine Guarded.guard_eq_ofExcept fun _ => ?_
  cases hostsDomain? idna line.toList with
  | error e => rfl
  | ok domain =>
    cases domain with
    | some domain => rfl
    | none =>
      have hkeep := Guarded.ofExcept_bind (NetworkRule.readBody idna regex line.toList)
        fun filter => pure { filter with rawLine := if keepLine then some line else none }
      rw [← readBody_eq] at hkeep
      exact hkeep.symm

/-! ## Cosmetic filters -/

open CosmeticRule

/-- The marker whose first `#` stands before a place: whether it is that of an exception, and where
it has ended. -/
def markerAt (place : Nat) (bytes : List UInt8) : Except CosmeticError (Bool × Nat) :=
  let next := bytes[place]?
  if next = some 0x23 then .ok (false, place + 1)
  else if next = some 0x40 ∧ bytes[place + 1]? = some 0x23 then .ok (true, place + 2)
  else if next ∈ [some 0x40, some 0x3F, some 0x24, some 0x25] then .error .unsupportedMarker
  else .error .missingMarker

/-- The hosts before a marker; nothing is sliced where the line begins with it. -/
def hosts (idna : ToAscii) (sharp : Nat) (line : List Char) :
    Guarded CosmeticError (Option HostList) := do
  if sharp = 0 then return none
  Guarded.ofExcept (hostList? idna (← Text.slice 0 sharp line))

/-- Reads what follows a marker. What is no call of a script is sliced only if it can be. -/
def readCosmeticBody (start : Nat) (line : List Char) : Guarded CosmeticError Body := do
  let bytes := Text.utf8 (String.ofList line)
  if Text.standsAt start (Text.utf8 "script:") bytes then
    let call ← Guarded.ofExcept (unclose (← Text.sliceFrom (start + 7) line))
    match Text.dropOpening? "inject(".toList call with
    | some inner => return ⟨[.scriptInject], inner⟩
    | none =>
      match Text.dropOpening? "contains(".toList call with
      | some inner => return ⟨[.scriptBlock], unslash inner⟩
      | none => return ⟨[], call⟩
  else if Text.standsAt start (Text.utf8 "+js(") bytes then
    let inner ← Guarded.ofExcept (unclose (← Text.sliceFrom (start + 4) line))
    return ⟨[.scriptInject], inner⟩
  else return ⟨[], (Text.sliceFrom start line).toOption.getD []⟩

/-- The filter of the parts of a line that pass the checks, for which nothing is sliced. -/
def checked (keepLine : Bool) (line : String) (unhide : Bool) (hosts : Option HostList)
    (body : Body) : Except CosmeticError CosmeticFilter := do
  if body.selector.isEmpty then throw .emptySelector
  if body.selector.getLast? == some '\x7d' then throw .styleBlock
  if hasMarker body.selector then throw .nestedMarker
  if unhide && hosts.isNone then throw .exceptionWithoutHosts
  return { CosmeticRule.assemble unhide hosts body with
    rawLine := if keepLine then some line else none }

/-- The cosmetic filter of a line. -/
def cosmeticFilter (idna : ToAscii) (keepLine : Bool) (line : String) :
    Guarded CosmeticError CosmeticFilter := do
  match Text.offset? (· == '#') line.toList with
  | none => throw .missingMarker
  | some sharp =>
    let (unhide, start) ← Guarded.ofExcept (markerAt (sharp + 1) (Text.utf8 line))
    let hosts ← hosts idna sharp line.toList
    let body ← readCosmeticBody start line.toList
    Guarded.ofExcept (checked keepLine line unhide hosts body)

theorem ofLine_eq_bind (idna : ToAscii) (keepLine : Bool) (line : String) :
    CosmeticFilter.ofLine idna keepLine line =
      cutMarker line.toList >>= fun m => hostList? idna m.hosts >>= fun hosts =>
        CosmeticRule.readBody m.body >>= fun body =>
          checked keepLine line m.unhide hosts body := rfl

/-- The bytes behind the first `#` of a line. -/
theorem getElem?_utf8_append (front after : List Char) (i : Nat) :
    (Text.utf8 (String.ofList (front ++ '#' :: after)))[Text.byteLength front + 1 + i]?
      = (Text.utf8 (String.ofList after))[i]? := by
  rw [Text.utf8_ofList_append, Text.utf8_ofList_cons_of_ascii (by decide),
    ← Text.length_utf8_ofList, Nat.add_assoc, List.getElem?_append_right (Nat.le_add_right ..),
    Nat.add_sub_cancel_left, Nat.add_comm, List.getElem?_cons_succ]

/-- The marker of a line by its letters. -/
theorem cutMarker_append {front : List Char} (hfront : '#' ∉ front) (after : List Char) :
    cutMarker (front ++ '#' :: after) =
      if after.head? = some '#' then .ok ⟨front, false, after.tail⟩
      else if after.head? = some '@' ∧ after.tail.head? = some '#' then
        .ok ⟨front, true, after.tail.tail⟩
      else if after.head? ∈ [some '@', some '?', some '$', some '%'] then
        .error .unsupportedMarker
      else .error .missingMarker := by
  rw [cutMarker, Text.cut?_append_cons hfront]
  dsimp only
  split
  · rfl
  · rfl
  · next tail hne =>
    have hnone : ¬ tail.head? = some '#' := fun h => by
      obtain ⟨body, rfl⟩ := List.head?_eq_some_iff.mp h
      exact hne body rfl
    simp [hnone]
  · rfl
  · rfl
  · rfl
  · cases after with
    | nil => rfl
    | cons c after => simp_all

/-- **A marker is found by its bytes.** -/
theorem markerAt_eq {front : List Char} (hfront : '#' ∉ front) (after : List Char) :
    markerAt (Text.byteLength front + 1) (Text.utf8 (String.ofList (front ++ '#' :: after)))
      = (cutMarker (front ++ '#' :: after)).map fun m =>
          (m.unhide, Text.byteLength (m.hosts ++ marker m.unhide)) := by
  have hlength (unhide : Bool) : Text.byteLength (front ++ marker unhide)
      = Text.byteLength front + 1 + (if unhide then 2 else 1) := by
    rw [Text.byteLength_append]
    cases unhide <;> rfl
  have hfirst := getElem?_utf8_append front after 0
  have hsecond := getElem?_utf8_append front after 1
  rw [Nat.add_zero] at hfirst
  have hsharp (text : List Char) : (Text.utf8 (String.ofList text))[0]? = some 0x23
      ↔ text.head? = some '#' := Text.getElem?_utf8_zero_iff '#' (by decide) text
  have hat : (Text.utf8 (String.ofList after))[0]? = some 0x40 ↔ after.head? = some '@' :=
    Text.getElem?_utf8_zero_iff '@' (by decide) after
  have hexception : ((Text.utf8 (String.ofList after))[0]? = some 0x40
      ∧ (Text.utf8 (String.ofList after))[1]? = some 0x23)
      ↔ (after.head? = some '@' ∧ after.tail.head? = some '#') := by
    rw [hat]
    refine and_congr_right fun h => ?_
    obtain ⟨tail, rfl⟩ := List.head?_eq_some_iff.mp h
    rw [Text.utf8_ofList_cons_of_ascii (by decide), List.getElem?_cons_succ]
    exact hsharp tail
  have hunsupported : (Text.utf8 (String.ofList after))[0]?
      ∈ ([some 0x40, some 0x3F, some 0x24, some 0x25] : List (Option UInt8))
      ↔ after.head? ∈ [some '@', some '?', some '$', some '%'] := by
    simp only [List.mem_cons, List.not_mem_nil, or_false]
    exact or_congr hat (or_congr (Text.getElem?_utf8_zero_iff '?' (by decide) after)
      (or_congr (Text.getElem?_utf8_zero_iff '$' (by decide) after)
        (Text.getElem?_utf8_zero_iff '%' (by decide) after)))
  rw [markerAt, hfirst, hsecond, cutMarker_append hfront]
  simp only [hsharp, hexception, hunsupported]
  split
  · exact congrArg (fun n => Except.ok (false, n)) (hlength false).symm
  split
  · exact congrArg (fun n => Except.ok (true, n)) (hlength true).symm
  split <;> rfl

theorem hosts_eq (idna : ToAscii) (front after : List Char) :
    hosts idna (Text.byteLength front) (front ++ after) = .ofExcept (hostList? idna front) := by
  rw [hosts]
  split
  · next hzero =>
    rw [Text.byteLength_eq_zero_iff.mp hzero]
    rfl
  · rw [Text.slice_zero_append]
    rfl

theorem readCosmeticBody_eq (front body : List Char) :
    readCosmeticBody (Text.byteLength front) (front ++ body)
      = .ofExcept (CosmeticRule.readBody body) := by
  have hstands (name : String) (hname : Text.isAscii name.toList) :=
    Text.standsAt_utf8_append hname front body
  simp only [String.ofList_toList] at hstands
  have hfrom (name call : List Char) : Text.sliceFrom (Text.byteLength front + Text.byteLength name)
      (front ++ (name ++ call)) = .ok call := by
    rw [← Text.byteLength_append, ← List.append_assoc]
    exact Text.sliceFrom_append (front ++ name) call
  rw [readCosmeticBody, CosmeticRule.readBody, hstands "script:" rfl, hstands "+js(" rfl]
  cases hscript : Text.dropOpening? "script:".toList body with
  | some call =>
    obtain rfl := Text.eq_append_of_dropOpening? hscript
    have hslice : Text.sliceFrom (Text.byteLength front + 7) (front ++ ("script:".toList ++ call))
        = .ok call := hfrom "script:".toList call
    rw [Option.isSome_some, if_pos rfl, hslice, Guarded.liftM_ok_bind]
    dsimp only
    rw [Guarded.ofExcept_bind]
    refine congrArg (Guarded.ofExcept (unclose call) >>= ·) (funext fun call => ?_)
    cases Text.dropOpening? "inject(".toList call with
    | some inner => rfl
    | none => cases Text.dropOpening? "contains(".toList call <;> rfl
  | none =>
    cases hscriptlet : Text.dropOpening? "+js(".toList body with
    | some call =>
      obtain rfl := Text.eq_append_of_dropOpening? hscriptlet
      have hslice : Text.sliceFrom (Text.byteLength front + 4) (front ++ ("+js(".toList ++ call))
          = .ok call := hfrom "+js(".toList call
      rw [Option.isSome_none, Option.isSome_some, if_neg Bool.false_ne_true, if_pos rfl, hslice,
        Guarded.liftM_ok_bind]
      dsimp only
      rw [Guarded.ofExcept_bind]
      rfl
    | none =>
      rw [Text.sliceFrom_append]
      rfl

/-- **No slice of a cosmetic filter is a fault**, whatever its line. -/
theorem cosmeticFilter_eq (idna : ToAscii) (keepLine : Bool) (line : String) :
    cosmeticFilter idna keepLine line
      = .ofExcept (CosmeticFilter.ofLine idna keepLine line) := by
  rw [cosmeticFilter, ofLine_eq_bind, Text.offset?_beq]
  cases hcut : Text.cut? '#' line.toList with
  | none =>
    rw [cutMarker, hcut]
    rfl
  | some parts =>
    obtain ⟨front, after⟩ := parts
    obtain ⟨hline, hfront⟩ := Text.eq_append_of_cut? hcut
    have hmarker := markerAt_eq hfront after
    rw [← hline, String.ofList_toList] at hmarker
    dsimp only [Option.map_some]
    rw [hmarker]
    cases hcutMarker : cutMarker line.toList with
    | error e => rfl
    | ok m =>
      obtain ⟨-, htext⟩ := cutMarker_eq_ok_iff.mp hcutMarker
      have hmhosts : m.hosts = front := by
        rw [cutMarker, hcut] at hcutMarker
        dsimp only at hcutMarker
        split at hcutMarker <;> cases hcutMarker <;> rfl
      have hhosts := hosts_eq idna front ('#' :: after)
      have hbody := readCosmeticBody_eq (m.hosts ++ marker m.unhide) m.body
      rw [← hline] at hhosts
      rw [List.append_assoc, ← htext] at hbody
      show (hosts idna (Text.byteLength front) line.toList >>= fun hosts =>
        readCosmeticBody (Text.byteLength (m.hosts ++ marker m.unhide)) line.toList >>= fun body =>
          Guarded.ofExcept (checked keepLine line m.unhide hosts body)) = _
      rw [hhosts, hbody, ok_bind, hmhosts, Guarded.ofExcept_bind]
      simp only [Guarded.ofExcept_bind]

end Sliced

/-! ## All slices -/

/-- **No text is sliced beyond its ends or within a character.** A slice is no fault where it begins
and ends at positions of the text. With every slice and every access written out, lines of filters,
lists of hosts, selectors and addresses give what they give without offsets, and no fault; so does
the comparison of any filter with any request, though the host is looked for in lower case. -/
theorem no_slice_is_fault :
    (∀ start stop text, (∃ part, Text.slice start stop text = .ok part) ↔
      start ≤ stop ∧ String.Pos.Raw.IsValid (String.ofList text) ⟨start⟩
        ∧ String.Pos.Raw.IsValid (String.ofList text) ⟨stop⟩) ∧
    (∀ idna keepLine line, Sliced.cosmeticFilter idna keepLine line
      = .ofExcept (CosmeticFilter.ofLine idna keepLine line)) ∧
    (∀ line, Sliced.ruleKind? line = .ok (RuleKind.ofLine? line)) ∧
    (∀ text, Sliced.cutOptions text = .ok (NetworkRule.cutOptions text)) ∧
    (∀ text, Sliced.regexSource? text = .ok (NetworkRule.regexSource? text)) ∧
    (∀ idna regex keepLine line, Sliced.networkFilter idna regex keepLine line
      = .ofExcept (NetworkFilter.ofLine idna regex keepLine line)) ∧
    (∀ l : HostList, Sliced.entries l = .ok l.entries) ∧
    (∀ f : CosmeticFilter, Sliced.selectorTokens f = .ok f.selectorTokens) ∧
    (∀ url, Sliced.schemeEnd? url = .ok (Url.schemeEnd? url)) ∧
    (∀ url, Sliced.hostRange? url = .ok (Url.hostRange? url)) ∧
    ∀ search (f : NetworkFilter) r,
      Sliced.patternMatches search f r = .ok (f.patternMatches search r) :=
  ⟨fun _ _ _ => Text.exists_slice_iff, Sliced.cosmeticFilter_eq, Sliced.ruleKind?_eq,
    Sliced.cutOptions_eq, Sliced.regexSource?_eq, Sliced.networkFilter_eq, Sliced.entries_eq,
    Sliced.selectorTokens_eq, Sliced.schemeEnd?_eq, Sliced.hostRange?_eq,
    Sliced.patternMatches_eq⟩

end Blocklist
