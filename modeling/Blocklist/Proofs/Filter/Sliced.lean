import Blocklist.Filter.Match
import Blocklist.Proofs.Filter.Classes
import Blocklist.Proofs.Url.Sliced
/-!
# Filters — entries, selectors and addresses by offsets

What a filter slices while it is filed and compared: the entries of a list of
hosts, the pieces of a selector outside of brackets, and an address from the
labels of its host on. No slice is a fault (`entries_eq`, `selectorTokens_eq`,
`patternMatches_eq`), not even where the host is looked for in the address in
lower case and the address itself is sliced.
-/

namespace Blocklist

namespace Sliced

/-! ## Lists of hosts -/

section Entries

/-- The offsets of a part that is not empty. -/
def range (start : Nat) (part : List Char) : List (Nat × Nat) :=
  if part.isEmpty then [] else [(start, start + Text.byteLength part)]

/-- The offsets of the parts that are not empty; each part begins behind the comma that follows the
one before it. -/
def rangesFrom (start : Nat) : List (List Char) → List (Nat × Nat)
  | [] => []
  | part :: parts => range start part ++ rangesFrom (start + Text.byteLength part + 1) parts

/-- The entries of a list, longest first; those of one length stay in order. -/
def entries (l : HostList) : Except Fault (List (List Char)) :=
  let text := l.text.toList
  let ranges := (rangesFrom 0 (text.splitOn ',')).mergeSort fun a b => b.2 - b.1 ≤ a.2 - a.1
  ranges.mapM fun r => Text.slice r.1 r.2 text

theorem map_slice_range (front part back : List Char) :
    ((range (Text.byteLength front) part).map fun r => Text.slice r.1 r.2 (front ++ part ++ back))
      = ([part].filter (!·.isEmpty)).map .ok := by
  rw [range, List.filter_singleton]
  cases hempty : part.isEmpty with
  | true => rfl
  | false => exact congrArg ([·]) (Text.slice_append front part back)

/-- What the offsets of the parts are those of. -/
theorem map_slice_rangesFrom (front text : List Char) :
    ((rangesFrom (Text.byteLength front) (text.splitOn ',')).map fun r =>
        Text.slice r.1 r.2 (front ++ text))
      = ((text.splitOn ',').filter (!·.isEmpty)).map .ok := by
  induction text using Text.pieces_induction ',' generalizing front with
  | single piece hpiece =>
    have h := map_slice_range front piece []
    rw [List.append_nil] at h
    rw [List.splitOn_eq_singleton hpiece, rangesFrom, rangesFrom, List.append_nil, h]
  | more piece rest hpiece ih =>
    have hstart : Text.byteLength front + Text.byteLength piece + 1
        = Text.byteLength (front ++ piece ++ [',']) := by
      rw [Text.byteLength_append, Text.byteLength_append]
      rfl
    have h := ih (front ++ piece ++ [','])
    rw [← List.append_cons] at h
    rw [List.splitOn_append_cons_self_of_not_mem hpiece, rangesFrom, List.map_append, hstart,
      ← List.append_assoc, map_slice_range, h, ← List.map_append, ← List.filter_append,
      List.singleton_append]

/-- **The entries stand where they were written.** -/
theorem entries_eq (l : HostList) : entries l = .ok l.entries := by
  have hslices := map_slice_rangesFrom [] l.text.toList
  rw [show Text.byteLength [] = 0 from rfl, List.nil_append] at hslices
  obtain ⟨part, hpart, hparts⟩ := exists_map_of_map_eq_map_ok hslices
  have hlength : ∀ r ∈ rangesFrom 0 (l.text.toList.splitOn ','),
      r.2 - r.1 = Text.byteLength (part r) := by
    intro r hr
    obtain ⟨-, -, -, -, hstop⟩ := Text.slice_eq_ok_iff.mp (hpart r hr)
    omega
  have hsorted : l.entries = ((rangesFrom 0 (l.text.toList.splitOn ',')).mergeSort
      fun a b => b.2 - b.1 ≤ a.2 - a.1).map part := by
    rw [HostList.entries, hparts]
    exact (List.map_mergeSort fun a ha b hb => by rw [hlength a ha, hlength b hb]).symm
  rw [hsorted]
  exact mapM_eq_ok fun r hr => hpart r (List.mem_mergeSort.mp hr)

end Entries

/-! ## Selectors -/

section Selectors

open CosmeticFilter

/-- The place of the last byte that satisfies `p`. -/
def lastPlace? (p : UInt8 → Bool) (bytes : List UInt8) : Option Nat :=
  (bytes.reverse.findIdx? p).map (bytes.length - 1 - ·)

/-- More tokens: those of a slice of the selector, where there is something to slice outside of
brackets. -/
def addSlice (selector : List Char) (depth start stop : Nat) (buffer : TokenBuffer) :
    Except Fault TokenBuffer := do
  if depth = 0 ∧ start < stop then
    let part ← Text.slice start stop selector
    return buffer.extend (Token.ofSelector (Text.utf8 (String.ofList part)))
  return buffer

/-- Goes through the bytes of a selector from a place on, with `depth` brackets open and the next
slice beginning at `start`. -/
def scan (selector : List Char) (place depth start : Nat) (buffer : TokenBuffer) :
    List UInt8 → Except Fault TokenBuffer
  | [] => addSlice selector depth start (Text.byteLength selector) buffer
  | b :: rest => do
    if b == openBracket then
      let buffer ← addSlice selector depth start place buffer
      scan selector (place + 1) (depth + 1) start buffer rest
    else if b == closeBracket then
      scan selector (place + 1) (depth - 1) (place + 1) buffer rest
    else scan selector (place + 1) depth start buffer rest

/-- The tokens of what a filter hides. -/
def selectorTokens (f : CosmeticFilter) : Except Fault (List UInt32) := do
  if f.action != .hide then return []
  let bytes := Text.utf8 f.selector
  let first := (lastPlace? isCombinator bytes).getD 0
  let buffer ← scan f.selector.toList first 0 first .empty (bytes.drop first)
  return buffer.tokens

variable {lead pending rest plain : List UInt8} {selector : List Char} {depth start : Nat}
  {b : UInt8}

/-! ### Pieces outside of brackets -/

theorem outside_of_plain (h : ∀ b ∈ plain, isPlain b) (depth : Nat) :
    outside depth plain = if depth = 0 then [plain] else [] := by
  have htake : plain.takeWhile isPlain = plain := List.takeWhile_eq_self_iff.mpr h
  have hdrop : plain.dropWhile isPlain = [] := List.dropWhile_eq_nil_iff.mpr h
  rw [outside, htake]
  split
  · rfl
  · next hrest => exact absurd (hdrop.symm.trans hrest) (List.cons_ne_nil _ _).symm

/-- What a bracket does to the pieces behind it. -/
theorem outside_append_bracket (h : ∀ b ∈ plain, isPlain b) (hb : isPlain b = false)
    (depth : Nat) (rest : List UInt8) : outside depth (plain ++ b :: rest)
      = if b == openBracket then
          (if depth = 0 then [plain] else []) ++ outside (depth + 1) rest
        else outside (depth - 1) rest := by
  have hstop : ∀ c ∈ (b :: rest).head?, isPlain c = false := fun c hc => Option.some.inj hc ▸ hb
  obtain ⟨htake, hdrop⟩ := Text.takeWhile_append_of_stop h hstop
  rw [outside, htake]
  split
  · next hrest => exact absurd (hdrop.symm.trans hrest) (List.cons_ne_nil _ _)
  · next hrest =>
    obtain ⟨rfl, rfl⟩ := List.cons.inj (hdrop.symm.trans hrest)
    rfl

/-- A combinator is no bracket, and it is a character of its own. -/
theorem isPlain_of_isCombinator (hb : isCombinator b) : isPlain b ∧ b.toNat < 128 := by
  rw [isCombinator, Bool.or_eq_true, Bool.or_eq_true, beq_iff_eq, beq_iff_eq, beq_iff_eq] at hb
  rcases hb with (rfl | rfl) | rfl <;> decide

/-- The combinator before the last compound selector is no part of a token. -/
theorem flatMap_outside_cons (hb : isCombinator b) (text : List UInt8) :
    (outside 0 (b :: text)).flatMap Token.ofSelector
      = (outside 0 text).flatMap Token.ofSelector := by
  have hident := isIdentByte_of_stop (.inr hb)
  have hplain := (isPlain_of_isCombinator hb).1
  have hfirst : ∀ c ∈ text.takeWhile isPlain, isPlain c := fun c hc => List.mem_takeWhile_imp hc
  have hcons : ∀ c ∈ b :: text.takeWhile isPlain, isPlain c :=
    List.forall_mem_cons.mpr ⟨hplain, hfirst⟩
  have htext : text.takeWhile isPlain ++ text.dropWhile isPlain = text :=
    List.takeWhile_append_dropWhile
  have hstop := Text.head?_dropWhile isPlain text
  generalize text.takeWhile isPlain = first at *
  generalize text.dropWhile isPlain = rest at *
  subst htext
  cases rest with
  | nil =>
    rw [List.append_nil, outside_of_plain hfirst, outside_of_plain hcons, if_pos rfl, if_pos rfl,
      List.flatMap_singleton, List.flatMap_singleton, Token.ofSelector_cons_of_not_ident hident]
  | cons c rest =>
    rw [← List.cons_append, outside_append_bracket hcons (hstop c rfl),
      outside_append_bracket hfirst (hstop c rfl), if_pos rfl, if_pos rfl]
    split
    · rw [List.flatMap_append, List.flatMap_append, List.flatMap_singleton, List.flatMap_singleton,
        Token.ofSelector_cons_of_not_ident hident]
    · rfl

/-! ### The bytes of a selector -/

/-- The last compound selector is all of a selector, or what follows its last combinator. -/
theorem lastPlace?_cases (bytes : List UInt8) :
    (lastPlace? isCombinator bytes = none ∧ lastCompound bytes = bytes) ∨
      ∃ lead b, lastPlace? isCombinator bytes = some lead.length ∧ isCombinator b ∧
        bytes = lead ++ b :: lastCompound bytes := by
  have hbytes := upToCombinator_append_lastCompound bytes
  have hlast := isCombinator_getLast?_upToCombinator bytes
  have hnone : (lastCompound bytes).reverse.findIdx? isCombinator = none :=
    List.findIdx?_eq_none_iff.mpr fun b hb =>
      isCombinator_of_mem_lastCompound (List.mem_reverse.mp hb)
  rcases List.eq_nil_or_concat (upToCombinator bytes) with h | ⟨lead, b, h⟩
  · rw [h, List.nil_append] at hbytes
    rw [hbytes] at hnone
    exact .inl ⟨by rw [lastPlace?, hnone]; rfl, hbytes⟩
  · have hb : isCombinator b := by
      refine hlast b ?_
      rw [h, List.concat_eq_append, List.getLast?_concat]
      rfl
    rw [h, List.concat_eq_append, ← List.append_cons] at hbytes
    refine .inr ⟨lead, b, ?_, hb, hbytes.symm⟩
    generalize lastCompound bytes = compound at *
    rw [lastPlace?, ← hbytes, List.reverse_append, List.reverse_cons, List.append_assoc,
      List.findIdx?_append, hnone, List.singleton_append, List.findIdx?_cons, if_pos hb,
      List.length_append, List.length_cons, List.length_reverse]
    refine congrArg some ?_
    dsimp only
    omega

/-- What lies between two places of a selector is sliced there, if it counts. -/
theorem addSlice_eq (buffer : TokenBuffer)
    (htext : Text.utf8 (String.ofList selector) = lead ++ pending ++ rest)
    (hstart : depth = 0 → start = lead.length ∧ (Text.cutAt? start selector).isSome)
    (hstop : (Text.cutAt? (lead ++ pending).length selector).isSome) :
    addSlice selector depth start (lead ++ pending).length buffer
      = .ok (buffer.extend ((if depth = 0 then [pending] else []).flatMap Token.ofSelector)) := by
  rw [addSlice]
  by_cases hdepth : depth = 0
  · obtain ⟨rfl, hlead⟩ := hstart hdepth
    have hle : lead.length ≤ (lead ++ pending).length := by
      rw [List.length_append]
      exact Nat.le_add_right ..
    obtain ⟨part, hpart⟩ := Text.exists_slice hle hlead hstop
    have hbytes := Text.utf8_of_slice hpart
    rw [htext, List.append_assoc, List.drop_left, List.length_append, Nat.add_sub_cancel_left,
      List.take_left] at hbytes
    rw [if_pos hdepth, List.flatMap_singleton]
    split
    · rw [hpart, ← hbytes]
      rfl
    · next hempty =>
      have hnone : pending = [] := by
        rw [List.length_append] at hempty
        exact List.length_eq_zero_iff.mp (by omega)
      rw [hnone, Token.ofSelector_nil]
      rfl
  · rw [if_neg (fun h => hdepth h.1), if_neg hdepth]
    rfl

/-- **No slice of a scan is a fault**: where no bracket is open, the next one begins where a
character does and there is no bracket in what has been passed since. -/
theorem scan_eq (buffer : TokenBuffer)
    (htext : Text.utf8 (String.ofList selector) = lead ++ pending ++ rest)
    (hpending : ∀ b ∈ pending, isPlain b)
    (hstart : depth = 0 → start = lead.length ∧ (Text.cutAt? start selector).isSome) :
    scan selector (lead ++ pending).length depth start buffer rest
      = .ok (buffer.extend ((outside depth (pending ++ rest)).flatMap Token.ofSelector)) := by
  induction rest generalizing lead pending depth start buffer with
  | nil =>
    have hlength : Text.byteLength selector = (lead ++ pending).length := by
      rw [← Text.length_utf8_ofList, htext, List.append_nil]
    have hstop : (Text.cutAt? (lead ++ pending).length selector).isSome := by
      have hend := Text.isSome_cutAt?_append selector []
      rwa [List.append_nil, hlength] at hend
    rw [scan, hlength, addSlice_eq buffer htext hstart hstop, List.append_nil,
      outside_of_plain hpending]
  | cons b rest ih =>
    have hstop : isPlain b = false → (Text.cutAt? (lead ++ pending).length selector).isSome
        ∧ (Text.cutAt? ((lead ++ pending).length + 1) selector).isSome := by
      intro hb
      refine Text.isSome_cutAt?_of_utf8 ?_ htext
      rcases isPlain_eq_false_iff.mp hb with rfl | rfl <;> decide
    have hpassed : (lead ++ pending ++ [b]).length = (lead ++ pending).length + 1 :=
      List.length_append
    have htext' : Text.utf8 (String.ofList selector) = lead ++ pending ++ [b] ++ rest := by
      rw [htext, List.append_cons]
    rw [scan]
    cases hb : isPlain b with
    | true =>
      -- the byte is passed over, and the next slice will have it
      have hne := hb
      rw [isPlain, Bool.and_eq_true, bne_iff_ne, bne_iff_ne] at hne
      rw [List.append_assoc lead] at htext' hpassed
      rw [if_neg (by simpa using hne.1), if_neg (by simpa using hne.2), ← hpassed,
        List.append_cons pending b rest]
      refine ih buffer htext' (fun c hc => ?_) hstart
      rcases List.mem_append.mp hc with hc | hc
      · exact hpending c hc
      · exact List.mem_singleton.mp hc ▸ hb
    | false =>
      -- the byte is a bracket: nothing is pending behind it
      have hnone : ∀ c ∈ ([] : List UInt8), isPlain c := fun _ hc => absurd hc List.not_mem_nil
      rw [← List.append_nil (_ ++ [b])] at htext' hpassed
      rw [outside_append_bracket hpending hb, ← hpassed]
      split
      · rw [addSlice_eq buffer htext hstart (hstop hb).1, ok_bind, List.flatMap_append,
          ← TokenBuffer.extend_extend]
        exact ih _ htext' hnone (absurd · (Nat.succ_ne_zero depth))
      · next hopen =>
        have hclose : b = closeBracket :=
          (isPlain_eq_false_iff.mp hb).resolve_left fun h => hopen (beq_iff_eq.mpr h)
        rw [if_pos (beq_iff_eq.mpr hclose)]
        refine ih buffer htext' hnone fun _ => ⟨by rw [List.append_nil], ?_⟩
        rw [hpassed]
        exact (hstop hb).2

/-- **The pieces of a selector stand where the scan finds them.** -/
theorem selectorTokens_eq (f : CosmeticFilter) : selectorTokens f = .ok f.selectorTokens := by
  rw [selectorTokens, CosmeticFilter.selectorTokens]
  split
  · rfl
  have htext : Text.utf8 (String.ofList f.selector.toList) = Text.utf8 f.selector := by
    rw [String.ofList_toList]
  have hscan : ∀ lead rest, Text.utf8 f.selector = lead ++ rest →
      (Text.cutAt? lead.length f.selector.toList).isSome →
      scan f.selector.toList lead.length 0 lead.length .empty rest
        = .ok (TokenBuffer.empty.extend ((outside 0 rest).flatMap Token.ofSelector)) := by
    intro lead rest hbytes hstart
    rw [← htext, ← List.append_nil lead] at hbytes
    have h : scan f.selector.toList (lead ++ []).length 0 lead.length .empty rest = _ :=
      scan_eq .empty hbytes (fun _ hc => absurd hc List.not_mem_nil) fun _ => ⟨rfl, hstart⟩
    rwa [List.append_nil] at h
  dsimp only
  rcases lastPlace?_cases (Text.utf8 f.selector) with
    ⟨hlast, hcompound⟩ | ⟨lead, b, hlast, hb, hbytes⟩
  · rw [hlast, hcompound, Option.getD_none, List.drop_zero]
    exact congrArg (· >>= fun buffer => pure buffer.tokens)
      (hscan [] _ rfl (Text.isSome_cutAt?_append [] f.selector.toList))
  · have hascii := (isPlain_of_isCombinator hb).2
    have h := hscan lead _ hbytes (Text.isSome_cutAt?_of_utf8 hascii (htext.trans hbytes)).1
    rw [flatMap_outside_cons hb] at h
    have hdrop : (Text.utf8 f.selector).drop lead.length
        = b :: lastCompound (Text.utf8 f.selector) := by
      conv_lhs => rw [hbytes, List.drop_left]
    rw [hlast, Option.getD_some, hdrop, h]
    rfl

end Selectors

/-! ## Addresses -/

section Addresses

/-- The byte of `.`. -/
def dot : UInt8 := 0x2E

/-- The places at which labels begin in an address whose host stands between two offsets: that of
the host and those behind its dots. -/
def labelPlaces (range : Nat × Nat) (url : List UInt8) : Except Fault (List Nat) := do
  let behindDots ← (List.range' range.1 (range.2 - range.1)).mapM fun place => do
    return if (← Access.byteAt place url) == dot then some (place + 1) else none
  return range.1 :: behindDots.filterMap id

/-- Whether the pattern matches the address. The host is looked for in the address in lower case,
whether or not that is the one compared; there each byte of the host is read, and the address is
sliced from each label on. -/
def patternMatches (search : RegexSearch) (f : NetworkFilter) (r : Request) :
    Except Fault Bool := do
  if f.mask.has .regex then return search f.pattern (f.mask.has .matchCase) r.url
  let url := Text.utf8 (String.ofList (f.comparedUrl r))
  let isMatch (left : Bool) (bytes : List UInt8) : Bool :=
    Glob.isMatch left (f.mask.has .rightAnchor) (Text.utf8 f.pattern) bytes
  if f.mask.has .hostAnchor then
    match ← hostRange? r.lowerUrl with
    | none => return false
    | some range =>
      let places ← labelPlaces range url
      let starts ← places.mapM fun place => Access.slice place url.length url
      return starts.any (isMatch true)
  return isMatch (f.mask.has .leftAnchor) url

variable {p : Url.Parts} {url : List Char} {lead host : List UInt8} {place : Nat}

/-- The host of the address in lower case stands where it does in the address that is compared. -/
theorem hostRange?_lowerUrl (f : NetworkFilter) (r : Request) :
    Url.hostRange? r.lowerUrl = Url.hostRange? (f.comparedUrl r) := by
  rw [NetworkFilter.comparedUrl]
  split
  · exact Url.hostRange?_lower _
  · rfl

/-- The dots of a host are bytes of their own. -/
theorem exists_before_dot_iff {host : List Char} {behind : List UInt8} :
    (∃ before, Text.utf8 (String.ofList host) = before ++ dot :: behind) ↔
      ∃ start ∈ Url.afterDots host, Text.utf8 (String.ofList start) = behind := by
  have hdot : Text.utf8 (String.ofList ['.']) = [dot] := rfl
  simp only [Url.mem_afterDots_iff]
  constructor
  · rintro ⟨before, hhost⟩
    obtain ⟨front, c, back, rfl, -, hc, hback⟩ := Text.exists_eq_append_of_utf8 (by decide) hhost
    have hc : [c] = ['.'] := Text.utf8_ofList_injective
      (by rw [hdot, Text.utf8_ofList, List.flatMap_singleton, hc])
    exact ⟨back, ⟨front, by rw [(List.cons.inj hc).1]⟩, hback⟩
  · rintro ⟨start, ⟨front, rfl⟩, rfl⟩
    refine ⟨Text.utf8 (String.ofList front), ?_⟩
    rw [Text.utf8_ofList_append, ← List.singleton_append, Text.utf8_ofList_append, hdot]
    rfl

/-- Where a dot stands among some bytes. -/
theorem getElem?_append_eq_dot_iff (lead host rest : List UInt8) (place : Nat) :
    (place ∈ List.range' lead.length host.length ∧ (lead ++ host ++ rest)[place]? = some dot) ↔
      ∃ before after, host = before ++ dot :: after ∧ lead.length + before.length = place := by
  rw [List.mem_range'_1]
  constructor
  · rintro ⟨⟨hle, hlt⟩, hdot⟩
    obtain ⟨i, rfl⟩ := Nat.exists_eq_add_of_le hle
    have hi : i < host.length := by omega
    rw [List.append_assoc, List.getElem?_append_right hle, Nat.add_sub_cancel_left,
      List.getElem?_append_left hi, List.getElem?_eq_getElem hi] at hdot
    refine ⟨host.take i, host.drop (i + 1), ?_, by rw [List.length_take_of_le (Nat.le_of_lt hi)]⟩
    rw [← Option.some.inj hdot, List.getElem_cons_drop, List.take_append_drop]
  · rintro ⟨before, after, rfl, rfl⟩
    refine ⟨⟨Nat.le_add_right .., ?_⟩, ?_⟩
    · rw [List.length_append, List.length_cons]
      omega
    · rw [List.append_assoc, List.getElem?_append_right (Nat.le_add_right ..),
        Nat.add_sub_cancel_left, List.append_assoc, List.getElem?_append_right (Nat.le_refl _),
        Nat.sub_self]
      rfl

/-- A place where a label begins: that of the host, or one behind a dot of it. -/
def IsLabelPlace (lead host : List UInt8) (place : Nat) : Prop :=
  place = lead.length ∨
    ∃ before after, host = before ++ dot :: after ∧ place = lead.length + before.length + 1

theorem IsLabelPlace.le (h : IsLabelPlace lead host place) :
    place ≤ lead.length + host.length := by
  rcases h with rfl | ⟨before, after, rfl, rfl⟩
  · exact Nat.le_add_right ..
  · rw [List.length_append, List.length_cons]
    omega

/-- **Each byte of the host is there**, and its labels begin at the places that are found. -/
theorem labelPlaces_append (lead host rest : List UInt8) :
    ∃ places, labelPlaces (lead.length, lead.length + host.length) (lead ++ host ++ rest)
        = .ok places ∧ ∀ place, place ∈ places ↔ IsLabelPlace lead host place := by
  have hread : ∀ place ∈ List.range' lead.length host.length,
      (do return if (← Access.byteAt place (lead ++ host ++ rest)) == dot then some (place + 1)
          else none)
        = (.ok (if (lead ++ host ++ rest)[place]? = some dot then some (place + 1) else none) :
          Except Fault (Option Nat)) := by
    intro place hplace
    have hlt : place < (lead ++ host ++ rest).length := by
      rw [List.length_append, List.length_append]
      have := (List.mem_range'_1.mp hplace).2
      omega
    simp only [Access.byteAt_of_lt hlt, ok_bind, List.getElem?_eq_getElem hlt, beq_iff_eq,
      Option.some.injEq]
    rfl
  rw [labelPlaces, Nat.add_sub_cancel_left, mapM_eq_ok hread, ok_bind]
  refine ⟨_, rfl, fun place => ?_⟩
  simp only [IsLabelPlace, List.mem_cons, List.mem_filterMap, List.mem_map, id_eq,
    exists_eq_right, Option.ite_none_right_eq_some, Option.some.injEq]
  refine or_congr_right ?_
  constructor
  · rintro ⟨place, hplace, hdot, rfl⟩
    obtain ⟨before, after, hhost, rfl⟩ :=
      (getElem?_append_eq_dot_iff lead host rest place).mp ⟨hplace, hdot⟩
    exact ⟨before, after, hhost, rfl⟩
  · rintro ⟨before, after, hhost, rfl⟩
    obtain ⟨hplace, hdot⟩ :=
      (getElem?_append_eq_dot_iff lead host rest _).mpr ⟨before, after, hhost, rfl⟩
    exact ⟨_, hplace, hdot, rfl⟩

/-- What is left of an address from a place on at which a label begins. -/
theorem exists_drop_iff (lead host rest bytes : List UInt8) :
    (∃ place, IsLabelPlace lead host place ∧ (lead ++ host ++ rest).drop place = bytes) ↔
      host ++ rest = bytes ∨
        ∃ before after, host = before ++ dot :: after ∧ after ++ rest = bytes := by
  have hstart : (lead ++ host ++ rest).drop lead.length = host ++ rest := by
    rw [List.append_assoc, List.drop_left]
  have hbehind : ∀ before after, host = before ++ dot :: after →
      (lead ++ host ++ rest).drop (lead.length + before.length + 1) = after ++ rest := by
    rintro before after rfl
    rw [List.append_assoc, Nat.add_assoc, List.drop_length_add_append, List.append_assoc,
      List.drop_length_add_append]
    rfl
  constructor
  · rintro ⟨_, rfl | ⟨before, after, hhost, rfl⟩, rfl⟩
    · exact .inl hstart.symm
    · exact .inr ⟨before, after, hhost, (hbehind before after hhost).symm⟩
  · rintro (rfl | ⟨before, after, hhost, rfl⟩)
    · exact ⟨_, .inl rfl, hstart⟩
    · exact ⟨_, .inr ⟨before, after, hhost, rfl⟩, hbehind before after hhost⟩

/-- **The labels of a host begin at the places where they are looked for.** -/
theorem exists_labelPlaces (h : Url.parts? url = some p) :
    ∃ places, labelPlaces (Text.byteLength p.lead, Text.byteLength p.lead + Text.byteLength p.host)
        (Text.utf8 (String.ofList url)) = .ok places ∧
      (∀ place ∈ places, place ≤ (Text.utf8 (String.ofList url)).length) ∧
      ∀ bytes, (∃ place ∈ places, (Text.utf8 (String.ofList url)).drop place = bytes) ↔
        ∃ start ∈ p.labelStarts, Text.utf8 (String.ofList start) = bytes := by
  obtain ⟨hurl, -⟩ := Url.eq_append_of_parts? h
  have hbytes : Text.utf8 (String.ofList url) = Text.utf8 (String.ofList p.lead)
      ++ Text.utf8 (String.ofList p.host) ++ Text.utf8 (String.ofList p.rest) := by
    rw [hurl, Text.utf8_ofList_append, Text.utf8_ofList_append, List.append_assoc]
  obtain ⟨places, hplaces, hmem⟩ := labelPlaces_append (Text.utf8 (String.ofList p.lead))
    (Text.utf8 (String.ofList p.host)) (Text.utf8 (String.ofList p.rest))
  rw [← Text.length_utf8_ofList, ← Text.length_utf8_ofList, hbytes]
  refine ⟨places, hplaces, fun place hplace => ?_, fun bytes => ?_⟩
  · rw [List.length_append, List.length_append]
    exact Nat.le_add_right_of_le ((hmem place).mp hplace).le
  · simp only [hmem, exists_drop_iff]
    simp only [Url.Parts.labelStarts, List.mem_map, List.mem_cons]
    constructor
    · rintro (rfl | ⟨before, after, hhost, rfl⟩)
      · exact ⟨_, ⟨p.host, .inl rfl, rfl⟩, Text.utf8_ofList_append ..⟩
      · obtain ⟨start, hstart, rfl⟩ := exists_before_dot_iff.mp ⟨before, hhost⟩
        exact ⟨_, ⟨start, .inr hstart, rfl⟩, Text.utf8_ofList_append ..⟩
    · rintro ⟨_, ⟨start, rfl | hstart, rfl⟩, rfl⟩
      · exact .inl (Text.utf8_ofList_append ..).symm
      · obtain ⟨before, hhost⟩ := exists_before_dot_iff.mpr ⟨start, hstart, rfl⟩
        exact .inr ⟨before, _, hhost, (Text.utf8_ofList_append ..).symm⟩

/-- **No access to an address is a fault**, whatever the filter and the request. -/
theorem patternMatches_eq (search : RegexSearch) (f : NetworkFilter) (r : Request) :
    patternMatches search f r = .ok (f.patternMatches search r) := by
  rw [patternMatches, NetworkFilter.patternMatches]
  split
  · rfl
  split
  · rw [hostRange?_eq, ok_bind, hostRange?_lowerUrl, Url.hostRange?]
    cases hparts : Url.parts? (f.comparedUrl r) with
    | none => rfl
    | some p =>
      obtain ⟨places, hplaces, hle, hstarts⟩ := exists_labelPlaces hparts
      have hslices : ∀ place ∈ places, Access.slice place
          (Text.utf8 (String.ofList (f.comparedUrl r))).length
          (Text.utf8 (String.ofList (f.comparedUrl r)))
          = .ok ((Text.utf8 (String.ofList (f.comparedUrl r))).drop place) := by
        intro place hplace
        rw [Access.slice_of_le (hle place hplace) (Nat.le_refl _),
          List.take_of_length_le (Nat.le_of_eq List.length_drop)]
      dsimp only [Option.map_some]
      rw [hplaces, ok_bind, mapM_eq_ok hslices, ok_bind]
      refine congrArg Except.ok ?_
      rw [List.any_map, Bool.eq_iff_iff, List.any_eq_true, List.any_eq_true]
      constructor
      · rintro ⟨place, hplace, hmatch⟩
        obtain ⟨start, hstart, hbytes⟩ := (hstarts _).mp ⟨place, hplace, rfl⟩
        rw [Function.comp_apply, ← hbytes] at hmatch
        exact ⟨start, hstart, hmatch⟩
      · rintro ⟨start, hstart, hmatch⟩
        obtain ⟨place, hplace, hbytes⟩ := (hstarts _).mpr ⟨start, hstart, rfl⟩
        refine ⟨place, hplace, ?_⟩
        rw [Function.comp_apply, hbytes]
        exact hmatch
  · rfl

end Addresses

end Sliced

end Blocklist
