import Blocklist.Proofs.Text.Lower
import Blocklist.Proofs.Text.Slice
import Blocklist.Proofs.Url
/-!
# Addresses — the host by offsets

Where the scheme ends and the host stands, with every slice written out
that is taken of the address: each begins and ends at an offset found
before. None of them is a fault, and the offsets are the same as those of
the parts (`schemeEnd?_eq`, `hostRange?_eq`).
-/

namespace Blocklist

namespace Sliced

/-- The byte of a character that a scheme may hold. -/
def isSchemeByte (b : UInt8) : Bool := Token.isWordByte b || b == 0x2B || b == 0x2D || b == 0x2E

/-- The offset at which the scheme has ended. -/
def schemeEnd? (url : List Char) : Except Fault (Option Nat) := do
  match Text.offset? (· == ':') url with
  | none => return none
  | some colon =>
    let scheme ← Access.slice 0 colon (Text.utf8 (String.ofList url))
    if scheme.isEmpty || !scheme.all isSchemeByte then return none
    let after ← Text.sliceFrom (colon + 1) url
    if (Text.dropOpening? ['/', '/'] after).isSome then return some (colon + 3)
    let name := scheme.map Token.lowerByte
    if name == Text.utf8 "data" || name == Text.utf8 "about" then return some (colon + 1)
    return none

/-- The offsets at which the host begins and ends. -/
def hostRange? (url : List Char) : Except Fault (Option (Nat × Nat)) := do
  match ← schemeEnd? url with
  | none => return none
  | some start =>
    let after ← Text.sliceFrom start url
    let left ← Access.sub (Text.byteLength url) start
    let stop := start + (Text.offset? Url.endsAuthority after).getD left
    let authority ← Text.slice start stop url
    let hostStart := ((Text.lastOffset? (· == '@') authority).map (start + · + 1)).getD start
    let place ← Text.slice hostStart stop url
    let left ← Access.sub stop hostStart
    return some (hostStart, hostStart + (Text.offset? (· == ':') place).getD left)

/-! ## Bytes of a scheme -/

theorem isSchemeByte_iff {b : UInt8} : isSchemeByte b ↔ (48 ≤ b.toNat ∧ b.toNat ≤ 57)
    ∨ (65 ≤ b.toNat ∧ b.toNat ≤ 90) ∨ (97 ≤ b.toNat ∧ b.toNat ≤ 122)
    ∨ b.toNat = 43 ∨ b.toNat = 45 ∨ b.toNat = 46 := by
  simp only [isSchemeByte, Bool.or_eq_true, Text.isWordByte_iff, beq_iff_eq, ← UInt8.toNat_inj,
    UInt8.reduceToNat, or_assoc]

theorem isSchemeChar_iff {c : Char} : Url.isSchemeChar c ↔ (48 ≤ c.toNat ∧ c.toNat ≤ 57)
    ∨ (65 ≤ c.toNat ∧ c.toNat ≤ 90) ∨ (97 ≤ c.toNat ∧ c.toNat ≤ 122)
    ∨ c.toNat = 43 ∨ c.toNat = 45 ∨ c.toNat = 46 := by
  simp only [Url.isSchemeChar, Bool.or_eq_true, Text.isAlphanum_iff, beq_iff_eq, ← Char.toNat_inj,
    Char.reduceToNat]
  omega

theorem all_isSchemeByte_utf8EncodeChar (c : Char) :
    (String.utf8EncodeChar c).all isSchemeByte = Url.isSchemeChar c := by
  rw [Bool.eq_iff_iff, isSchemeChar_iff]
  by_cases hascii : c.toNat < 128
  · have hbyte : (UInt8.ofNat c.toNat).toNat = c.toNat := by
      rw [UInt8.toNat_ofNat']
      omega
    simp [Text.utf8EncodeChar_of_ascii hascii, isSchemeByte_iff, hbyte]
  · refine iff_of_false (fun hall => ?_) (by omega)
    obtain ⟨b, rest, hbytes⟩ := List.exists_cons_of_ne_nil (String.utf8EncodeChar_ne_nil (c := c))
    have hmem : b ∈ String.utf8EncodeChar c := hbytes ▸ List.mem_cons_self
    have hlarge := Text.le_of_mem_utf8EncodeChar (by omega) hmem
    have hscheme := isSchemeByte_iff.mp (List.all_eq_true.mp hall b hmem)
    omega

theorem all_isSchemeByte_utf8 (text : List Char) :
    (Text.utf8 (String.ofList text)).all isSchemeByte = text.all Url.isSchemeChar := by
  rw [Text.utf8_ofList, List.all_flatMap]
  exact congrArg text.all (funext all_isSchemeByte_utf8EncodeChar)

theorem map_lowerByte_utf8_beq (scheme : List Char) (name : String) :
    ((Text.utf8 (String.ofList scheme)).map Token.lowerByte == Text.utf8 name)
      = (Text.lower scheme == name.toList) := by
  rw [Bool.eq_iff_iff, beq_iff_eq, beq_iff_eq, ← Text.utf8_lower]
  constructor
  · intro h
    rw [← String.ofList_toList (s := name)] at h
    exact Text.utf8_ofList_injective h
  · intro h
    rw [h, String.ofList_toList]

/-! ## No slice is beyond bounds -/

/-- **The scheme ends where its part does.** -/
theorem schemeEnd?_eq (url : List Char) : schemeEnd? url = .ok (Url.schemeEnd? url) := by
  rw [schemeEnd?, Text.offset?_beq, Url.schemeEnd?, Url.cutScheme?]
  cases hcut : Text.cut? ':' url with
  | none => rfl
  | some parts =>
    obtain ⟨scheme, rest⟩ := parts
    obtain ⟨rfl, -⟩ := Text.eq_append_of_cut? hcut
    have hempty : (Text.utf8 (String.ofList scheme)).isEmpty = scheme.isEmpty := by
      rw [Bool.eq_iff_iff, List.isEmpty_iff, List.isEmpty_iff]
      exact ⟨fun h => Text.utf8_ofList_injective h, fun h => by rw [h]; rfl⟩
    have hslashes : Text.byteLength (scheme ++ [':', '/', '/']) = Text.byteLength scheme + 3 :=
      Text.byteLength_append scheme [':', '/', '/']
    have hcolon : Text.byteLength (scheme ++ [':']) = Text.byteLength scheme + 1 :=
      Text.byteLength_append scheme [':']
    simp only [Option.map_some, bind, Option.bind_some, Except.bind,
      Text.access_slice_zero_append, Text.sliceFrom_append_cons (c := ':') rfl, hempty,
      all_isSchemeByte_utf8, map_lowerByte_utf8_beq]
    split
    · rfl
    · cases Text.dropOpening? ['/', '/'] rest with
      | some rest =>
        rw [Option.isSome_some, if_pos rfl, Option.map_some, hslashes]
        rfl
      | none =>
        rw [Option.isSome_none, if_neg Bool.false_ne_true]
        dsimp only
        split
        · rw [Option.map_some, hcolon]
          rfl
        · rfl

/-- The host goes up to the first colon of the place that follows the user information. -/
theorem host_of_place (lead place tail : List Char) :
    (do
      let found ← Text.slice (Text.byteLength lead) (Text.byteLength (lead ++ place))
        (lead ++ place ++ tail)
      let left ← Access.sub (Text.byteLength (lead ++ place)) (Text.byteLength lead)
      return some (Text.byteLength lead,
        Text.byteLength lead + (Text.offset? (· == ':') found).getD left))
      = (.ok (some (Text.byteLength lead,
          Text.byteLength lead + Text.byteLength (place.takeWhile (· != ':')))) :
        Except Fault (Option (Nat × Nat))) := by
  rw [Text.access_sub_append, Text.byteLength_append, Text.slice_append, ok_bind, ok_bind,
    Text.getD_offset?]
  rfl

/-- **The host stands where its part does.** -/
theorem hostRange?_eq (url : List Char) : hostRange? url = .ok (Url.hostRange? url) := by
  rw [hostRange?, schemeEnd?_eq, Url.schemeEnd?, Url.hostRange?, Url.parts?]
  cases hscheme : Url.cutScheme? url with
  | none => rfl
  | some cut =>
    obtain ⟨scheme, rest⟩ := cut
    obtain ⟨rfl, -⟩ := Url.eq_append_of_cutScheme? hscheme
    simp only [ok_bind, Option.map_some, Option.bind_eq_bind, Option.bind_some,
      Text.sliceFrom_append, Text.access_sub_append, Text.getD_offset?]
    have hrest : rest.takeWhile (!Url.endsAuthority ·) ++ rest.dropWhile (!Url.endsAuthority ·)
        = rest := List.takeWhile_append_dropWhile
    generalize rest.takeWhile (!Url.endsAuthority ·) = authority at hrest ⊢
    generalize rest.dropWhile (!Url.endsAuthority ·) = tail at hrest ⊢
    rw [← hrest, ← List.append_assoc, Text.slice_append, ok_bind, Text.lastOffset?_beq,
      ← Text.byteLength_append]
    cases hcut : Text.cutLast? '@' authority with
    | none =>
      dsimp only [Option.map_none, Option.getD_none]
      rw [List.append_nil]
      exact host_of_place scheme authority tail
    | some parts =>
      obtain ⟨user, place⟩ := parts
      obtain ⟨rfl, -⟩ := Text.eq_append_of_cutLast? hcut
      have hstart : Text.byteLength scheme + Text.byteLength user + 1
          = Text.byteLength (scheme ++ (user ++ ['@'])) := by
        rw [Text.byteLength_append, Text.byteLength_append user]
        rfl
      have hplace := host_of_place (scheme ++ (user ++ ['@'])) place tail
      rw [List.append_assoc, List.append_assoc, List.singleton_append] at hplace
      dsimp only [Option.map_some, Option.getD_some]
      rw [hstart]
      exact hplace

end Sliced

end Blocklist
