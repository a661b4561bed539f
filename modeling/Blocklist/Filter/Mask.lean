import Blocklist.Request.Type
/-!
# Filters — masks

A filter's options are packed into a mask. The sixteen low bits of a network
filter's mask are the request types it applies to; every other option has a
bit of its own above them. Bits without a meaning are kept as they are.
-/

namespace Blocklist

/-! ## Network filters -/

/-- An option of a network filter that is on or off. -/
inductive NetworkSwitch where
  /-- Applies to requests of the page's own site. -/
  | firstParty
  /-- Applies to requests of other sites. -/
  | thirdParty
  /-- Allows what it matches. -/
  | exception
  /-- The pattern begins where the address begins. -/
  | leftAnchor
  /-- The pattern ends where the address ends. -/
  | rightAnchor
  /-- The pattern begins with a label of the host. -/
  | hostAnchor
  /-- The pattern is a regular expression. -/
  | regex
  /-- Letters match in the same case only. -/
  | matchCase
  /-- Adds a content security policy. -/
  | csp
  /-- Blocks and redirects. -/
  | redirect
  /-- Redirects what another filter blocks. -/
  | redirectRule
  /-- Cancels the filter that is the same but for this. -/
  | badfilter
  deriving DecidableEq, Repr

namespace NetworkSwitch

/-- Every switch, lowest bit first. -/
def all : List NetworkSwitch := [
  .firstParty, .thirdParty, .exception, .leftAnchor, .rightAnchor, .hostAnchor, .regex, .matchCase,
  .csp, .redirect, .redirectRule, .badfilter]

/-- The bit of a switch in a mask. -/
def bit : NetworkSwitch → UInt32
  | firstParty => 0x00010000
  | thirdParty => 0x00020000
  | exception => 0x00040000
  | leftAnchor => 0x00080000
  | rightAnchor => 0x00100000
  | hostAnchor => 0x00200000
  | regex => 0x00400000
  | matchCase => 0x00800000
  | csp => 0x01000000
  | redirect => 0x02000000
  | redirectRule => 0x04000000
  | badfilter => 0x08000000

end NetworkSwitch

/-- The options of a network filter. -/
structure NetworkMask where
  /-- The bits. -/
  word : UInt32
  deriving DecidableEq, Repr

namespace NetworkMask

/-- The mask with these types and switches. -/
def make (types : TypeSet) (switches : List NetworkSwitch) : NetworkMask :=
  ⟨switches.foldl (fun word switch => word ||| switch.bit) types.word⟩

/-- Whether a switch is on. -/
def has (m : NetworkMask) (switch : NetworkSwitch) : Bool := m.word &&& switch.bit != 0

/-- The mask with a switch turned off. -/
def without (m : NetworkMask) (switch : NetworkSwitch) : NetworkMask := ⟨m.word &&& ~~~switch.bit⟩

/-- The request types. -/
def types (m : NetworkMask) : TypeSet := ⟨m.word &&& TypeSet.full.word⟩

end NetworkMask

/-! ## Cosmetic filters -/

/-- An option of a cosmetic filter that is on or off. -/
inductive CosmeticSwitch where
  /-- Cancels filters with the same selector. -/
  | unhide
  /-- Injects the scriptlet that the selector names. -/
  | scriptInject
  /-- Blocks inline scripts that contain the selector. -/
  | scriptBlock
  deriving DecidableEq, Repr

namespace CosmeticSwitch

/-- The bit of a switch in a mask. -/
def bit : CosmeticSwitch → UInt8
  | unhide => 1
  | scriptInject => 2
  | scriptBlock => 4

end CosmeticSwitch

/-- The options of a cosmetic filter. -/
structure CosmeticMask where
  /-- The bits. -/
  word : UInt8
  deriving DecidableEq, Repr

namespace CosmeticMask

/-- The mask with these switches. -/
def make (switches : List CosmeticSwitch) : CosmeticMask :=
  ⟨switches.foldl (fun word switch => word ||| switch.bit) 0⟩

/-- Whether a switch is on. -/
def has (m : CosmeticMask) (switch : CosmeticSwitch) : Bool := m.word &&& switch.bit != 0

end CosmeticMask

end Blocklist
