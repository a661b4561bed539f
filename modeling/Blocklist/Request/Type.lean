/-!
# Requests — resource types

What a request is for, and sets of such types packed into a word.
-/

namespace Blocklist

/-- What a request is for. -/
inductive RequestType where
  | other
  | script
  | image
  | stylesheet
  | object
  | subdocument
  | mainFrame
  | xmlHttpRequest
  | webSocket
  | font
  | media
  | ping
  | cspReport
  | beacon
  | fetch
  | speculative
  deriving DecidableEq, Repr

namespace RequestType

/-- Every type, lowest bit first. -/
def all : List RequestType := [
  .other, .script, .image, .stylesheet, .object, .subdocument, .mainFrame, .xmlHttpRequest,
  .webSocket, .font, .media, .ping, .cspReport, .beacon, .fetch, .speculative]

/-- The bit of a type in a set. -/
def bit : RequestType → UInt32
  | other => 0x0001
  | script => 0x0002
  | image => 0x0004
  | stylesheet => 0x0008
  | object => 0x0010
  | subdocument => 0x0020
  | mainFrame => 0x0040
  | xmlHttpRequest => 0x0080
  | webSocket => 0x0100
  | font => 0x0200
  | media => 0x0400
  | ping => 0x0800
  | cspReport => 0x1000
  | beacon => 0x2000
  | fetch => 0x4000
  | speculative => 0x8000

/-- The type a browser or a request log calls by this name; a name of neither is another type. -/
def ofName : String → RequestType
  | "main_frame" | "document" => mainFrame
  | "sub_frame" | "subdocument" => subdocument
  | "stylesheet" => stylesheet
  | "script" => script
  | "image" | "imageset" => image
  | "font" => font
  | "object" => object
  | "xmlhttprequest" | "xhr" => xmlHttpRequest
  | "fetch" => fetch
  | "ping" => ping
  | "beacon" => beacon
  | "csp_report" | "cspviolationreport" => cspReport
  | "media" => media
  | "websocket" => webSocket
  | "speculative" | "prefetch" => speculative
  | _ => other

end RequestType

/-- A set of request types: the bits of its members. Bits that belong to no type are kept. -/
structure TypeSet where
  /-- The bits. -/
  word : UInt32
  deriving DecidableEq, Repr

namespace TypeSet

/-- No type. -/
def empty : TypeSet := ⟨0⟩

/-- Every type there is. -/
def full : TypeSet := ⟨0xFFFF⟩

/-- The types of either set. -/
def union (a b : TypeSet) : TypeSet := ⟨a.word ||| b.word⟩

/-- The types of the first set that the second does not have. -/
def without (a b : TypeSet) : TypeSet := ⟨a.word &&& ~~~b.word⟩

/-- The set with these members. -/
def ofList (types : List RequestType) : TypeSet :=
  types.foldl (fun set type => set.union ⟨type.bit⟩) empty

/-- Whether the set has no bit. -/
def isEmpty (a : TypeSet) : Bool := a.word == 0

/-- Whether two sets have a bit in common. -/
def meets (a b : TypeSet) : Bool := a.word &&& b.word != 0

/-- Whether a type is a member. -/
def has (a : TypeSet) (type : RequestType) : Bool := a.meets ⟨type.bit⟩

/-- Top-level and framed documents. -/
def documents : TypeSet := ofList [.mainFrame, .subdocument]

theorem full_eq_ofList_all : full = ofList RequestType.all := by decide

@[simp] theorem union_empty (a : TypeSet) : a.union empty = a := by
  simp [union, empty]

theorem meets_comm (a b : TypeSet) : a.meets b = b.meets a := by
  simp only [meets, UInt32.and_comm]

/-- What either of two words has in common with a third. -/
theorem or_and_distrib_right (a b c : UInt32) : (a ||| b) &&& c = (a &&& c) ||| (b &&& c) :=
  UInt32.eq_of_toBitVec_eq BitVec.and_or_distrib_right

@[simp] theorem meets_union (a b c : TypeSet) : (a.union b).meets c = (a.meets c || b.meets c) := by
  simp only [meets, union, or_and_distrib_right]
  rw [Bool.eq_iff_iff]
  simp only [bne_iff_ne, Bool.or_eq_true, ne_eq, UInt32.or_eq_zero_iff,
    Decidable.not_and_iff_not_or_not]

/-- The union has the members of both. -/
@[simp] theorem has_union (a b : TypeSet) (type : RequestType) :
    (a.union b).has type = (a.has type || b.has type) := meets_union a b _

end TypeSet

end Blocklist
