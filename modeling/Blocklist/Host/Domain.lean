import Blocklist.Text.Cut
/-!
# Hosts — parents and registrable domains

A host name is a row of labels with dots between. A domain covers a host
that is the domain itself or lies below it.
-/

namespace Blocklist

namespace Host

/-- Public suffixes of two labels, in ascending order; every other public suffix counts as one
label. -/
def twoLabelSuffixes : Array String := #[
  "ac.jp", "ac.uk", "co.in", "co.jp", "co.kr", "co.nz", "co.uk", "co.za", "com.ar", "com.au",
  "com.br", "com.cn", "com.hk", "com.mx", "com.sg", "com.tr", "com.tw", "gov.au", "gov.uk",
  "ne.jp", "net.au", "net.nz", "or.jp", "org.au", "org.uk"]

/-- Whether a key is in an ascending table, at a place from `lo` up to, but not including, `hi`. The
half that cannot have it is left out at each step. -/
def isListedIn (table : Array String) (key : String) (lo hi : Nat) : Bool :=
  if _ : lo < hi then
    let mid := (lo + hi) / 2
    match table[mid]? with
    | none => false
    | some entry =>
      if key < entry then isListedIn table key lo mid
      else if entry < key then isListedIn table key (mid + 1) hi
      else true
  else false
termination_by hi - lo

/-- Whether two labels make up a public suffix. -/
def isTwoLabelSuffix (suffix : List Char) : Bool :=
  isListedIn twoLabelSuffixes (String.ofList suffix) 0 twoLabelSuffixes.size

/-- The registrable domain of a host: the public suffix and one label more. Dots at the end do not
count, and a host that is too short for it is its own. -/
def registrable (host : List Char) : List Char :=
  let host := (host.reverse.dropWhile (· == '.')).reverse
  match Text.cutLast? '.' host with
  | none => host
  | some (front, last) =>
    match Text.cutLast? '.' front with
    | none => host
    | some (front, second) =>
      let suffix := second ++ '.' :: last
      if isTwoLabelSuffix suffix then
        match Text.cutLast? '.' front with
        | none => host
        | some (_, third) => third ++ '.' :: suffix
      else suffix

/-- Whether two hosts belong to different registrable domains. -/
def differ (page request : List Char) : Bool := registrable page != registrable request

/-- The host after its first dot. -/
def parent? (host : List Char) : Option (List Char) := (Text.cut? '.' host).map Prod.snd

theorem length_lt_of_parent? {host p : List Char} (h : parent? host = some p) :
    p.length < host.length := by
  obtain ⟨⟨front, back⟩, hcut, rfl⟩ := Option.map_eq_some_iff.mp h
  have := (Text.eq_append_of_cut? hcut).1
  simp only [this, List.length_append, List.length_cons]
  omega

/-- A host and its parents, down to the last label. -/
def suffixes (host : List Char) : List (List Char) :=
  if host.isEmpty then []
  else
    host :: match _h : parent? host with
      | none => []
      | some p => suffixes p
termination_by host.length
decreasing_by exact length_lt_of_parent? _h

/-- Whether a host is a domain or lies below it. -/
def covers (domain host : List Char) : Bool :=
  match Text.dropClosing? domain host with
  | none => false
  | some front => front.getLast?.all (· == '.')

end Host

end Blocklist
