import Blocklist.Text.Cut
/-!
# Internationalised names — Punycode

A label outside ASCII is written as its ASCII characters, a hyphen, and
numbers that say which other characters go where. The numbers have digits
of varying weight, adapted after each to the size of the one before.
-/

namespace Blocklist

namespace Punycode

/-- The weight that ends a number: below it a digit is the last one. -/
def threshold (k bias : Nat) : Nat :=
  if k ≤ bias + 1 then 1 else if bias + 26 ≤ k then 26 else k - bias

theorem threshold_pos (k bias : Nat) : 1 ≤ threshold k bias := by
  unfold threshold
  split
  · omega
  · split <;> omega

theorem threshold_le (k bias : Nat) : threshold k bias ≤ 26 := by
  unfold threshold
  split
  · omega
  · split <;> omega

/-- Divides until the number is small, counting the divisions in steps of 36. -/
def shrink (delta k : Nat) : Nat :=
  if 455 < delta then shrink (delta / 35) (k + 36) else k + 36 * delta / (delta + 38)
termination_by delta
decreasing_by omega

/-- The bias after a number, given how many characters there are then. -/
def adapt (delta count : Nat) (first : Bool) : Nat :=
  let delta := if first then delta / 700 else delta / 2
  shrink (delta + delta / count) 0

/-- The digit of a value below 36: letters first, then figures. -/
def digit (d : Nat) : Char :=
  if d < 26 then Char.ofNat ('a'.toNat + d) else Char.ofNat ('0'.toNat + (d - 26))

/-- The value of a digit, in either case. -/
def digitValue? (c : Char) : Option Nat :=
  if 'a' ≤ c && c ≤ 'z' then some (c.toNat - 'a'.toNat)
  else if 'A' ≤ c && c ≤ 'Z' then some (c.toNat - 'A'.toNat)
  else if '0' ≤ c && c ≤ '9' then some (c.toNat - '0'.toNat + 26)
  else none

/-! ## Writing -/

/-- The digits of a number, lowest first, each weighed against its threshold. -/
def digits (bias k n : Nat) : List Char :=
  let t := threshold k bias
  if n < t then [digit n]
  else digit (t + (n - t) % (36 - t)) :: digits bias (k + 36) ((n - t) / (36 - t))
termination_by n
decreasing_by
  have h1 := threshold_pos k bias
  have h2 := Nat.div_le_self (n - threshold k bias) (36 - threshold k bias)
  omega

/-- The writer between two numbers. -/
structure Writer where
  /-- The characters below this one are written. -/
  next : Nat
  /-- Places passed since the last number. -/
  delta : Nat
  /-- The bias of the next number. -/
  bias : Nat
  /-- How many characters are written. -/
  written : Nat
  /-- The text so far, last character first. -/
  back : List Char

/-- Passes one character of the label while the characters equal to `m` are being written. -/
def Writer.pass (basic m : Nat) (w : Writer) (c : Char) : Writer :=
  if c.toNat < m then { w with delta := w.delta + 1 }
  else if c.toNat = m then
    { w with
      delta := 0
      bias := adapt w.delta (w.written + 1) (w.written == basic)
      written := w.written + 1
      back := (digits w.bias 36 w.delta).reverse ++ w.back }
  else w

/-- Writes every occurrence of the character `m`, the least that is still unwritten. -/
def Writer.occurrences (label : List Char) (basic : Nat) (w : Writer) (m : Nat) : Writer :=
  let w := { w with delta := w.delta + (m - w.next) * (w.written + 1), next := m }
  let w := label.foldl (Writer.pass basic m) w
  { w with delta := w.delta + 1, next := m + 1 }

/-- The Punycode of a label. -/
def encode (label : List Char) : List Char :=
  let basic := label.filter fun c => c.val < 0x80
  let others := ((label.filter fun c => !(c.val < 0x80)).map Char.toNat).mergeSort.eraseDups
  let front := if basic.isEmpty then [] else basic ++ ['-']
  let w := others.foldl (Writer.occurrences label basic.length)
    ⟨0x80, 0, 72, basic.length, []⟩
  front ++ w.back.reverse

/-! ## Reading -/

/-- The reader inside or between numbers. -/
structure Reader where
  /-- The character that the next number counts on from. -/
  next : Nat
  /-- The place after the last insertion. -/
  place : Nat
  /-- The place, with what has been read of the current number. -/
  sum : Nat
  /-- The weight of the next digit; one between numbers. -/
  weight : Nat
  /-- Thirty-six times the position of the next digit, from one. -/
  k : Nat
  /-- The bias of the current number. -/
  bias : Nat
  /-- The label so far. -/
  label : List Char

/-- Inserts the character that a whole number stands for. -/
def Reader.insert? (r : Reader) : Option Reader :=
  let size := r.label.length + 1
  let code := r.next + r.sum / size
  let place := r.sum % size
  if code.isValidChar then
    some
      { next := code
        place := place + 1
        sum := place + 1
        weight := 1
        k := 36
        bias := adapt (r.sum - r.place) size (r.place == 0)
        label := r.label.insertIdx place (Char.ofNat code) }
  else none

/-- Reads digits to the end, which may not come inside a number. -/
def Reader.read (r : Reader) : List Char → Option (List Char)
  | [] => if r.weight = 1 then some r.label else none
  | c :: rest => do
    let d ← digitValue? c
    let t := threshold r.k r.bias
    let r := { r with sum := r.sum + d * r.weight }
    if d < t then (← r.insert?).read rest
    else Reader.read { r with weight := r.weight * (36 - t), k := r.k + 36 } rest

/-- The label that Punycode stands for. The last hyphen ends the characters of ASCII, where there
are any. -/
def decode? (code : List Char) : Option (List Char) :=
  let (basic, number) := match Text.cutLast? '-' code with
    | none => ([], code)
    | some (basic, number) => if basic.isEmpty then ([], code) else (basic, number)
  if Text.isAscii basic then Reader.read ⟨0x80, 0, 0, 1, 36, 72, basic⟩ number else none

end Punycode

end Blocklist
