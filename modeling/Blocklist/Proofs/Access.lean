import Mathlib.Data.List.Basic
import Blocklist.LittleEndian
/-!
# Accesses by place

What is taken of bytes stays where it is, and every access names the places
that it takes. An access beyond bounds is a fault (`Fault`), which nothing
recovers from, unlike an error. Accesses within bounds do not fault
(`Access.slice_of_le` and the like).
-/

namespace Blocklist

/-! ## Faults -/

/-- What is done beyond bounds. -/
inductive Fault where
  /-- A byte is read that is not there. -/
  | read (place length : Nat)
  /-- A slice is taken that is not there. -/
  | slice (start stop length : Nat)
  /-- More is subtracted than there is. -/
  | subtraction (minuend subtrahend : Nat)
  /-- A sixth byte is read of one number. -/
  | sixthByte
  deriving DecidableEq, Repr

namespace Access

/-- The byte at a place. -/
def byteAt (place : Nat) (bytes : List UInt8) : Except Fault UInt8 :=
  match bytes[place]? with
  | some b => .ok b
  | none => .error (.read place bytes.length)

/-- The bytes from one place up to another. -/
def slice (start stop : Nat) (bytes : List UInt8) : Except Fault (List UInt8) :=
  if start ≤ stop ∧ stop ≤ bytes.length then .ok ((bytes.drop start).take (stop - start))
  else .error (.slice start stop bytes.length)

/-- A difference. -/
def sub (n k : Nat) : Except Fault Nat :=
  if k ≤ n then .ok (n - k) else .error (.subtraction n k)

/-- The number in two bytes. -/
def halfAt (place : Nat) (bytes : List UInt8) : Except Fault UInt16 :=
  return LittleEndian.half (← byteAt place bytes) (← byteAt (place + 1) bytes)

/-- The number in four bytes. -/
def wordAt (place : Nat) (bytes : List UInt8) : Except Fault UInt32 :=
  return LittleEndian.word (← byteAt place bytes) (← byteAt (place + 1) bytes)
    (← byteAt (place + 2) bytes) (← byteAt (place + 3) bytes)

/-! ## Accesses within bounds -/

variable {place start stop n k : Nat} {bytes : List UInt8}

/-- A byte that is there is read. -/
theorem byteAt_of_lt (h : place < bytes.length) : byteAt place bytes = .ok bytes[place] := by
  rw [byteAt, List.getElem?_eq_getElem h]

theorem slice_of_le (hle : start ≤ stop) (hstop : stop ≤ bytes.length) :
    slice start stop bytes = .ok ((bytes.drop start).take (stop - start)) := by
  rw [slice, if_pos ⟨hle, hstop⟩]

theorem sub_of_le (h : k ≤ n) : sub n k = .ok (n - k) := by
  rw [sub, if_pos h]

theorem halfAt_of_le (h : place + 2 ≤ bytes.length) :
    halfAt place bytes = .ok (LittleEndian.halfAt place bytes) := by
  have hdrop : bytes.drop place
      = bytes[place] :: bytes[place + 1] :: bytes.drop (place + 2) := by
    rw [List.drop_eq_getElem_cons (by omega), List.drop_eq_getElem_cons (by omega)]
  rw [halfAt, byteAt_of_lt (by omega), byteAt_of_lt (by omega), LittleEndian.halfAt, hdrop]
  rfl

theorem wordAt_of_le (h : place + 4 ≤ bytes.length) :
    wordAt place bytes = .ok (LittleEndian.wordAt place bytes) := by
  have hdrop : bytes.drop place = bytes[place] :: bytes[place + 1] :: bytes[place + 2]
      :: bytes[place + 3] :: bytes.drop (place + 4) := by
    rw [List.drop_eq_getElem_cons (by omega), List.drop_eq_getElem_cons (by omega),
      List.drop_eq_getElem_cons (by omega), List.drop_eq_getElem_cons (by omega)]
  rw [wordAt, byteAt_of_lt (by omega), byteAt_of_lt (by omega), byteAt_of_lt (by omega),
    byteAt_of_lt (by omega), LittleEndian.wordAt, hdrop]
  rfl

end Access

/-! ## Errors and faults -/

/-- Where there is a value, it is gone on with. -/
@[simp] theorem ok_bind {ε α β : Type} (a : α) (next : α → Except ε β) :
    (Except.ok a : Except ε α) >>= next = next a := rfl

section Lists

variable {ε α β : Type} {list : List α} {f : α → Except ε β}

/-- Where all have values, there is a function that gives them. -/
theorem exists_map_of_map_eq_map_ok [Inhabited β] {values : List β}
    (h : list.map f = values.map .ok) :
    ∃ g, (∀ a ∈ list, f a = .ok (g a)) ∧ values = list.map g := by
  refine ⟨fun a => (f a).toOption.getD default, fun a ha => ?_, ?_⟩
  · obtain ⟨value, -, hvalue⟩ := List.mem_map.mp (h ▸ List.mem_map_of_mem ha)
    dsimp only
    rw [← hvalue]
    rfl
  · have hvalues := congrArg (List.map fun r => r.toOption.getD default) h
    rw [List.map_map, List.map_map] at hvalues
    exact (List.map_id values).symm.trans hvalues.symm

theorem mapM_eq_ok {g : α → β} (h : ∀ a ∈ list, f a = .ok (g a)) :
    list.mapM f = .ok (list.map g) := by
  induction list with
  | nil => rfl
  | cons a list ih =>
    obtain ⟨ha, hlist⟩ := List.forall_mem_cons.mp h
    rw [List.mapM_cons, ha, ih hlist]
    rfl

end Lists

/-- What gives a value or an error, unless it faults. -/
abbrev Guarded (ε : Type) := ExceptT ε (Except Fault)

namespace Guarded

variable {ε α β : Type}

/-- A result that no fault is behind. -/
def ofExcept (result : Except ε α) : Guarded ε α := ExceptT.mk (.ok result)

theorem ofExcept_bind (first : Except ε α) (next : α → Except ε β) :
    ofExcept (first >>= next) = ofExcept first >>= fun a => ofExcept (next a) := by
  cases first <;> rfl

/-- What is done within bounds goes on with its value. -/
@[simp] theorem liftM_ok_bind (a : α) (next : α → Guarded ε β) :
    (liftM (Except.ok a : Except Fault α) : Guarded ε α) >>= next = next a := rfl

/-- A check is the same for both. -/
theorem guard_eq_ofExcept {c : Prop} [Decidable c] {e : ε} {failed : PUnit → Guarded ε α}
    {failed' : PUnit → Except ε α} {next : Guarded ε α} {next' : Except ε α}
    (h : ¬ c → next = ofExcept next') :
    (if c then throw e >>= failed else next)
      = ofExcept (if c then throw e >>= failed' else next') := by
  split
  · rfl
  · next hc => exact h hc

theorem mapM_eq_ofExcept {list : List α} {f : α → Guarded ε β} {g : α → Except ε β}
    (h : ∀ a ∈ list, f a = ofExcept (g a)) : list.mapM f = ofExcept (list.mapM g) := by
  induction list with
  | nil => rfl
  | cons a list ih =>
    obtain ⟨ha, hlist⟩ := List.forall_mem_cons.mp h
    simp only [List.mapM_cons, ha, ih hlist, ofExcept_bind]
    rfl

end Guarded

end Blocklist
