/-!
# Snapshots — sections
-/

namespace Blocklist

/-- A part of a snapshot. -/
inductive Section where
  /-- The network filters. -/
  | networkFilters
  /-- The cosmetic filters. -/
  | cosmeticFilters
  /-- The index of filters that block. -/
  | blockIndex
  /-- The index of exceptions. -/
  | exceptionIndex
  /-- The index of filters that redirect. -/
  | redirectIndex
  /-- The index of filters that add policies. -/
  | cspIndex
  /-- The index of cosmetic filters by host. -/
  | hostIndex
  /-- The index of cosmetic filters for every host. -/
  | genericIndex
  deriving DecidableEq, Repr

namespace Section

/-- Every section, in the order of the file. -/
def all : List Section := [
  .networkFilters, .cosmeticFilters, .blockIndex, .exceptionIndex, .redirectIndex, .cspIndex,
  .hostIndex, .genericIndex]

/-- The number of a section in the directory. -/
def code : Section → UInt16
  | networkFilters => 1
  | cosmeticFilters => 2
  | blockIndex => 3
  | exceptionIndex => 4
  | redirectIndex => 5
  | cspIndex => 6
  | hostIndex => 7
  | genericIndex => 8

/-- The section with this number. -/
def ofCode? (code : UInt16) : Option Section := all.find? (·.code == code)

/-- The name of a section in messages. -/
def name : Section → String
  | networkFilters => "NetworkFilters"
  | cosmeticFilters => "CosmeticFilters"
  | blockIndex => "BlockIndex"
  | exceptionIndex => "ExceptionIndex"
  | redirectIndex => "RedirectIndex"
  | cspIndex => "CspIndex"
  | hostIndex => "CosmeticHostnameIndex"
  | genericIndex => "CosmeticGenericIndex"

theorem ofCode?_code (s : Section) : ofCode? s.code = some s := by
  cases s <;> rfl

/-- A number names at most one section. -/
theorem ofCode?_eq_some_iff {c : UInt16} {s : Section} : ofCode? c = some s ↔ s.code = c := by
  constructor
  · intro h
    simpa using List.find?_some h
  · rintro rfl
    exact ofCode?_code s

end Section

end Blocklist
