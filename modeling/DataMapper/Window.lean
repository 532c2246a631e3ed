import DataMapper.Decimal

/-! # Row windows

A window shows at most a given number of rows after a given number of others.
-/
namespace DataMapper

structure Window where
  offset : UInt64
  count : UInt64
deriving DecidableEq

namespace Window

def first : Window :=
  ⟨0, 1⟩

/-- Page number `page`, counted from 0. An offset above the 64-bit range stays at its end. -/
def ofPage (page size : UInt64) : Window :=
  ⟨UInt64.ofNat (min (page.toNat * size.toNat) (UInt64.size - 1)), size⟩

def sql (w : Window) : String :=
  "LIMIT " ++ Decimal.ofNat w.offset.toNat ++ "," ++ Decimal.ofNat w.count.toNat

/-- The rows that a window shows of a list. -/
def rows (w : Window) (all : List α) : List α :=
  (all.drop w.offset.toNat).take w.count.toNat

end Window

end DataMapper
