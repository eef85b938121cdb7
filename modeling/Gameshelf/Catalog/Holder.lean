import Gameshelf.Catalog.Basic

/-!
The holder of the current catalog. A complete scan replaces the catalog and counts as a new
generation; a scan that fails leaves it in place and marks it stale.
-/

namespace Gameshelf

/-- The current catalog and how it came about. -/
structure Holder where
  catalog : Catalog
  /-- The number of times the catalog was replaced. -/
  generation : Nat
  /-- When the catalog was replaced last. -/
  refreshedAt : Option Nat
  /-- Did the last scan fail? -/
  stale : Bool
  lastError : Option String
deriving DecidableEq

namespace Holder

/-- A holder whose catalog was never replaced. -/
def initial (catalog : Catalog) : Holder :=
  ⟨catalog, 0, none, false, none⟩

/-- Takes in a new catalog at a moment. -/
def replace (holder : Holder) (catalog : Catalog) (now : Nat) : Holder :=
  ⟨catalog, holder.generation + 1, some now, false, none⟩

/-- Keeps the catalog after a scan that failed. -/
def markStale (holder : Holder) (error : String) : Holder :=
  { holder with stale := true, lastError := some error }

/-- The catalog as a reader is given it. -/
def snapshot (holder : Holder) : Catalog :=
  holder.catalog

/-- What a reader is told of a holder. -/
structure Status where
  /-- The number of files of the catalog. -/
  files : Nat
  generation : Nat
  refreshedAt : Option Nat
  stale : Bool
  lastError : Option String
deriving DecidableEq

def status (holder : Holder) : Status :=
  ⟨holder.catalog.size, holder.generation, holder.refreshedAt, holder.stale, holder.lastError⟩

end Holder

end Gameshelf
