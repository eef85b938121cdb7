import Gameshelf.Catalog.Holder
import Gameshelf.Library.Scan

/-!
The scanner keeps a holder up to date. Each refresh scans the library; it never fails itself, since a
scan that fails only marks the catalog as stale.
-/

namespace Gameshelf

/-- A scanner of a library and the holder it refreshes. -/
structure Scanner where
  root : Path
  /-- The seconds between two refreshes. -/
  interval : Int
  holder : Holder
  running : Bool

namespace Scanner

/-- A scanner that is not running. The interval is at least a second. -/
def idle (root : Path) (interval : Int) (holder : Holder) : Scanner :=
  ⟨root, max 1 interval, holder, false⟩

/-- What the holder is told of a scan that failed. -/
def reason : Failure ScanError → String
  | .reported error => error.message
  | .crash crash => s!"unexpected error: {crash.message}"

/-- Takes in the outcome of a scan, and tells whether there is a new catalog. -/
def settle (holder : Holder) (now : Nat) :
    Except (Failure ScanError) (List ContentFile) → Bool × Holder
  | .ok files => (true, holder.replace (Catalog.ofFiles files) now)
  | .error failure => (false, holder.markStale (reason failure))

/-- Scans the library once, and tells whether there is a new catalog. -/
def refresh (scanner : Scanner) (disk : Disk) (conditions : ScanConditions) (now : Nat) : Bool × Scanner :=
  let (swapped, holder) := settle scanner.holder now (Library.scan disk conditions scanner.root)
  (swapped, { scanner with holder })

def start (scanner : Scanner) : Scanner :=
  { scanner with running := true }

def stop (scanner : Scanner) : Scanner :=
  { scanner with running := false }

end Scanner

end Gameshelf
