import Gameshelf.Access.Users
import Gameshelf.Disk.Resolution
import Gameshelf.Library.Scanner
import Gameshelf.Server.RateLimit
import Gameshelf.Settings.Sources
import Gameshelf.Titles.Directory

/-!
A shop that is open: the state that requests are answered from. Opening one checks the settings, scans
the library and loads the users; only then does it take the place of the shop that was open before.
-/

namespace Gameshelf.Server

/-- The state of an open shop. -/
structure Shop where
  settings : Settings
  scanner : Scanner
  users : Users
  titles : Titles.Directory
  limit : RateLimit

/-- Why a shop does not open. -/
inductive OpeningError where
  | config (error : ConfigError)
  | users (error : Users.FileError)
  | scan (error : ScanError)
deriving DecidableEq, Repr

namespace OpeningError

def message : OpeningError → String
  | .config error => error.message
  | .users error => error.message
  | .scan error => error.message

end OpeningError

/-- A step whose errors are errors of a larger operation. -/
def within {ε δ α : Type} (embed : ε → δ) : Except (Failure ε) α → Except (Failure δ) α
  | .ok a => .ok a
  | .error (.reported error) => .error (.reported (embed error))
  | .error (.crash crash) => .error (.crash crash)

/-- What the server does while it opens a shop. It may fail, and it may put a shop in the place of the one
that is open, if any; what it has put there when it fails stays there. -/
abbrev Operation := ExceptT (Failure OpeningError) (StateM (Option Shop))

/-- A step that leaves the open shop alone. -/
def attempt {α : Type} (result : Except (Failure OpeningError) α) : Operation α :=
  ExceptT.mk (pure result)

namespace Shop

def root (shop : Shop) : Path :=
  shop.scanner.root

def catalog (shop : Shop) : Catalog :=
  shop.scanner.holder.catalog

/-- Opens a shop in the place of the one that is open, if any. Without a check of the settings the library
may lie anywhere. -/
def install [Stack] (disk : Disk) (settings : Settings) (check : Bool) : Operation Shop := do
  if check then attempt (within .config (settings.check disk))
  let root ← attempt (orCrash (disk.resolve settings.libraryRoot))
  let files ← attempt (within .scan (Library.scan disk .none root))
  let usersFile := if settings.publicShop then none else settings.authFile
  let users ← attempt (within .users (Users.load disk usersFile))
  let limit ← attempt (orCrash (RateLimit.ofRate settings.ratePerSecond settings.rateBurst))
  let shop : Shop := {
    settings, users, limit
    scanner := .idle root settings.scanInterval (.initial (Catalog.ofFiles files))
    titles := .initial settings.titles settings.dataDirectory }
  set (some shop)
  return shop

/-- Opens a shop where none is open. -/
def configure [Stack] (disk : Disk) (settings : Settings) (check : Bool) : Except (Failure OpeningError) Shop :=
  ((install disk settings check).run.run none).1

end Shop

end Gameshelf.Server
