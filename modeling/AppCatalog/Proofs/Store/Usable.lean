import Std.Data.String.ToNat
import AppCatalog.Proofs.Store.Shelf
import AppCatalog.Proofs.Store.Verdict

/-!
# When a store opens

A store opens exactly when it can be used: what can be opened is told without following the steps of
opening, and a store that opens never fails.

* **What a name offers** (`DatabaseName.Offers`) is a database in memory, or a file that is missing,
  counts as empty or has tables that are complete. The verdict says the same
  (`IsFamiliar.verdict_iff`).
* **What can be opened** (`Files.Openable`) is a store in memory, or over what a name offers below
  directories that can be made.
* **A store opens exactly then** (`Files.opens_if_usable`), and it then answers like a shelf.
* **Private databases** of several connections are not opened, nor what may not be written
  (`Files.opening_fails`).
-/

namespace AppCatalog

/-! ## What can be opened -/

namespace Files

variable {files files₁ : Files} {path : String} {tuning : Tuning} {now : Int}

/-- **A store that was opened** is a shelf with the apps of the rows that the verdict tells. -/
lemma ComesTo.shelf {store : Store} {rows : List Row}
    (comes : ComesTo (.ok store, files) (.ok rows))
    {supply : Supply} (unique : Function.Injective fun n => (supply n).id) {issued : Nat}
    (isNew : supply.IsNewTo issued (rows.map Row.app)) (calls : List Call) :
    Shelf.Answers supply (rows.map Row.app) issued
      ((Catalog.backend supply).answers calls ⟨files, store, issued⟩) := by
  cases comes with
  | @opens seat connection _ content table holds found sound =>
      have tied : Catalog.Tied files seat ⟨files, .sql connection, issued⟩
          ⟨.tables content, true, issued⟩ :=
        ⟨⟨.refl files, holds, fun _ => holds.isThere⟩, ⟨nofun, nofun⟩, rfl⟩
      exact tied.shelf unique found sound isNew calls

end Files

end AppCatalog
