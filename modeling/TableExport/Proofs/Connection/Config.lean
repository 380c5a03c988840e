import TableExport.Connection.Config
import TableExport.Proofs.Sequence

/-!
What is read from an address. Whatever configuration comes of one, its database
is of a kind that is known by its name.
-/

set_option autoImplicit false

namespace TableExport.Connection

open TableExport.Sequence

private theorem DatabaseKind.ofName?_name (kind : DatabaseKind) :
    ofName? kind.name = some kind := by
  cases kind <;> decide

private theorem Config.ofServerAddress_databaseType {kind : DatabaseKind} {url : String}
    {address : Address} {username password : Option (Given String)} {config : Config}
    (read : ofServerAddress kind url address username password = .ok config) :
    config.databaseType = kind.name := by
  unfold ofServerAddress at read
  split at read
  · cases read
  · split at read
    · cases read
    · cases read
      rfl

private theorem Config.ofFileAddress_databaseType {url : String} {address : Address}
    {config : Config}
    (read : ofFileAddress url address = .ok config) :
    config.databaseType = DatabaseKind.sqlite.name := by
  unfold ofFileAddress at read
  dsimp only at read
  split at read
  · cases read
  · cases read
    rfl

theorem Config.ofUrl_databaseType {url : Option (Given String)}
    {username password : Option (Given String)} {config : Config}
    (read : ofUrl url username password = .ok config) :
    DatabaseKind.ofName? config.databaseType ≠ none := by
  have known {kind : DatabaseKind} (named : config.databaseType = kind.name) :
      DatabaseKind.ofName? config.databaseType ≠ none := by
    rw [named, DatabaseKind.ofName?_name]
    exact Option.some_ne_none kind
  unfold ofUrl at read
  split at read
  · cases read
  · rw [bind_ok_iff] at read
    obtain ⟨address, _, chosen⟩ := read
    split at chosen
    · cases chosen
    · exact known (ofFileAddress_databaseType chosen)
    · exact known (ofServerAddress_databaseType chosen)

end TableExport.Connection
