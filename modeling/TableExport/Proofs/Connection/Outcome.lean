import TableExport.Failure
import TableExport.Proofs.Connection.Authority
import TableExport.Proofs.Connection.Config

/-!
What comes of an address: a database that can be reached for, a fault of the
options, or an authority that cannot be taken apart. The last is nobody's fault
in the program, though it is a fault of the options like the others; it comes
of every authority that is not sound, whatever stands around it.
-/

set_option autoImplicit false

namespace TableExport.Connection

open TableExport.Text
open TableExport.Sequence

def takeAuthority : List Char → List Char × List Char
  | '/' :: '/' :: rest =>
      (rest.takeWhile (!Address.isAuthorityEnd ·), rest.dropWhile (!Address.isAuthorityEnd ·))
  | rest => ([], rest)

def authorityIn (text : List Char) : List Char :=
  (takeAuthority (Address.takeScheme (Address.cleaned text)).2).1

def Config.IsUsable (config : Config) : Prop :=
  if config.databaseType = DatabaseKind.sqlite.name then
    ∃ path, config.database = some path ∧ path ≠ ""
  else
    (∃ host, config.host = some host ∧ host ≠ "") ∧
      ∃ port, config.port = some port ∧ 1 ≤ port ∧ port ≤ 65535

/-- An outcome that is a usable configuration or a fault of the options. -/
def Settles (outcome : Except ConnectionFault Config) : Prop :=
  (∃ config, outcome = .ok config ∧ config.IsUsable) ∨
    ∃ fault cause, outcome = .error fault ∧ Failure.ofConnection fault = .configuration cause

private theorem Settles.not_address {outcome : Except ConnectionFault Config}
    (settles : Settles outcome)
    (fault : AddressFault) : outcome ≠ .error (.address fault) := by
  rintro rfl
  obtain ⟨config, read, _⟩ | ⟨other, cause, same, configured⟩ := settles
  · cases read
  · cases same
    cases configured

private theorem Address.port_le {address : Address} {value : Nat}
    (read : address.port = .ok (some value)) : value ≤ 65535 := by
  unfold Address.port at read
  dsimp only at read
  split at read
  · cases read
  · split at read
    · split at read
      · cases read
      · split at read
        · rename_i small
          cases read
          exact small
        · cases read
    · cases read

private theorem DatabaseKind.defaultPort_inRange (kind : DatabaseKind) :
    1 ≤ kind.defaultPort ∧ kind.defaultPort ≤ 65535 := by
  cases kind <;> decide

private theorem Config.ofFileAddress_settles (url : String) (address : Address) :
    Settles (ofFileAddress url address) := by
  unfold ofFileAddress
  dsimp only
  split
  · exact .inr ⟨_, _, rfl, rfl⟩
  · rename_i filled
    refine .inl ⟨_, rfl, (if_pos rfl).mpr ⟨_, rfl, ?_⟩⟩
    rwa [String.isEmpty_iff] at filled

private theorem Config.ofServerAddress_settles {kind : DatabaseKind} (server : kind ≠ .sqlite)
    (url : String) (address : Address) (username password : Option (Given String)) :
    Settles (ofServerAddress kind url address username password) := by
  have named : kind.name ≠ DatabaseKind.sqlite.name := by
    cases kind with
    | sqlite => exact absurd rfl server
    | postgresql | greenplum | vertica => decide
  unfold ofServerAddress
  split
  · exact .inr ⟨_, _, rfl, rfl⟩
  · rename_i filled
    rw [String.isEmpty_iff] at filled
    cases read : address.port with
    | error fault => exact .inr ⟨_, _, rfl, rfl⟩
    | ok port =>
        refine .inl ⟨_, rfl, (if_neg named).mpr ⟨⟨_, rfl, filled⟩, _, rfl, ?_⟩⟩
        split
        · have default := kind.defaultPort_inRange
          omega
        · rename_i given
          cases port with
          | none => exact absurd rfl given
          | some value =>
              have small := Address.port_le read
              rw [Option.getD_some] at given ⊢
              omega

theorem split_eq (text : String) : ∃ scheme path, Address.split text =
    Address.checkAuthority (authorityIn text.toList) >>= fun _ =>
      pure ⟨scheme, authorityIn text.toList, path⟩ := by
  let taken := Address.takeScheme (Address.cleaned text.toList)
  exact ⟨taken.1, (cutAt '?' (cutAt '#' (takeAuthority taken.2).2).1).1, rfl⟩

private theorem split_ok_of_isSound {text : String} (sound : IsSound (authorityIn text.toList)) :
    ∃ address, Address.split text = .ok address := by
  obtain ⟨scheme, path, split⟩ := split_eq text
  rw [checkAuthority_ok_iff.mpr sound] at split
  exact ⟨_, split⟩

private theorem split_error_of_not_isSound {text : String}
    (unsound : ¬ IsSound (authorityIn text.toList)) :
    ∃ fault, Address.split text = .error fault := by
  obtain ⟨scheme, path, split⟩ := split_eq text
  cases checked : Address.checkAuthority (authorityIn text.toList) with
  | ok => exact absurd (checkAuthority_ok_iff.mp checked) unsound
  | error fault =>
      rw [checked] at split
      exact ⟨fault, split⟩

private theorem Config.ofUrl_of_filled {url : Option (Given String)} {text : String}
    (filled : url.bind Given.filled? = some text) (username password : Option (Given String)) :
    ofUrl url username password =
      (Address.split (withoutMark text)).mapError .address >>= fun address =>
        match DatabaseKind.ofScheme? address.scheme with
        | none => throw (.unsupported address.scheme)
        | some .sqlite => ofFileAddress (withoutMark text) address
        | some kind => ofServerAddress kind (withoutMark text) address username password := by
  unfold ofUrl
  generalize url.bind Given.filled? = found at filled ⊢
  subst filled
  rfl

private theorem Config.ofUrl_settles {url : Option (Given String)}
    (sound : ∀ text, url.bind Given.filled? = some text →
      IsSound (authorityIn (withoutMark text).toList))
    (username password : Option (Given String)) : Settles (ofUrl url username password) := by
  cases filled : url.bind Given.filled? with
  | none =>
      unfold ofUrl
      rw [filled]
      exact .inr ⟨_, _, rfl, rfl⟩
  | some text =>
      obtain ⟨address, split⟩ := split_ok_of_isSound (sound text filled)
      rw [ofUrl_of_filled filled, split, mapError_ok, ok_bind]
      cases DatabaseKind.ofScheme? address.scheme with
      | none => exact .inr ⟨_, _, rfl, rfl⟩
      | some kind =>
          cases kind with
          | sqlite => exact ofFileAddress_settles _ _
          | postgresql => exact ofServerAddress_settles (by decide) _ _ _ _
          | greenplum => exact ofServerAddress_settles (by decide) _ _ _ _
          | vertica => exact ofServerAddress_settles (by decide) _ _ _ _

private theorem Config.ofUrl_unsound {url : Option (Given String)} {text : String}
    (filled : url.bind Given.filled? = some text)
    (unsound : ¬ IsSound (authorityIn (withoutMark text).toList))
    (username password : Option (Given String)) :
    ∃ fault, ofUrl url username password = .error (.address fault) := by
  obtain ⟨fault, split⟩ := split_error_of_not_isSound unsound
  rw [ofUrl_of_filled filled, split]
  exact ⟨fault, rfl⟩

/-- An address gives a usable configuration or a fault of the options, or it has an authority that
is not sound; and it fails on its authority exactly then. -/
theorem Config.ofUrl_outcome (url username password : Option (Given String)) :
    (Settles (ofUrl url username password) ∨
      ∃ fault, ofUrl url username password = .error (.address fault)) ∧
    ((∃ fault, ofUrl url username password = .error (.address fault)) ↔
      ∃ text, url.bind Given.filled? = some text ∧
        ¬ IsSound (authorityIn (withoutMark text).toList)) := by
  by_cases strays : ∃ text, url.bind Given.filled? = some text ∧
      ¬ IsSound (authorityIn (withoutMark text).toList)
  · obtain ⟨text, filled, unsound⟩ := strays
    have fails := ofUrl_unsound filled unsound username password
    exact ⟨.inr fails, iff_of_true fails ⟨text, filled, unsound⟩⟩
  · have settles : Settles (ofUrl url username password) := by
      apply ofUrl_settles
      intro text filled
      apply Classical.byContradiction
      intro unsound
      exact strays ⟨text, filled, unsound⟩
    refine ⟨.inl settles, iff_of_false ?_ strays⟩
    rintro ⟨fault, fails⟩
    exact settles.not_address fault fails

/-- A bracket that is opened and not closed leads out of the program. -/
theorem Config.ofUrl_opened_bracket :
    ofUrl (some (.value "postgresql://[::1/db")) none none = .error (.address .brackets) ∧
      ¬ Settles (ofUrl (some (.value "postgresql://[::1/db")) none none) := by
  have fails : ofUrl (some (.value "postgresql://[::1/db")) none none =
      .error (.address .brackets) := rfl
  exact ⟨fails, fun settles => settles.not_address _ fails⟩

end TableExport.Connection
