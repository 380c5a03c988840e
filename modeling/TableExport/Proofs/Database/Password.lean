import TableExport.Proofs.Sequence.Agreement
import TableExport.Proofs.Session.Agreement

/-!
What a password that is given does to a connection: it is handed to the server
and nothing else. Configurations that differ in it are reached with the same
success, and what is asked of the server differs in it alone.
-/

set_option autoImplicit false

namespace TableExport

open TableExport.Connection
open TableExport.Database
open TableExport.Sequence

namespace Connection.Config

def withoutPassword (config : Config) : Config :=
  { config with password := none }

def SameButPassword (left right : Config) : Prop :=
  left.withoutPassword = right.withoutPassword

theorem SameButPassword.refl (config : Config) : config.SameButPassword config := rfl

private theorem ofServerAddress_password (kind : DatabaseKind) (url : String) (address : Address)
    (username : Option (Given String)) (first second : Given String) :
    AlikeOutcomes SameButPassword (ofServerAddress kind url address username (some first))
      (ofServerAddress kind url address username (some second)) := by
  unfold ofServerAddress
  by_cases hostless : address.host.isEmpty = true
  · rw [if_pos hostless, if_pos hostless]
    exact .error _
  · rw [if_neg hostless, if_neg hostless]
    cases address.port with
    | error fault => exact .error _
    | ok port => exact .ok rfl

theorem ofUrl_password (url username : Option (Given String)) (first second : Given String) :
    AlikeOutcomes SameButPassword (ofUrl url username (some first))
      (ofUrl url username (some second)) := by
  unfold ofUrl
  cases url.bind Given.filled? with
  | none => exact .error _
  | some given =>
      dsimp only
      cases (Address.split (withoutMark given)).mapError ConnectionFault.address with
      | error fault => exact .error fault
      | ok address =>
          simp only [ok_bind]
          cases DatabaseKind.ofScheme? address.scheme with
          | none => exact .error _
          | some kind =>
              cases kind with
              | sqlite => exact alikeOutcomes_refl (fun _ => .refl _) (ofFileAddress _ _)
              | postgresql => exact ofServerAddress_password _ _ _ _ _ _
              | greenplum => exact ofServerAddress_password _ _ _ _ _ _
              | vertica => exact ofServerAddress_password _ _ _ _ _ _

end Connection.Config

def Database.Target.withoutPassword : Target → Target
  | .server kind host port database username _ timeout =>
      .server kind host port database username none timeout
  | .file database => .file database

def Database.Target.SameButPassword (left right : Target) : Prop :=
  left.withoutPassword = right.withoutPassword

private theorem Database.Target.ofConfig_password (kind : DatabaseKind) {first second : Config}
    (same : first.SameButPassword second) :
    (ofConfig kind first).SameButPassword (ofConfig kind second) := by
  have commutes (config : Config) : (ofConfig kind config).withoutPassword =
      (ofConfig kind config.withoutPassword).withoutPassword := by
    cases kind with
    | postgresql => rfl
    | greenplum => rfl
    | vertica => rfl
    | sqlite => rfl
  unfold SameButPassword
  rw [commutes first, commutes second, same]

theorem Connection.Config.SameButPassword.alike {first second : Config}
    (same : first.SameButPassword second) : first.Alike Target.SameButPassword second := by
  have typeSame : first.databaseType = second.databaseType := (Config.mk.inj same).1
  have databaseSame : first.database = second.database :=
    (Config.mk.inj same).2.2.2.2.2.1
  refine ⟨databaseSame, fun behaviour number => ?_⟩
  unfold attempt
  rw [typeSame, databaseSame]
  cases DatabaseKind.ofName? second.databaseType with
  | none => exact .unsupported _
  | some kind =>
      have targets := Target.ofConfig_password kind same
      cases behaviour.openingRefusal number with
      | some reason => exact .refused targets _
      | none =>
          dsimp only
          by_cases null : behaviour.connectsNull = true
          · rw [if_pos null, if_pos null]
            exact .absent kind targets
          · rw [if_neg null, if_neg null]
            exact .ready kind targets

end TableExport
