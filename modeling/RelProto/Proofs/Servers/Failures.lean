import RelProto.Proofs.Except
import RelProto.Proofs.Servers

/-! What connecting to a database can fail with: once a provider is configured, there is no
connection. -/
namespace RelProto

open RelProto.Action

variable {σ τ α Failure Answer : Type} {P : Fault → Prop}

/-- There is no connection. -/
def Fault.IsConnectionFailure (fault : Fault) : Prop :=
  ∃ error, fault = .of (.connectionFailure error)

namespace Action.FailsOnly

lemma onSecond {action : Action σ α} (h : FailsOnly P action) :
    FailsOnly P (action.onSecond (τ := τ)) := by
  intro world fault after hfails
  rw [outcome_onSecond] at hfails
  obtain ⟨hresult, rfl⟩ := Prod.mk.inj hfails
  exact h world.2 fault _ (Prod.ext hresult rfl)

lemma onFirst {action : Action τ α} (h : FailsOnly P action) :
    FailsOnly P (action.onFirst (τ := σ)) := by
  intro world fault after hfails
  rw [outcome_onFirst] at hfails
  obtain ⟨hresult, rfl⟩ := Prod.mk.inj hfails
  exact h world.1 fault _ (Prod.ext hresult rfl)

lemma info_bind {message : String} {next : Unit → Action σ α} (h : FailsOnly P (next ())) :
    FailsOnly P (info message >>= next) := by
  intro world fault after hfails
  rw [outcome_info_bind] at hfails
  exact h world fault after hfails

end Action.FailsOnly

namespace Client

variable (client : Client Failure Answer σ)

lemma failsOnly_ready : FailsOnly Fault.IsConnectionFailure client.ready := by
  intro session fault after hfails
  rw [outcome, ready] at hfails
  by_cases hconnected : session.connected
  · rw [if_pos hconnected] at hfails
    cases hfails
  · rw [if_neg hconnected] at hfails
    rcases hconnect : client.connect session.world with ⟨failure | _, world⟩
    · rw [hconnect] at hfails
      cases hfails
      exact ⟨_, rfl⟩
    · rw [hconnect] at hfails
      cases hfails

lemma failsOnly_exchange (kind : Foreign → Fault.Kind) (use : Exchange Failure σ α) :
    FailsOnly (fun fault => ∃ error, fault = .of (kind error)) (client.exchange kind use) := by
  intro session fault after hfails
  rw [outcome, exchange] at hfails
  rcases huse : use session.world with ⟨failure | a, world⟩
  · simp only [huse] at hfails
    split at hfails <;> cases hfails <;> exact ⟨_, rfl⟩
  · rw [huse] at hfails
    cases hfails

lemma failsOnly_ping : FailsOnly Fault.IsConnectionFailure client.ping := by
  refine client.failsOnly_ready.bind fun _ => ?_
  exact (client.failsOnly_exchange .connectionFailure _).bind fun _ => .pure ()

end Client

namespace Sqlite

/-- Whatever SQLite reports when a database is opened, there is no connection. -/
lemma failsOnly_openDatabase (engine : Engine) (name : String) :
    FailsOnly Fault.IsConnectionFailure (engine.openDatabase name) := by
  intro tree fault after hfails
  have hresult := congrArg Prod.fst hfails
  obtain ⟨foreign, _, rfl⟩ := mapError_eq_error_iff.mp hresult
  exact ⟨foreign, rfl⟩

lemma Connection.isConnectionFailure_of_ping {connection : Connection} {fault : Fault}
    (h : connection.ping = .error fault) : fault.IsConnectionFailure := by
  obtain ⟨foreign, _, rfl⟩ := mapError_eq_error_iff.mp h
  exact ⟨foreign, rfl⟩

lemma failsOnly_connect (engine : Engine) (settings : DatabaseSettings) :
    FailsOnly Fault.IsConnectionFailure (connect engine settings) := by
  refine FailsOnly.info_bind ((failsOnly_openDatabase engine _).bind fun connection => ?_)
  refine FailsOnly.bind ?_ fun _ => .pure _
  exact .ofExcept fun fault hfails => Connection.isConnectionFailure_of_ping hfails

end Sqlite

/-- With a provider, connecting fails only for want of a connection. -/
theorem Servers.failsOnly_connect (servers : Servers σ) {settings : DatabaseSettings}
    (hprovider : settings.provider ≠ none) :
    FailsOnly Fault.IsConnectionFailure (servers.connect settings) := by
  rcases hkind : settings.provider with _ | _ | _ | _
  · contradiction
  · simp only [connect, hkind]
    refine (FailsOnly.info_bind ?_).onSecond.bind_pure _
    exact (Client.failsOnly_ping _).bind_pure _
  · simp only [connect, hkind]
    refine (FailsOnly.info_bind ?_).onSecond.bind_pure _
    exact (Client.failsOnly_ping _).bind_pure _
  · simp only [connect, hkind]
    exact (Sqlite.failsOnly_connect servers.sqlite settings).onFirst.bind_pure _

end RelProto
