import RelProto.Proofs.Config
import RelProto.Proofs.Reading.Failures
import RelProto.Proofs.Servers.Failures

/-! A configuration that satisfies all rules suffices for what comes after them: connecting, reading
and leaving out columns. -/
namespace RelProto

open RelProto.Action

lemma DatabaseSettings.Valid.exists_port {settings : DatabaseSettings} (h : settings.Valid)
    (hserver : settings.provider ≠ some .sqlite) :
    ∃ port, settings.effectivePort = some port ∧ 1 ≤ port.toNat := by
  have hpositive : ∀ port : UInt16, port ≠ 0 → 1 ≤ port.toNat := by
    intro port hport
    rw [Nat.one_le_iff_ne_zero]
    rintro hzero
    exact hport (UInt16.toNat_inj.mp hzero)
  rcases hport : settings.port with _ | port
  · rcases hprovider : settings.provider with _ | _ | _ | _
    · exact absurd hprovider h.provider
    · exact ⟨5432, by simp [effectivePort, hprovider, hport, DatabaseKind.defaultPort?], by decide⟩
    · exact ⟨3306, by simp [effectivePort, hprovider, hport, DatabaseKind.defaultPort?], by decide⟩
    · contradiction
  · obtain ⟨provider, hprovider⟩ := Option.ne_none_iff_exists'.mp h.provider
    refine ⟨port, by simp [effectivePort, hprovider, hport], hpositive port ?_⟩
    rintro rfl
    exact h.port hserver hport

/-- A client of PostgreSQL tries the configured host, at the configured port. -/
lemma Postgresql.endpoints_ofDatabase {settings : DatabaseSettings} {port : UInt16}
    (hport : settings.effectivePort = some port) :
    (ConnectionSettings.ofDatabase settings).endpoints =
      .ok [ConnectionSettings.hostEndpoint port (.ofText settings.host)] := by
  simp [ConnectionSettings.endpoints, ConnectionSettings.ofDatabase, hport,
    ConnectionSettings.endpointAt, ConnectionSettings.portAt]

namespace Config

/-- Under a configuration that satisfies all rules, reading never refuses its arguments and
connecting fails only for want of a connection, never for want of a provider. A server is looked
for at a host that has a name and at a port that is not zero, for a user with a name. What is
excluded is excluded from a table that has a schema and a name. -/
theorem suffices_of_validate {config : Config} (h : config.validate = .ok ()) :
    (∀ {σ : Type} (catalog : Catalog σ), catalog.ListsNamed config.generator →
      catalog.FailsOnly (fun fault => fault.isA .invalidArguments = false) →
      ∀ world fault after,
        (catalog.readDatabase config.generator).outcome world = (.error fault, after) →
        fault.isA .invalidArguments = false) ∧
    (∀ {σ : Type} (servers : Servers σ) world fault after,
      (servers.connect config.database).outcome world = (.error fault, after) →
      fault.IsConnectionFailure ∧ fault ≠ .of (.adhoc "database.provider is required")) ∧
    (config.database.provider ≠ some .sqlite →
      let postgresql := Postgresql.ConnectionSettings.ofDatabase config.database
      let mysql := Mysql.ConnectionSettings.ofDatabase config.database
      config.database.host ≠ "" ∧ config.database.user ≠ "" ∧
      ∃ port, config.database.effectivePort = some port ∧ 1 ≤ port.toNat ∧
        postgresql.endpoints = .ok [Postgresql.ConnectionSettings.hostEndpoint port
          (.ofText config.database.host)] ∧
        postgresql.user = some config.database.user ∧
        mysql.endpoint = .port config.database.host port ∧
        mysql.login.user = config.database.user) ∧
    ∀ entry ∈ config.generator.excludedColumns, ∃ schema name, schema ≠ "" ∧ name ≠ "" ∧
      entry.isFor schema name = true ∧
      ∀ column ∈ entry.columns, config.generator.excludesColumn schema name column = true := by
  have hvalid := validate_eq_ok_iff.mp h
  refine ⟨?_, ?_, ?_, ?_⟩
  · intro σ catalog hlists hcatalog
    refine Catalog.failsOnly_readDatabase hvalid.generator.listed hvalid.generator.schemas hlists
      hcatalog (fun key => rfl) ?_
    intro step cause hcause
    rw [ReadStep.isA_report, hcause]
  · intro σ servers world fault after hfails
    obtain ⟨error, rfl⟩ :=
      servers.failsOnly_connect hvalid.database.provider world fault after hfails
    exact ⟨⟨error, rfl⟩, nofun⟩
  · intro hserver postgresql mysql
    obtain ⟨port, hport, hpositive⟩ := hvalid.database.exists_port hserver
    refine ⟨hvalid.database.host hserver, hvalid.database.user hserver, port, hport, hpositive,
      Postgresql.endpoints_ofDatabase hport, rfl, ?_, rfl⟩
    simp [mysql, Mysql.ConnectionSettings.ofDatabase, hport]
  · intro entry hentry
    obtain ⟨schema, name, hschema, hname, hfor⟩ :=
      (hvalid.generator.excludedColumns entry hentry).exists_isFor
    refine ⟨schema, name, hschema, hname, hfor, ?_⟩
    intro column hcolumn
    rw [GeneratorSettings.excludesColumn, List.any_eq_true]
    exact ⟨entry, hentry, by simpa [hfor] using hcolumn⟩

/-- Parts on a server, which are read without their notes. -/
def partsOnServer : Config where
  database :=
    { provider := some .postgresql, host := "localhost", database := "store", user := "reader" }
  generator := Catalog.noNotes

theorem suffices_partsOnServer :
    (∃ fault after, (Catalog.partsWithoutKeys.catalog.readDatabase Catalog.noNotes).outcome () =
      (.error fault, after) ∧ fault.isA .invalidArguments = false) ∧
    (∃ fault after, ((Servers.unreachable .withoutFiles "root").connect partsOnServer.database).outcome
        (.empty, .start ()) = (.error fault, after) ∧ fault.IsConnectionFailure) ∧
    (∃ port, partsOnServer.database.effectivePort = some port ∧ 1 ≤ port.toNat) ∧
    ∃ schema name, schema ≠ "" ∧ name ≠ "" ∧
      partsOnServer.generator.excludesColumn schema name "note" = true := by
  obtain ⟨hreads, hconnects, hserver, hexcludes⟩ :=
    suffices_of_validate (show partsOnServer.validate = .ok () by decide +kernel)
  refine ⟨?_, ?_, ?_, ?_⟩
  · have hlists : Catalog.partsWithoutKeys.catalog.ListsNamed Catalog.noNotes := by
      apply CatalogScript.listsNamed
      intro schema name hname
      obtain ⟨table, htable, rfl⟩ := List.mem_map.mp hname
      have hknown := List.mem_of_mem_filter htable
      simp only [List.mem_cons, List.not_mem_nil, or_false] at hknown
      rcases hknown with rfl | rfl <;> decide
    have hcatalog : Catalog.partsWithoutKeys.catalog.FailsOnly
        fun fault => fault.isA .invalidArguments = false := by
      apply CatalogScript.failsOnly
      intro query fault hfailure
      simp only [Catalog.partsWithoutKeys, Option.ite_none_right_eq_some] at hfailure
      obtain ⟨_, ⟨⟩⟩ := hfailure
      decide
    have hfails : (Catalog.partsWithoutKeys.catalog.readDatabase Catalog.noNotes).outcome () =
        (.error _, ()) := Catalog.outcome_of_walk Catalog.walk_partsWithoutKeys
    exact ⟨_, _, hfails, hreads _ hlists hcatalog _ _ _ hfails⟩
  · have hfails : ((Servers.unreachable .withoutFiles "root").connect partsOnServer.database).outcome
        ((.empty, .start ()) : Outside Unit) = (.error _, _) := rfl
    exact ⟨_, _, hfails, (hconnects _ _ _ _ hfails).1⟩
  · obtain ⟨_, _, port, hport, hpositive, _⟩ := hserver (by decide)
    exact ⟨port, hport, hpositive⟩
  · obtain ⟨schema, name, hschema, hname, _, hcolumns⟩ :=
      hexcludes ⟨"shop.part", ["note"]⟩ (by decide)
    exact ⟨schema, name, hschema, hname, hcolumns "note" (by decide)⟩

end Config

end RelProto
