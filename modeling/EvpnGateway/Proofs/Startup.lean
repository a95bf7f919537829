import EvpnGateway.Proofs.TenantBridge
import EvpnGateway.Startup.Launch
/-!
# What a launch puts in force

The configuration takes a long way: it is read from a file, filled up with defaults, checked,
overridden by the arguments and checked again, and then it is used twice. What counts in the end is
what the arguments say, else what the file says, and else the default.

* `Config.Valid`: what the checks ask for;
* `Config.written`, `FileContent.written?`: what a file says of itself, without defaults;
  `ofEntries_eq`: a configuration that is read is what the file says over the defaults;
* `effective`: the configuration that should be in force; **`prepare_eq_ok_iff`**: it is, if it and
  that of the file are valid;
* **`launch_validated`**.
-/

namespace EvpnGateway

/-! ## Checks -/

namespace Config

/-- There is an AS number, and the tenant bridge has a name that an interface can have. -/
structure Valid (config : Config) : Prop where
  localAs : 0 < config.settings.localAs
  nonempty : config.settings.tenantBridge ≠ ""
  short : Utf8.size config.settings.tenantBridge ≤ 15
  noSlash : '/' ∉ config.settings.tenantBridge.toList
  noBlank : ' ' ∉ config.settings.tenantBridge.toList

theorem isInterfaceName_iff {name : String} : isInterfaceName name ↔
    name ≠ "" ∧ Utf8.size name ≤ 15 ∧ '/' ∉ name.toList ∧ ' ' ∉ name.toList := by
  have hchars : (!name.toList.any fun c => c = '/' || c = ' ') = true ↔
      '/' ∉ name.toList ∧ ' ' ∉ name.toList := by
    simp only [Bool.not_eq_true', List.any_eq_false, Bool.or_eq_true, decide_eq_true_eq, not_or]
    exact ⟨fun h => ⟨fun hmem => (h _ hmem).1 rfl, fun hmem => (h _ hmem).2 rfl⟩,
      fun h c hmem => ⟨fun hc => h.1 (hc ▸ hmem), fun hc => h.2 (hc ▸ hmem)⟩⟩
  simp only [isInterfaceName, Bool.and_eq_true, hchars, decide_eq_true_eq, and_assoc]
  refine and_congr ?_ Iff.rfl
  simp

theorem check_eq_ok_iff {config : Config} : config.check = .ok () ↔ config.Valid := by
  have hlocalAs : config.settings.localAs ≠ 0 ↔ 0 < config.settings.localAs :=
    UInt32.pos_iff_ne_zero.symm
  unfold check
  split_ifs with hzero hname
  · exact ⟨nofun, fun h => absurd hzero (hlocalAs.mpr h.localAs)⟩
  · obtain ⟨hnonempty, hshort, hslash, hblank⟩ := isInterfaceName_iff.mp hname
    exact ⟨fun _ => ⟨hlocalAs.mp hzero, hnonempty, hshort, hslash, hblank⟩, fun _ => rfl⟩
  · exact ⟨nofun, fun h => absurd (isInterfaceName_iff.mpr
      ⟨h.nonempty, h.short, h.noSlash, h.noBlank⟩) hname⟩

/-! ## What a file says -/

open Toml (Entries Value)

/-- What a field is given, if anything. -/
def given {α : Type} (title : String) (value : Value) (name : String) (position : Nat)
    (wanted : String) (read : Value → Option α) : Except Toml.Fault (Option α) :=
  field title value name position wanted none fun value => (read value).map some

theorem field_eq_given {α : Type} (title : String) (value : Value) (name : String) (position : Nat)
    (wanted : String) (absent : α) (read : Value → Option α) :
    field title value name position wanted absent read =
      (·.getD absent) <$> given title value name position wanted read := by
  unfold given field
  rcases member? title value name position with fault | _ | found
  · rfl
  · rfl
  · dsimp only [bind, Except.bind]
    cases read found <;> rfl

/-- What the entries of a document say, in the form of arguments. -/
def written (entries : Entries) : Except Toml.Fault Overrides := do
  let server := sectionOf entries "server"
  let listen ← given "server" server "listen_addr" 0 "socket address" fun value =>
    (text? value).bind SocketAddress.parse?
  let evpn := sectionOf entries "evpn"
  let localAs ← given "evpn" evpn "local_as" 0 "number of 32 bits" word?
  let tenantBridge ← given "evpn" evpn "tenant_bridge" 1 "string" text?
  let vtepIp ← given "evpn" evpn "vtep_ip" 2 "IP address" fun value =>
    (text? value).bind IpAddress.parse?
  let logging := sectionOf entries "logging"
  let logLevel ← given "logging" logging "level" 0 "string" text?
  let logJson ← given "logging" logging "json" 1 "boolean" flag?
  return { listen, localAs, tenantBridge, vtepIp, logLevel, logJson := logJson.getD false }

theorem ofEntries_eq (entries : Entries) :
    ofEntries entries = (·.apply {}) <$> written entries := by
  have hvtepIp : field "evpn" (sectionOf entries "evpn") "vtep_ip" 2 "IP address" none
      (fun value => ((text? value).bind IpAddress.parse?).map some) =
      given "evpn" (sectionOf entries "evpn") "vtep_ip" 2 "IP address" fun value =>
        (text? value).bind IpAddress.parse? := rfl
  unfold ofEntries written
  dsimp only
  rw [hvtepIp]
  simp only [field_eq_given, bind_map_left, map_bind, map_pure, Overrides.apply,
    Option.orElse_eq_orElse, Option.orElse_eq_or, Option.or_none, Bool.false_or]

theorem valid_default : Valid {} := check_eq_ok_iff.mp (by decide)

end Config

/-- What a file says; none if it cannot be read. A file that is not there says nothing. -/
def FileContent.written? : FileContent → Option Overrides
  | absent => some {}
  | directory => none
  | bytes content => (Utf8.decode? content).bind fun source =>
    ((Toml.parse source).bind Config.written).toOption

theorem Config.parse_eq_ok_iff {source : String} {config : Config} :
    parse source = .ok config ↔ ∃ said, ((Toml.parse source).bind written).toOption = some said ∧
      said.apply {} = config ∧ config.Valid := by
  have hentries : (Toml.parse source).bind ofEntries =
      (·.apply {}) <$> (Toml.parse source).bind written := by
    cases Toml.parse source with
    | error fault => rfl
    | ok entries => exact ofEntries_eq entries
  unfold parse
  rw [hentries]
  cases (Toml.parse source).bind written with
  | error fault => exact ⟨nofun, nofun⟩
  | ok said =>
    change (said.apply {}).check.bind (fun _ => .ok (said.apply {})) = .ok config ↔ _
    constructor
    · intro h
      obtain ⟨⟨⟩, hcheck, hsaid⟩ := ok_of_bind h
      obtain rfl := Except.ok.inj hsaid
      exact ⟨said, rfl, rfl, check_eq_ok_iff.mp hcheck⟩
    · rintro ⟨other, hsaid, rfl, hvalid⟩
      obtain rfl : said = other := Option.some.inj hsaid
      rw [check_eq_ok_iff.mpr hvalid]
      rfl

theorem Config.loadOrDefault_eq_ok_iff {path : String} {file : FileContent} {config : Config} :
    loadOrDefault path file = .ok config ↔
      ∃ said, file.written? = some said ∧ said.apply {} = config ∧ config.Valid := by
  cases file with
  | absent =>
    rw [loadOrDefault, if_pos rfl]
    constructor
    · rintro ⟨⟩
      exact ⟨{}, rfl, rfl, valid_default⟩
    · rintro ⟨_, ⟨⟩, rfl, -⟩
      rfl
  | directory => exact ⟨nofun, nofun⟩
  | bytes content =>
    rw [loadOrDefault, if_neg nofun]
    simp only [load, FileContent.text, FileContent.written?]
    cases Utf8.decode? content with
    | none => simp
    | some source => exact parse_eq_ok_iff

/-! ## What is in force -/

/-- What should be in force: what the arguments say, else what the file says, and else the
default. -/
def effective (overrides said : Overrides) : Config where
  listen := (overrides.listen <|> said.listen).getD (.v4 ⟨127, 0, 0, 1⟩ 8080)
  settings := {
    localAs := (overrides.localAs <|> said.localAs).getD 4
    tenantBridge := (overrides.tenantBridge <|> said.tenantBridge).getD "br-tenant"
    vtepIp := overrides.vtepIp <|> said.vtepIp }
  logLevel := (overrides.logLevel <|> said.logLevel).getD "info"
  logJson := overrides.logJson || said.logJson

theorem apply_apply (overrides said : Overrides) :
    overrides.apply (said.apply {}) = effective overrides said := by
  simp only [Overrides.apply, effective, Option.orElse_eq_orElse, Option.orElse_eq_or,
    Option.getD_or, Option.or_none, Bool.false_or, Bool.or_comm said.logJson, defaultLocalAs,
    defaultTenantBridge]

theorem effective_nothing (said : Overrides) : effective {} said = said.apply {} := by
  simp [effective, Overrides.apply, defaultLocalAs, defaultTenantBridge]

/-- All that a launch needs before it runs a command: a file that can be read, a valid configuration
in it, a valid configuration in force, and a log filter. -/
structure Settles (overrides : Overrides) (file : FileContent) (environment : Option String)
    (config : Config) (filter : LogFilter) : Prop where
  file : ∃ said, file.written? = some said ∧ (effective {} said).Valid ∧
    effective overrides said = config
  valid : config.Valid
  filter : LogFilter.inForce? environment config.logLevel = some filter

section Prepare

variable {overrides : Overrides} {file : FileContent} {environment : Option String}
  {config : Config} {filter : LogFilter}

theorem settles_iff : Settles overrides file environment config filter ↔
    ∃ loaded, Config.loadOrDefault overrides.path file = .ok loaded ∧
      overrides.apply loaded = config ∧ config.check = .ok () ∧
      LogFilter.inForce? environment config.logLevel = some filter := by
  constructor
  · rintro ⟨⟨said, hsaid, hvalid, heffective⟩, hconfig, hfilter⟩
    rw [effective_nothing] at hvalid
    exact ⟨said.apply {}, Config.loadOrDefault_eq_ok_iff.mpr ⟨said, hsaid, rfl, hvalid⟩,
      (apply_apply overrides said).trans heffective, Config.check_eq_ok_iff.mpr hconfig, hfilter⟩
  · rintro ⟨loaded, hload, happly, hcheck, hfilter⟩
    obtain ⟨said, hsaid, rfl, hvalid⟩ := Config.loadOrDefault_eq_ok_iff.mp hload
    rw [← effective_nothing] at hvalid
    exact ⟨⟨said, hsaid, hvalid, (apply_apply overrides said).symm.trans happly⟩,
      Config.check_eq_ok_iff.mp hcheck, hfilter⟩

/-- **What is in force is what should be**, if it and the configuration in the file are valid. -/
theorem prepare_eq_ok_iff : prepare overrides file environment = .ok (config, filter) ↔
    Settles overrides file environment config filter := by
  rw [settles_iff]
  unfold prepare
  constructor
  · intro h
    obtain ⟨loaded, hload, hconfig⟩ := ok_of_bind h
    obtain ⟨⟨⟩, hcheck, hfilter⟩ := ok_of_bind hconfig
    split at hfilter
    · rename_i found hfound
      obtain ⟨rfl, rfl⟩ := Prod.mk.inj (Except.ok.inj hfilter)
      exact ⟨loaded, ok_of_mapError hload, rfl, ok_of_mapError hcheck, hfound⟩
    · exact nomatch hfilter
  · rintro ⟨loaded, hload, rfl, hcheck, hfilter⟩
    simp only [hload, Except.mapError, bind, Except.bind, hcheck, hfilter]
    rfl

theorem run_launch_error {σ : Type} {error : StartupError} (backends : Backends σ) (state : σ)
    (h : prepare overrides file environment = .error error) :
    (launch overrides file environment).run backends state =
      ⟨{ gateway := .error error }, [], state⟩ := by
  rw [launch, h]
  rfl

/-- One that is prepared makes sure of the tenant bridge, and that is all it does. -/
theorem run_launch_ok {σ : Type} (backends : Backends σ) (state : σ)
    (h : prepare overrides file environment = .ok (config, filter)) :
    (launch overrides file environment).run backends state =
      let ensured := (ensureTenantBridge config.settings.tenantBridge).plan.run backends state
      { ensured with
        result := {
          json := config.logJson
          records := config.announcements.filter fun record =>
            filter.admits record.level launchTarget
          gateway := match ensured.result with
            | .ok () => .ok { settings := config.settings }
            | .error error => .error (.gateway error) } } := by
  rw [launch, h]
  dsimp only
  rw [Interaction.run_bind]
  rcases (ensureTenantBridge config.settings.tenantBridge).plan.run backends state with
    ⟨error | _, asked, after⟩ <;> simp [Interaction.run]

end Prepare

/-- **A launch uses nothing but what it has checked.** What is in force is what the arguments say,
else what the file says, and else the default. Unless the configuration in the file and the one in
force are valid and there is a log filter the launch ends without a call. Otherwise its calls are
those that make sure of the tenant bridge in force, and the gateway that comes up has the settings
in force. -/
theorem launch_validated (overrides : Overrides) (file : FileContent)
    (environment : Option String) :
    ((∀ config filter, ¬ Settles overrides file environment config filter) →
      ∃ error, ∀ {σ : Type} (backends : Backends σ) (state : σ),
        (launch overrides file environment).run backends state =
          ⟨{ gateway := .error error }, [], state⟩) ∧
    ∀ config filter, Settles overrides file environment config filter →
      prepare overrides file environment = .ok (config, filter) ∧
      ∀ {σ : Type} (backends : Backends σ) (state : σ),
        let ensured := (ensureTenantBridge config.settings.tenantBridge).plan.run backends state
        let launched := (launch overrides file environment).run backends state
        launched.asked = ensured.asked ∧ launched.state = ensured.state ∧
          launched.result.json = config.logJson ∧
          (ensured.result = .ok () →
            launched.result.gateway = .ok { settings := config.settings }) ∧
          ∀ error, ensured.result = .error error →
            launched.result.gateway = .error (.gateway error) := by
  constructor
  · intro hunsettled
    rcases hprepare : prepare overrides file environment with error | ⟨config, filter⟩
    · exact ⟨error, fun backends state => run_launch_error backends state hprepare⟩
    · exact absurd (prepare_eq_ok_iff.mp hprepare) (hunsettled config filter)
  · intro config filter hsettles
    have hprepare := prepare_eq_ok_iff.mpr hsettles
    refine ⟨hprepare, fun backends state => ?_⟩
    rw [run_launch_ok backends state hprepare]
    exact ⟨rfl, rfl, rfl, fun hok => by simp only [hok], fun error herror => by simp only [herror]⟩

theorem launch_validated_lab :
    (∃ launched, launched = (launch { tenantBridge := some "br-lab" }
          (.bytes (Utf8.encode "[evpn]\nlocal_as = 7\n"))).run Simulation.backends {} ∧
        launched.asked = [.linkByName "br-lab", tenantBridgeAdd "br-lab"] ∧
        launched.result.gateway = .ok { settings := { localAs := 7, tenantBridge := "br-lab" } }) ∧
      ∃ error, (launch { localAs := some 0 } .absent).run Simulation.backends {} =
        ⟨{ gateway := .error error }, [], {}⟩ := by
  have hsettles : Settles { tenantBridge := some "br-lab" }
      (.bytes (Utf8.encode "[evpn]\nlocal_as = 7\n")) none
      { settings := { localAs := 7, tenantBridge := "br-lab" } } [{ verbosity := 3 }] :=
    ⟨⟨{ localAs := some 7 }, by decide +kernel, Config.check_eq_ok_iff.mp (by decide), rfl⟩,
      Config.check_eq_ok_iff.mp (by decide), by decide⟩
  have hunsettled : ∀ config filter,
      ¬ Settles { localAs := some 0 } .absent none config filter := by
    rintro config filter ⟨⟨said, -, -, rfl⟩, hvalid, -⟩
    exact absurd hvalid.localAs (UInt32.lt_irrefl 0)
  obtain ⟨-, hlaunch⟩ := (launch_validated _ _ none).2 _ _ hsettles
  obtain ⟨hasked, -, -, hok, -⟩ := hlaunch Simulation.backends {}
  obtain ⟨error, hrefused⟩ := (launch_validated _ _ none).1 hunsettled
  exact ⟨⟨_, rfl, hasked.trans (by decide), hok (by decide)⟩, error,
    hrefused Simulation.backends {}⟩

end EvpnGateway
