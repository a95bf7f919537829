import EvpnGateway.Proofs.Written.Addresses
import EvpnGateway.Proofs.Written.ShellWords
/-!
# Words of commands

What the shell makes of the commands for the tools: whatever the names and lines that go into a
command, it is one simple command with its words in their places.

* `Literal`: characters that the shell takes as they are; numbers and addresses are written with
  such (`Literal.toString`, `Literal.mac`, `Literal.address`, `Literal.networkPrefix`);
* `Errand`: a thing to do with the tools; `Errand.arguments`: the words that a tool should get;
* **`Errand.readCommand_command`**.
-/

namespace EvpnGateway

/-! ## Literal texts -/

namespace CommandReader.Literal

variable {chars more : List Char}

theorem append (h : Literal chars) (h' : ∀ c ∈ more, isLiteral c = true) :
    Literal (chars ++ more) :=
  ⟨List.append_ne_nil_of_left_ne_nil h.1 _, List.forall_mem_append.mpr ⟨h.2, h'⟩⟩

theorem intercalate {separator : Char} (hseparator : isLiteral separator = true)
    {groups : List (List Char)} (hne : groups ≠ []) (h : ∀ group ∈ groups, Literal group) :
    Literal ([separator].intercalate groups) := by
  induction groups with
  | nil => exact absurd rfl hne
  | cons group rest ih =>
    have hgroup := h group List.mem_cons_self
    cases rest with
    | nil => simpa using hgroup
    | cons next rest =>
      have hrest := ih (List.cons_ne_nil _ _) fun other hother =>
        h other (List.mem_cons_of_mem _ hother)
      rw [List.intercalate_cons_cons, List.append_assoc]
      exact hgroup.append (List.forall_mem_append.mpr ⟨by simpa using hseparator, hrest.2⟩)

theorem numeral {base n : Nat} (hbase : 1 < base) (hle : base ≤ 16) :
    Literal (Digits.numeral base n) := by
  refine ⟨Digits.numeral_ne_nil, fun c hc => ?_⟩
  obtain ⟨d, hd, rfl⟩ := Digits.exists_digitChar_of_mem_numeral hbase c hc
  have hd' : d < 16 := by omega
  interval_cases d <;> decide

theorem toString (n : Nat) : Literal (toString n).toList := by
  rw [Nat.toString_eq_repr, Nat.toList_repr]
  exact numeral (by decide) (by decide)

theorem padded {width n : Nat} : Literal (Digits.padded width 16 n) := by
  have hdigits : Literal (Digits.numeral 16 n) := numeral (by decide) (by decide)
  refine ⟨List.append_ne_nil_of_right_ne_nil _ hdigits.1, List.forall_mem_append.mpr
    ⟨fun c hc => ?_, hdigits.2⟩⟩
  rw [(List.mem_replicate.mp hc).2]
  decide

theorem mac (mac : MacAddress) : Literal mac.text.toList := by
  rw [MacAddress.text, String.toList_ofList]
  refine intercalate (by decide) (by simp [MacAddress.octets]) ?_
  simp only [List.mem_map, forall_exists_index, and_imp]
  rintro _ octet - rfl
  exact padded

theorem ipv4 (address : Ipv4Address) : Literal address.chars := by
  refine intercalate (by decide) (by simp) ?_
  simp only [List.mem_map, forall_exists_index, and_imp]
  rintro _ octet - rfl
  exact numeral (by decide) (by decide)

theorem groupChars {groups : List UInt16} (hne : groups ≠ []) :
    Literal (Ipv6Address.groupChars groups) := by
  refine intercalate (by decide) (by simpa using hne) ?_
  simp only [List.mem_map, forall_exists_index, and_imp]
  rintro _ group - rfl
  exact numeral (by decide) (by decide)

theorem isLiteral_of_mem_groupChars {groups : List UInt16} :
    ∀ c ∈ Ipv6Address.groupChars groups, isLiteral c = true := by
  cases groups with
  | nil => simp [Ipv6Address.groupChars]
  | cons group rest => exact (groupChars (List.cons_ne_nil group rest)).2

theorem ipv6 (address : Ipv6Address) : Literal address.chars := by
  rcases address.chars_cases with ⟨inner, -, hchars⟩ | ⟨before, zeros, after, -, -, hchars⟩ |
    hchars <;> rw [hchars]
  · exact append (by decide) (ipv4 inner).2
  · have hafter : ∀ c ∈ ':' :: ':' :: Ipv6Address.groupChars after, isLiteral c = true :=
      List.forall_mem_cons.mpr
        ⟨rfl, List.forall_mem_cons.mpr ⟨rfl, isLiteral_of_mem_groupChars⟩⟩
    exact ⟨by simp, List.forall_mem_append.mpr ⟨isLiteral_of_mem_groupChars, hafter⟩⟩
  · refine groupChars fun hnil => ?_
    have hlength := address.length_eq
    rw [hnil] at hlength
    cases hlength

theorem ip (address : IpAddress) : Literal address.chars := by
  cases address with
  | v4 address => exact ipv4 address
  | v6 address => exact ipv6 address

theorem address (address : IpAddress) : Literal address.text.toList := by
  rw [IpAddress.text, String.toList_ofList]
  exact ip address

theorem networkPrefix (value : IpPrefix) : Literal value.text.toList := by
  rw [IpPrefix.text, String.toList_ofList]
  exact (ip value.address).append (List.forall_mem_cons.mpr
    ⟨by decide, (numeral (by decide) (by decide)).2⟩)

end CommandReader.Literal

/-! ## Readable commands -/

namespace Command

open CommandReader

/-- The shell reads every word of a command as one word. -/
def IsReadable (command : Command) : Prop := ∀ word ∈ command, word.IsReadable

variable {command more : Command} {words : List String} {text : String}

theorem isReadable_append :
    (command ++ more).IsReadable ↔ command.IsReadable ∧ more.IsReadable :=
  List.forall_mem_append

theorem isReadable_fixed : (fixed words).IsReadable ↔ ∀ word ∈ words, Literal word.toList :=
  List.forall_mem_map

theorem isReadable_quoted : IsReadable [.quoted text] ↔ '\x00' ∉ text.toList :=
  List.forall_mem_singleton

theorem isReadable_kindWords (kind : LinkKind) : (kindWords kind).IsReadable := by
  cases kind with
  | vrf table =>
    simp only [kindWords, isReadable_fixed, List.forall_mem_cons]
    exact ⟨by decide, by decide, Literal.toString _, nofun⟩
  | bridge vlanFiltering =>
    rw [kindWords, isReadable_fixed]
    cases vlanFiltering <;> decide
  | vxlan vni localAddress port =>
    cases localAddress with
    | none =>
      simp only [kindWords, isReadable_fixed, List.cons_append, List.nil_append,
        List.forall_mem_cons]
      exact ⟨by decide, by decide, Literal.toString _, by decide, Literal.toString _, by decide,
        nofun⟩
    | some address =>
      simp only [kindWords, isReadable_fixed, List.cons_append, List.nil_append,
        List.forall_mem_cons]
      exact ⟨by decide, by decide, Literal.toString _, by decide, Literal.address _, by decide,
        Literal.toString _, by decide, nofun⟩
  | dummy =>
    rw [kindWords, isReadable_fixed]
    decide

end Command

/-! ## Errands -/

/-- A thing to do with one of the tools. -/
inductive Errand where
  | linkAdd (spec : LinkSpec)
  | linkSetMaster (name master : String)
  | linkSetUp (name : String)
  | linkDel (name : String)
  | linkShow (name : String)
  | addressAdd (name : String) (address : IpPrefix)
  | vlanAdd (device : String) (vlan : VlanId) (tagging : Tagging) (onBridge : Bool)
  | vlanDel (device : String) (vlan : VlanId) (onBridge : Bool)
  | configure (lines : List String)
  deriving DecidableEq, Repr

/-- The words that tell a tool the kind of a link. -/
def LinkKind.arguments : LinkKind → List String
  | vrf table => ["vrf", "table", toString table.toNat]
  | bridge true => ["bridge", "vlan_filtering", "1"]
  | bridge false => ["bridge", "vlan_filtering", "0"]
  | vxlan vni none port =>
    ["vxlan", "id", toString vni.number, "dstport", toString port.toNat, "nolearning"]
  | vxlan vni (some address) port =>
    ["vxlan", "id", toString vni.number, "local", address.text, "dstport", toString port.toNat,
      "nolearning"]
  | dummy => ["dummy"]

namespace Errand

open Command CommandReader

/-- The command for an errand. -/
def command : Errand → Command
  | linkAdd spec => Command.linkAdd spec
  | linkSetMaster name master => Command.linkSetMaster name master
  | linkSetUp name => Command.linkSetUp name
  | linkDel name => Command.linkDel name
  | linkShow name => Command.linkShow name
  | addressAdd name address => Command.addressAdd name address
  | vlanAdd device vlan tagging onBridge => Command.vlanAdd device vlan tagging onBridge
  | vlanDel device vlan onBridge => Command.vlanDel device vlan onBridge
  | configure lines => Command.configure lines

/-- The texts from outside that an errand is about. -/
def texts : Errand → List String
  | linkAdd spec => [spec.name]
  | linkSetMaster name master => [name, master]
  | linkSetUp name | linkDel name | linkShow name | addressAdd name _ => [name]
  | vlanAdd device .. | vlanDel device .. => [device]
  | configure lines => lines

/-- The words that the tool of an errand should get, its own name first. -/
def arguments : Errand → List String
  | linkAdd spec =>
    let address := match spec.address with
      | some mac => ["address", mac.text]
      | none => []
    ["/sbin/ip", "link", "add", delivered spec.name] ++ address ++ ["type"] ++ spec.kind.arguments
  | linkSetMaster name master =>
    ["/sbin/ip", "link", "set", delivered name, "master", delivered master]
  | linkSetUp name => ["/sbin/ip", "link", "set", delivered name, "up"]
  | linkDel name => ["/sbin/ip", "link", "del", delivered name]
  | linkShow name => ["/sbin/ip", "-j", "-d", "link", "show", "dev", delivered name]
  | addressAdd name address =>
    ["/sbin/ip", "address", "add", address.text, "dev", delivered name]
  | vlanAdd device vlan tagging onBridge =>
    let mode := match tagging with
      | .tagged => []
      | .untagged => ["pvid", "untagged"]
    ["/sbin/bridge", "vlan", "add", "vid", toString vlan.number, "dev", delivered device] ++ mode ++
      if onBridge then ["self"] else []
  | vlanDel device vlan onBridge =>
    ["/sbin/bridge", "vlan", "del", "vid", toString vlan.number, "dev", delivered device] ++
      if onBridge then ["self"] else []
  | configure lines =>
    ["/usr/bin/vtysh", "-c", "configure terminal"] ++
      lines.flatMap fun line => ["-c", delivered line]

theorem map_argument_command (errand : Errand) :
    errand.command.map Word.argument = errand.arguments := by
  cases errand with
  | linkAdd spec =>
    obtain ⟨name, kind, address, master⟩ := spec
    rcases kind with table | vlanFiltering | ⟨vni, localAddress | localAddress, port⟩ | _
    case bridge => cases vlanFiltering <;> cases address <;> rfl
    all_goals cases address <;> rfl
  | vlanAdd device vlan tagging onBridge => cases tagging <;> cases onBridge <;> rfl
  | vlanDel device vlan onBridge => cases onBridge <;> rfl
  | configure lines =>
    have hterminal : delivered "configure terminal" = "configure terminal" :=
      delivered_eq_self_iff.mpr (by decide)
    simp [command, arguments, Command.configure, List.map_flatMap, Word.argument, hterminal,
      Command.vtysh]
  | linkSetMaster name master => rfl
  | linkSetUp name => rfl
  | linkDel name => rfl
  | linkShow name => rfl
  | addressAdd name address => rfl

theorem isReadable_target (onBridge : Bool) : (target onBridge).IsReadable := by
  cases onBridge with
  | true => exact isReadable_fixed.mpr (by decide)
  | false => exact nofun

theorem isReadable_command {errand : Errand} (h : ∀ text ∈ errand.texts, '\x00' ∉ text.toList) :
    errand.command.IsReadable := by
  cases errand with
  | linkAdd spec =>
    simp only [command, Command.linkAdd, isReadable_append, isReadable_fixed, isReadable_quoted]
    refine ⟨⟨⟨by decide, h _ List.mem_cons_self⟩, ?_⟩, isReadable_kindWords _⟩
    cases spec.address with
    | none => decide
    | some mac =>
      simp only [List.cons_append, List.nil_append, List.forall_mem_cons]
      exact ⟨by decide, Literal.mac mac, by decide, nofun⟩
  | linkSetMaster name master =>
    simp only [command, Command.linkSetMaster, isReadable_append, isReadable_fixed]
    refine ⟨by decide, List.forall_mem_cons.mpr ⟨h name List.mem_cons_self, ?_⟩⟩
    exact List.forall_mem_cons.mpr ⟨by decide, isReadable_quoted.mpr
      (h master (List.mem_cons_of_mem _ List.mem_cons_self))⟩
  | linkSetUp name =>
    simp only [command, Command.linkSetUp, isReadable_append, isReadable_fixed]
    exact ⟨by decide, List.forall_mem_cons.mpr ⟨h name List.mem_cons_self, by decide⟩⟩
  | linkDel name =>
    simp only [command, Command.linkDel, isReadable_append, isReadable_fixed, isReadable_quoted]
    exact ⟨by decide, h name List.mem_cons_self⟩
  | linkShow name =>
    simp only [command, Command.linkShow, isReadable_append, isReadable_fixed, isReadable_quoted]
    exact ⟨by decide, h name List.mem_cons_self⟩
  | addressAdd name address =>
    simp only [command, Command.addressAdd, isReadable_append, isReadable_fixed, isReadable_quoted,
      List.forall_mem_cons]
    exact ⟨⟨by decide, by decide, by decide, Literal.networkPrefix address, by decide, nofun⟩,
      h name List.mem_cons_self⟩
  | vlanAdd device vlan tagging onBridge =>
    simp only [command, Command.vlanAdd, isReadable_append, isReadable_fixed, isReadable_quoted,
      List.forall_mem_cons]
    refine ⟨⟨⟨⟨by decide, by decide, by decide, by decide, Literal.toString _, by decide, nofun⟩,
      h device List.mem_cons_self⟩, ?_⟩, isReadable_target onBridge⟩
    cases tagging <;> decide
  | vlanDel device vlan onBridge =>
    simp only [command, Command.vlanDel, isReadable_append, isReadable_fixed, isReadable_quoted,
      List.forall_mem_cons]
    exact ⟨⟨⟨by decide, by decide, by decide, by decide, Literal.toString _, by decide, nofun⟩,
      h device List.mem_cons_self⟩, isReadable_target onBridge⟩
  | configure lines =>
    refine List.forall_mem_cons.mpr ⟨(by decide : Literal Command.vtysh.toList), ?_⟩
    intro word hword
    obtain ⟨line, hline, hword⟩ := List.mem_flatMap.mp hword
    have htext : '\x00' ∉ line.toList := by
      rcases List.mem_cons.mp hline with rfl | hline
      · decide
      · exact h line hline
    rcases List.mem_cons.mp hword with rfl | hword
    · exact (by decide : Literal "-c".toList)
    · exact List.mem_singleton.mp hword ▸ htext

/-- **The shell reads the command for an errand as one simple command** that hands the tool its
words in their places. Each text from outside is one of them, whatever it holds, and lacks its line
feeds. -/
theorem readCommand_command {errand : Errand}
    (h : ∀ text ∈ errand.texts, '\x00' ∉ text.toList) :
    readCommand errand.command.text = .ok errand.arguments := by
  rw [Command.readCommand_text ?_ (isReadable_command h) ?_, map_argument_command]
  -- every command starts with its tool, which is no word of the grammar
  · cases errand <;> exact List.cons_ne_nil _ _
  · cases errand <;> rintro word ⟨⟩ <;> decide

/-- Texts that close the quotes, end the command or ask for the output of another. -/
theorem readCommand_command_hostile :
    let errand := linkSetMaster "x\"; rm -rf / #" "$(reboot)"
    (∀ text ∈ errand.texts, '\x00' ∉ text.toList) ∧ readCommand errand.command.text =
      .ok ["/sbin/ip", "link", "set", "x\"; rm -rf / #", "master", "$(reboot)"] := by
  have h : ∀ text ∈ ["x\"; rm -rf / #", "$(reboot)"], '\x00' ∉ text.toList := by decide
  have hread := @readCommand_command (linkSetMaster "x\"; rm -rf / #" "$(reboot)") h
  exact ⟨h, hread.trans (by decide)⟩

end Errand

end EvpnGateway
