/-
  THE ADDRESS OF A DEVICE, end to end (`CollectNetworkInfo` of `collector/network.go`,
  `_handle_network_info` and `_extract_ip` of `app/websocket/handler.py`).

  `net.ParseCIDR` returns an address and its NETWORK.  The agent reports the network; the server
  reads what it gets as the address of an interface, and keeps the first one that is not private, or
  else the first one.

  * `collectNetworkInfo` — what the agent reports.
  * `chooseIp_eq`, `handleNetworkInfo_address` — what the server makes of any report.
  * `choose_network_iff` — when choosing among the networks gives the address that choosing among
    the addresses gives.
  * `address_reported_iff` — exactly which hosts are shown with the right address.
-/
import Dtsys.Agent.Payloads
import Dtsys.Server.Handler

namespace Dtsys

/-! ## `CollectNetworkInfo` -/

namespace Agent

/-- An IPv6 address. -/
abbrev Ipv6 := BitVec 128

/-- `ip.To4()`: the IPv4 address that is mapped into IPv6. -/
def to4 (ip : Ipv6) : Option Ipv4 :=
  if ip.toNat / 2 ^ 32 = 0xFFFF then some (BitVec.ofNat 32 ip.toNat) else none

/-- An address of an interface: a `net.IPNet` with a prefix length, or something whose text
    `net.ParseCIDR` refuses. -/
inductive Addr
  | v4 (ip : Ipv4) (len : Fin 33)
  | v6 (ip : Ipv6) (len : Fin 129)
  | other

/-- An IPv4 address and the length of its prefix. -/
structure Cidr where
  ip : Ipv4
  len : Fin 33
  deriving DecidableEq, Repr

/-- `addr.String()`, parsed again: `Sum.inl` if `ip.To4() != nil`.  A mapped address is written as
    IPv4, with what is left of its prefix. -/
def Addr.parse : Addr → Option (Cidr ⊕ (Ipv6 × Fin 129))
  | .v4 ip len => some (.inl ⟨ip, len⟩)
  | .v6 ip len =>
    match to4 ip with
    | some mapped => some (.inl ⟨mapped, ⟨len.val - 96, by omega⟩⟩)
    | none => some (.inr (ip, len))
  | .other => none

/-- The address part of `network`. -/
def Cidr.network (c : Cidr) : Ipv4 := c.ip &&& (BitVec.allOnes 32 <<< (32 - c.len.val))

/-- `network.String()`. -/
def Cidr.networkText (c : Cidr) : String := c.network.str ++ "/" ++ toString c.len.val

/-- The eight groups of an IPv6 address. -/
def groups (ip : Ipv6) : List Nat :=
  (List.range 8).map fun k => ip.toNat / 2 ^ (16 * (7 - k)) % 65536

/-- The first of the longest runs of at least two zero groups: where it starts, and its length. -/
def longestZeros (gs : List Nat) : Option (Nat × Nat) :=
  (List.range gs.length).foldl (fun best k =>
    let l := ((gs.drop k).takeWhile (· = 0)).length
    if 2 ≤ l ∧ (best.map Prod.snd).getD 0 < l then some (k, l) else best) none

/-- Groups in hexadecimal, with colons between them. -/
def groupsText (gs : List Nat) : String :=
  ":".intercalate (gs.map fun g => String.ofList (Nat.toDigits 16 g))

/-- `IP.String` of an address that is not mapped: the run of zeros is left out. -/
def ipv6Text (ip : Ipv6) : String :=
  let gs := groups ip
  match longestZeros gs with
  | some (k, l) => groupsText (gs.take k) ++ "::" ++ groupsText (gs.drop (k + l))
  | none => groupsText gs

example : ipv6Text 0x20010db8000000000001000000000001 = "2001:db8::1:0:0:1" := by decide +kernel

/-- `network.String()` of an IPv6 address. -/
def networkText6 (a : Ipv6 × Fin 129) : String :=
  ipv6Text (a.1 &&& (BitVec.allOnes 128 <<< (128 - a.2.val))) ++ "/" ++ toString a.2.val

/-- `HardwareAddr.String`. -/
def hardwareText (bytes : List UInt8) : String :=
  ":".intercalate (bytes.map fun b => String.ofList (Uuid.hexDigits 2 b.toNat))

/-- A `net.Interface`, and what `iface.Addrs()` returns; `none`: an error. -/
structure Interface where
  name : GoString
  hardwareAddr : List UInt8
  up : Bool
  loopback : Bool
  mtu : Int
  addrs : Option (List Addr)

/-- An interface that is up, and no loopback. -/
def Interface.active (i : Interface) : Bool := !i.loopback && i.up

/-- A slice built by `append`: nil if nothing was appended. -/
def appended (texts : List String) : Option (List GoString) :=
  if texts.isEmpty then none else some (texts.map .ofString)

/-- The address, if it is one of IPv4. -/
def ipv4Of (a : Addr) : Option Cidr := a.parse.bind Sum.getLeft?

/-- The address, if it is one of IPv6. -/
def ipv6Of (a : Addr) : Option (Ipv6 × Fin 129) := a.parse.bind Sum.getRight?

/-- The report on an interface with these addresses. -/
def Interface.report (i : Interface) (addrs : List Addr) : NetworkInterface where
  name := i.name
  macAddress := .ofString (hardwareText i.hardwareAddr)
  ipv4 := appended ((addrs.filterMap ipv4Of).map Cidr.networkText)
  ipv6 := appended ((addrs.filterMap ipv6Of).map networkText6)
  isUp := i.up
  mtu := i.mtu

/-- `CollectNetworkInfo`. -/
def collectNetworkInfo (interfaces : List Interface) : Option (List NetworkInterface) :=
  (interfaces.filter Interface.active).mapM fun i => i.addrs.map i.report

/-- The IPv4 addresses of the host, in interface and address order. -/
def hostAddresses (interfaces : List Interface) : List Cidr :=
  (interfaces.filter Interface.active).flatMap fun i => (i.addrs.getD []).filterMap ipv4Of

/-- The texts of the IPv4 networks, interface after interface. -/
def reportedTexts (infos : List NetworkInterface) : List GoString :=
  infos.flatMap fun i => i.ipv4.getD []

theorem appended_getD (texts : List String) :
    (appended texts).getD [] = texts.map GoString.ofString := by
  rw [appended]
  cases texts with
  | nil => rfl
  | cons t ts => rfl

/-- The report names the networks of the host's addresses. -/
theorem reportedTexts_collect : ∀ {interfaces : List Interface} {infos : List NetworkInterface},
    collectNetworkInfo interfaces = some infos →
      reportedTexts infos =
        (hostAddresses interfaces).map fun c => GoString.ofString c.networkText := by
  intro interfaces
  rw [collectNetworkInfo, hostAddresses]
  induction interfaces.filter Interface.active with
  | nil =>
    intro infos h
    obtain rfl := Option.some.inj h
    rfl
  | cons i is ih =>
    intro infos h
    rw [List.mapM_cons] at h
    obtain ⟨info, hinfo, hrest⟩ := Option.bind_eq_some_iff.mp h
    obtain ⟨rest, hmap, hlast⟩ := Option.bind_eq_some_iff.mp hrest
    obtain rfl := Option.some.inj hlast
    obtain ⟨addrs, haddrs, rfl⟩ := Option.map_eq_some_iff.mp hinfo
    have hhead : ((i.report addrs).ipv4).getD [] =
        (addrs.filterMap ipv4Of).map fun c => GoString.ofString c.networkText := by
      show (appended _).getD [] = _
      rw [appended_getD, List.map_map, Function.comp_def]
    have hrec := ih hmap
    unfold reportedTexts at hrec ⊢
    rw [List.flatMap_cons, List.flatMap_cons, List.map_append, hhead, hrec, haddrs,
      Option.getD_some]

end Agent

/-! ## What the server makes of it -/

namespace Server

variable {E : Env}

/-- The first one that is not private, or else the first one. -/
def preferredIp (ips : List Ipv4) : Option Ipv4 := (ips.find? fun ip => !ip.isPrivate).or ips.head?

/-- The two accumulators of the loop, over the addresses that can be read. -/
theorem chooseIp_eq : ∀ (raws : List Json) (acc : Option Ipv4 × Option Ipv4),
    chooseIp acc raws =
      (acc.1.or ((raws.filterMap extractIp).find? fun ip => !ip.isPrivate),
        acc.2.or (raws.filterMap extractIp).head?) := by
  intro raws
  induction raws with
  | nil =>
    rintro ⟨preferred, fallback⟩
    show (preferred, fallback) = (preferred.or none, fallback.or none)
    rw [Option.or_none, Option.or_none]
  | cons raw rest ih =>
    rintro ⟨preferred, fallback⟩
    rcases hraw : extractIp raw with _ | ip
    · have hstep : chooseIp (preferred, fallback) (raw :: rest) =
          chooseIp (preferred, fallback) rest := by
        simp only [chooseIp, hraw]
      rw [hstep, ih, List.filterMap_cons_none hraw]
    · have hstep : chooseIp (preferred, fallback) (raw :: rest) =
          chooseIp (if preferred.isNone ∧ !ip.isPrivate then some ip else preferred,
            if fallback.isNone then some ip else fallback) rest := by
        simp only [chooseIp, hraw]
      rw [hstep, ih, List.filterMap_cons_some hraw, List.find?_cons, List.head?_cons]
      refine Prod.ext ?_ ?_
      · cases preferred with
        | some p => rfl
        | none => cases hprivate : ip.isPrivate <;> rfl
      · cases fallback <;> rfl

/-- One list after the other. -/
theorem chooseIp_append (acc : Option Ipv4 × Option Ipv4) (raws rest : List Json) :
    chooseIp (chooseIp acc raws) rest = chooseIp acc (raws ++ rest) := by
  rw [chooseIp_eq rest, chooseIp_eq raws, chooseIp_eq (raws ++ rest), List.filterMap_append,
    List.find?_append, List.head?_append, Option.or_assoc, Option.or_assoc]

/-- The list under `ipv4` of an interface that an agent reports. -/
theorem addressList_encode (i : Agent.NetworkInterface) :
    ∃ v, addressList i.encode "ipv4" = .ok v ∧
      v.iter = .ok ((i.ipv4.getD []).map Agent.GoString.encode) := by
  obtain ⟨name, mac, ipv4, ipv6, isUp, mtu⟩ := i
  cases ipv4 with
  | none => exact ⟨.arr [], rfl, rfl⟩
  | some texts =>
    cases texts with
    | nil => exact ⟨.arr [], rfl, rfl⟩
    | cons t ts => exact ⟨.arr ((t :: ts).map Agent.GoString.encode), rfl, rfl⟩

/-- The loop over reported interfaces. -/
theorem addInterfaces_encode (d : Uuid) : ∀ (infos : List Agent.NetworkInterface)
    (acc : Option Ipv4 × Option Ipv4) (w : World),
    ∃ w', addInterfaces E d acc (infos.map Agent.NetworkInterface.encode) w =
        (.ok (chooseIp acc ((Agent.reportedTexts infos).map Agent.GoString.encode)), w') ∧
      w'.device = w.device := by
  intro infos
  induction infos with
  | nil => exact fun acc w => ⟨w, rfl, rfl⟩
  | cons i rest ih =>
    intro acc w
    obtain ⟨v, hlist, hiter⟩ := addressList_encode i
    obtain ⟨r, hrow⟩ : ∃ r, networkRow d (E.uuid4 w.drawn) i.encode = .ok r := ⟨_, rfl⟩
    obtain ⟨w', hrun, hdevice⟩ := ih
      (chooseIp acc ((i.ipv4.getD []).map Agent.GoString.encode))
      { w with drawn := w.drawn + 1, pending := w.pending ++ [r] }
    refine ⟨w', ?_, hdevice⟩
    have htexts : (Agent.reportedTexts (i :: rest)).map Agent.GoString.encode =
        (i.ipv4.getD []).map Agent.GoString.encode ++
          (Agent.reportedTexts rest).map Agent.GoString.encode := by
      unfold Agent.reportedTexts
      rw [List.flatMap_cons, List.map_append]
    have hstep : addInterfaces E d acc (i.encode :: rest.map Agent.NetworkInterface.encode) w =
        addInterfaces E d (chooseIp acc ((i.ipv4.getD []).map Agent.GoString.encode))
          (rest.map Agent.NetworkInterface.encode)
          { w with drawn := w.drawn + 1, pending := w.pending ++ [r] } := by
      rw [addInterfaces, newId_bind]
      simp only [hrow, hlist, Act.ofExcept_ok_bind, add, Act.modify_bind, hiter]
    rw [List.map_cons, hstep, hrun, htexts, chooseIp_append]

/-- In a settled session a report of an agent is stored. -/
theorem handleNetworkInfo_ok {w : World} (hset : w.Settled) (infos : List Agent.NetworkInterface) :
    ∃ w', handleNetworkInfo E (Agent.NetworkInfoData.encode ⟨some infos⟩) w = (.ok (), w') := by
  obtain ⟨w', hloop, -⟩ := @addInterfaces_encode E w.device.id infos (none, none)
    { w with db := deleteNetwork w.device.id w.db
             device := { w.device with lastSeen := some w.clock, status := .online } }
  refine ⟨{ w' with device := withAddress (chooseIp (none, none)
    ((Agent.reportedTexts infos).map Agent.GoString.encode)) w'.device }, ?_⟩
  have hget : (Agent.NetworkInfoData.encode ⟨some infos⟩).getD "interfaces" (.arr []) =
      .ok (.arr (infos.map Agent.NetworkInterface.encode)) := rfl
  rw [handleNetworkInfo, Act.read_bind, hget, Act.ofExcept_ok_bind, Act.bind_of_ok (execute_settled hset _)]
  exact Act.bind_of_ok hloop

theorem device_of_flush {w w' : World} (h : flush E w = (.ok (), w')) : w'.device = w.device := by
  rw [flush] at h
  split at h
  · rw [← (Prod.mk.inj h).2]
  · cases (Prod.mk.inj h).1

/-- The address after a report: that of the first of its texts that is not private, or else of the
    first one. -/
theorem handleNetworkInfo_address {w w' : World} {infos : List Agent.NetworkInterface}
    (h : handleNetworkInfo E (Agent.NetworkInfoData.encode ⟨some infos⟩) w = (.ok (), w')) :
    w'.device.ipAddress =
      match preferredIp ((Agent.reportedTexts infos).map Agent.GoString.encode |>.filterMap
        extractIp) with
      | some ip => some ip.str
      | none => w.device.ipAddress := by
  rw [handleNetworkInfo, Act.read_bind] at h
  obtain ⟨interfaces, hget, h⟩ := Act.ok_of_ofExcept h
  obtain rfl : .arr (infos.map Agent.NetworkInterface.encode) = interfaces := Except.ok.inj hget
  obtain ⟨_, w₁, hexec, h⟩ := Act.ok_of_bind h
  have hdevice₁ : w₁.device = w.device := by
    obtain ⟨_, w₀, hflush, hmodify⟩ := Act.ok_of_bind hexec
    have hsame : w₁.device = w₀.device := by rw [← (Prod.mk.inj hmodify).2]
    exact hsame.trans (device_of_flush hflush)
  rw [now, Act.read_bind, setDevice, Act.modify_bind] at h
  obtain ⟨items, hitems, h⟩ := Act.ok_of_ofExcept h
  obtain rfl : infos.map Agent.NetworkInterface.encode = items := Except.ok.inj hitems
  obtain ⟨w₂, hloop, hdevice₂⟩ := @addInterfaces_encode E w.device.id infos (none, none)
    { w₁ with device := { w₁.device with lastSeen := some w₁.clock, status := .online } }
  rw [Act.bind_of_ok hloop] at h
  obtain rfl : { w₂ with device := withAddress _ w₂.device } = w' := (Prod.mk.inj h).2
  show (withAddress _ w₂.device).ipAddress = _
  rw [hdevice₂, chooseIp_eq]
  rw [withAddress, preferredIp]
  dsimp only
  rw [Option.none_or, Option.none_or]
  cases (((Agent.reportedTexts infos).map Agent.GoString.encode |>.filterMap extractIp).find?
    fun ip => !ip.isPrivate).or
      ((Agent.reportedTexts infos).map Agent.GoString.encode |>.filterMap extractIp).head? with
  | some ip => rfl
  | none =>
    show w₁.device.ipAddress = w.device.ipAddress
    rw [hdevice₁]

/-! ## Networks and addresses -/

/-- Choosing among the networks gives what choosing among the addresses gives: the address that is
    chosen is itself the first network that is not private, or, if there is nothing but private
    addresses in private networks, the first network. -/
def NetworkChosen (cs : List Agent.Cidr) : Prop :=
  match cs.find? fun c => !c.ip.isPrivate with
  | some c => ∃ before d after, cs = before ++ d :: after ∧
      (∀ b ∈ before, b.network.isPrivate = true) ∧ d.network = c.ip
  | none => (∀ c ∈ cs, c.network.isPrivate = true) ∧ ∀ c, cs.head? = some c → c.network = c.ip

theorem preferredIp_map (f : Agent.Cidr → Ipv4) (cs : List Agent.Cidr) :
    preferredIp (cs.map f) =
      ((cs.find? fun c => !(f c).isPrivate).map f).or (cs.head?.map f) := by
  rw [preferredIp, List.find?_map, List.head?_map]
  rfl

/-- An address that is chosen because it is public is. -/
theorem public_of_find {f : Agent.Cidr → Ipv4} {cs : List Agent.Cidr} {c : Agent.Cidr}
    (h : cs.find? (fun c => !(f c).isPrivate) = some c) : (f c).isPrivate = false :=
  (Bool.not_eq_true' _).mp (List.find?_some (p := fun c => !(f c).isPrivate) h)

/-- None is public when none is found. -/
theorem private_of_find {f : Agent.Cidr → Ipv4} {cs : List Agent.Cidr}
    (h : cs.find? (fun c => !(f c).isPrivate) = none) : ∀ c ∈ cs, (f c).isPrivate = true :=
  fun c hc => by simpa using List.find?_eq_none.mp h c hc

/-- Nothing but private addresses. -/
theorem choose_of_private {cs : List Agent.Cidr}
    (haddress : cs.find? (fun c => !c.ip.isPrivate) = none) :
    preferredIp (cs.map Agent.Cidr.network) = cs.head?.map Agent.Cidr.ip ↔
      (∀ c ∈ cs, c.network.isPrivate = true) ∧ ∀ c, cs.head? = some c → c.network = c.ip := by
  rw [preferredIp_map]
  rcases hnetwork : cs.find? (fun c => !c.network.isPrivate) with _ | d
  · have hall := private_of_find hnetwork
    rw [hnetwork, Option.map_none, Option.none_or]
    cases cs with
    | nil => simp
    | cons first rest =>
      show some first.network = some first.ip ↔ _
      rw [Option.some.injEq]
      exact ⟨fun h => ⟨hall, fun c hc => Option.some.inj hc ▸ h⟩, fun h => h.2 first rfl⟩
  · have hd := public_of_find hnetwork
    constructor
    · intro h
      rw [hnetwork] at h
      obtain ⟨first, hfirst, hip⟩ := Option.map_eq_some_iff.mp h.symm
      have hprivate := private_of_find haddress first (List.mem_of_head? hfirst)
      rw [hip, hd] at hprivate
      cases hprivate
    · intro h
      have hprivate := h.1 d (List.mem_of_find?_eq_some hnetwork)
      rw [hd] at hprivate
      cases hprivate

/-- There is an address that is not private. -/
theorem choose_of_public {cs : List Agent.Cidr} {a : Ipv4} (ha : a.isPrivate = false) :
    preferredIp (cs.map Agent.Cidr.network) = some a ↔
      ∃ before d after, cs = before ++ d :: after ∧
        (∀ b ∈ before, b.network.isPrivate = true) ∧ d.network = a := by
  rw [preferredIp_map]
  constructor
  · intro h
    rcases hnetwork : cs.find? (fun c => !c.network.isPrivate) with _ | d
    · rw [hnetwork, Option.map_none, Option.none_or] at h
      obtain ⟨first, hfirst, hip⟩ := Option.map_eq_some_iff.mp h
      have hprivate := private_of_find hnetwork first (List.mem_of_head? hfirst)
      rw [hip, ha] at hprivate
      cases hprivate
    · obtain ⟨-, before, after, hsplit, hbefore⟩ := List.find?_eq_some_iff_append.mp hnetwork
      rw [hnetwork] at h
      exact ⟨before, d, after, hsplit, fun b hb => by simpa using hbefore b hb,
        Option.some.inj h⟩
  · rintro ⟨before, d, after, rfl, hbefore, hd⟩
    have hfind : (before ++ d :: after).find? (fun c => !c.network.isPrivate) = some d := by
      refine List.find?_eq_some_iff_append.mpr ⟨?_, before, after, rfl, fun b hb => ?_⟩
      · rw [hd, ha]
        rfl
      · rw [hbefore b hb]
        rfl
    rw [hfind, Option.map_some, Option.some_or, hd]

/-- The address of the network stands for the address of the host when they are chosen alike. -/
theorem choose_network_iff (cs : List Agent.Cidr) :
    preferredIp (cs.map Agent.Cidr.network) = preferredIp (cs.map Agent.Cidr.ip) ↔
      NetworkChosen cs := by
  rw [NetworkChosen, preferredIp_map Agent.Cidr.ip]
  rcases haddress : cs.find? (fun c => !c.ip.isPrivate) with _ | c
  · rw [haddress, Option.map_none, Option.none_or]
    exact choose_of_private haddress
  · rw [haddress]
    exact choose_of_public (public_of_find haddress)

/-! ## End to end -/

/-- The right address of a host. -/
def expectedAddress (interfaces : List Agent.Interface) : Option Ipv4 :=
  preferredIp ((Agent.hostAddresses interfaces).map Agent.Cidr.ip)

/-- The device is shown with the right address, or with the old one if the host has none. -/
def ShowsAddress (interfaces : List Agent.Interface) (before after : Device) : Prop :=
  after.ipAddress =
    match expectedAddress interfaces with
    | some ip => some ip.str
    | none => before.ipAddress

/-- What the server reads off the text of a network. -/
theorem extractIp_networkText (c : Agent.Cidr) :
    extractIp (Agent.GoString.encode (.ofString c.networkText)) = some c.network := by
  show Ipv4.parseInterface (Agent.GoString.text (.ofString c.networkText)) = _
  rw [Agent.GoString.text_ofString]
  have hlen : c.len.val ≤ 32 := by omega
  exact Ipv4.parseInterface_prefix c.network hlen

/-- What the server reads of an address is its network. -/
theorem read_networks (cs : List Agent.Cidr) :
    ((cs.map fun c => Agent.GoString.ofString c.networkText).map
      Agent.GoString.encode).filterMap extractIp = cs.map Agent.Cidr.network := by
  induction cs with
  | nil => rfl
  | cons c cs ih =>
    rw [List.map_cons, List.map_cons, List.filterMap_cons_some (extractIp_networkText c), ih,
      List.map_cons]

/-- The address that is shown: chosen among the networks. -/
theorem shown_address {interfaces : List Agent.Interface} {infos : List Agent.NetworkInterface}
    {w w' : World} (hcollect : Agent.collectNetworkInfo interfaces = some infos)
    (hrun : handleNetworkInfo E (Agent.NetworkInfoData.encode ⟨some infos⟩) w = (.ok (), w')) :
    w'.device.ipAddress =
      match preferredIp ((Agent.hostAddresses interfaces).map Agent.Cidr.network) with
      | some ip => some ip.str
      | none => w.device.ipAddress := by
  rw [handleNetworkInfo_address hrun, Agent.reportedTexts_collect hcollect, read_networks]

/-- **A report sets the right address** exactly if the choice among the networks comes out at the
    address that is to be chosen; as a rule, if that address has no host bits.

    `CollectNetworkInfo` reports the network of an address in the place of the address.  The condition compares the
    two choices, entry by entry. -/
theorem address_reported_iff {interfaces : List Agent.Interface}
    {infos : List Agent.NetworkInterface} {w w' : World}
    (hcollect : Agent.collectNetworkInfo interfaces = some infos)
    (hrun : handleNetworkInfo E (Agent.NetworkInfoData.encode ⟨some infos⟩) w = (.ok (), w')) :
    ShowsAddress interfaces w.device w'.device ↔
      NetworkChosen (Agent.hostAddresses interfaces) := by
  rw [← choose_network_iff]
  rw [ShowsAddress, expectedAddress, shown_address hcollect hrun]
  have hboth : preferredIp ((Agent.hostAddresses interfaces).map Agent.Cidr.network) = none ↔
      preferredIp ((Agent.hostAddresses interfaces).map Agent.Cidr.ip) = none := by
    rw [preferredIp_map, preferredIp_map]
    cases Agent.hostAddresses interfaces with
    | nil => exact Iff.rfl
    | cons c cs => simp
  rcases hnetwork : preferredIp ((Agent.hostAddresses interfaces).map Agent.Cidr.network) with _ | a
  · rw [hboth.mp hnetwork]
    exact iff_of_true rfl rfl
  · rcases hip : preferredIp ((Agent.hostAddresses interfaces).map Agent.Cidr.ip) with _ | b
    · rw [hboth.mpr hip] at hnetwork
      cases hnetwork
    · show some a.str = some b.str ↔ some a = some b
      rw [Option.some.injEq, Option.some.injEq]
      exact ⟨Ipv4.str_injective, congrArg _⟩

/-! ## A host in a home network -/

/-- `192.168.1.10`. -/
def homeAddress : Ipv4 := 0xC0A8010A

/-- An ethernet interface with that address, and a link-local one. -/
def ethernet (len : Fin 33) : Agent.Interface where
  name := .ofString "eth0"
  hardwareAddr := [0x00, 0x11, 0x22, 0x33, 0x44, 0x55]
  up := true
  loopback := false
  mtu := 1500
  addrs := some [.v4 homeAddress len, .v6 0xfe800000000000000000000000000001 64]

/-- The session of a device that has just connected. -/
def connected : World := .start { Db.empty with devices := [.sample 1] } (.sample 1)

/-- With a prefix of 32 bits the network is the address. -/
theorem address_reported_single :
    ∃ infos w', Agent.collectNetworkInfo [ethernet 32] = some infos ∧
      handleNetworkInfo Env.sample (Agent.NetworkInfoData.encode ⟨some infos⟩) connected =
        (.ok (), w') ∧
      (ShowsAddress [ethernet 32] connected.device w'.device ↔
        NetworkChosen (Agent.hostAddresses [ethernet 32])) := by
  obtain ⟨w', hrun⟩ := @handleNetworkInfo_ok Env.sample connected
    (World.start_clean _ _).toSettled [(ethernet 32).report
      [.v4 homeAddress 32, .v6 0xfe800000000000000000000000000001 64]]
  exact ⟨_, w', rfl, hrun, address_reported_iff rfl hrun⟩

/-- With any other one it is not: the device is shown as `192.168.1.0`. -/
theorem network_shown_as_address :
    ∃ infos w', Agent.collectNetworkInfo [ethernet 24] = some infos ∧
      handleNetworkInfo Env.sample (Agent.NetworkInfoData.encode ⟨some infos⟩) connected =
        (.ok (), w') ∧
      w'.device.ipAddress = some "192.168.1.0" ∧
      expectedAddress [ethernet 24] = some homeAddress ∧ homeAddress.str = "192.168.1.10" ∧
      ¬ ShowsAddress [ethernet 24] connected.device w'.device := by
  obtain ⟨w', hrun⟩ := @handleNetworkInfo_ok Env.sample connected
    (World.start_clean _ _).toSettled [(ethernet 24).report
      [.v4 homeAddress 24, .v6 0xfe800000000000000000000000000001 64]]
  have hchosen : preferredIp ((Agent.hostAddresses [ethernet 24]).map Agent.Cidr.network) =
      some 0xC0A80100 := by decide +kernel
  have hexpected : expectedAddress [ethernet 24] = some homeAddress := by decide +kernel
  have hshown : w'.device.ipAddress = some "192.168.1.0" := by
    rw [@shown_address Env.sample [ethernet 24] _ _ _ rfl hrun, hchosen]
    decide +kernel
  have htext : homeAddress.str = "192.168.1.10" := by decide +kernel
  refine ⟨_, w', rfl, hrun, hshown, hexpected, htext, ?_⟩
  rw [ShowsAddress, hshown, hexpected]
  show ¬ some "192.168.1.0" = some homeAddress.str
  rw [htext]
  decide

end Server

end Dtsys
