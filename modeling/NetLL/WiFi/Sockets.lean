import NetLL.Library.Handles
import NetLL.WiFi.AccessPoint

namespace NetLL
namespace WiFi
namespace RP2040
namespace AccessPoint

/-!
# The sockets of the DHCP and DNS servers

Each server keeps a pointer to one UDP PCB of lwIP.  The callback of the start
makes the PCBs and writes both pointers without a look at what they were, and
the callback of the stop removes what they point to.  Between the callbacks the
lwIP thread hands the datagrams that come in to the functions of the servers.
A reply goes out on the PCB that the server has then, whichever one the
datagram came in on.

The allocation and the binding of a PCB can fail.  A failed assertion behind the
binding ends the program, and here the program goes on, as it does without
assertions.
-/

open Handles

inductive Server where
  | dhcp
  | dns
deriving DecidableEq, Repr

/-- `struct udp_pcb *`. -/
abbrev Pcb := Nat

/-- What lwIP was told about a PCB. -/
structure Setup where
  /-- Whose function was given to `udp_recv`. -/
  receiver : Option Server
  /-- It has a port. -/
  bound : Bool
  /-- It serves one interface, from `udp_bind_netif`. -/
  onNetif : Bool
deriving DecidableEq, Repr

/-- A PCB of `udp_new`. -/
def Setup.new : Setup where
  receiver := none
  bound := false
  onNetif := false

/-- The results of `udp_new`, with `none` for `NULL`, and of `udp_bind`. -/
structure Opening where
  pcb : Option Pcb
  binds : Bool
deriving DecidableEq, Repr

/-! ## The functions -/

/-- `udp_new` and `udp_recv` of a socket, when there is memory. -/
def socketNewDgram (server : Server) (pcb : Pcb) : List (Act Pcb Setup) :=
  [.gain pcb .new, .move pcb .new ⟨some server, false, false⟩]

/-- `dhcp_socket_new_dgram`. -/
def dhcpSocketNewDgram (pcb : Pcb) : List (Act Pcb Setup) :=
  socketNewDgram .dhcp pcb

/-- `dns_socket_new_dgram`. -/
def dnsSocketNewDgram (pcb : Pcb) : List (Act Pcb Setup) :=
  socketNewDgram .dns pcb

/-- `dhcp_socket_bind` and `dns_socket_bind`, with the success of `udp_bind`. -/
def socketBind (server : Server) (pcb : Pcb) (binds : Bool) : List (Act Pcb Setup) :=
  [.move pcb ⟨some server, false, false⟩ ⟨some server, binds, false⟩]

/-- `udp_bind_netif`. -/
def udpBindNetif (server : Server) (pcb : Pcb) (bound : Bool) : List (Act Pcb Setup) :=
  [.move pcb ⟨some server, bound, false⟩ ⟨some server, bound, true⟩]

/-- `dhcp_socket_free` and `dns_socket_free`. -/
def socketFree (udp : Option Pcb) : List (Act Pcb Setup) :=
  match udp with
  | none => []
  | some pcb => [.drop pcb]

/-- `dhcp_server_init`, which does not look at the result of the binding. -/
def dhcpServerInit (opening : Opening) : List (Act Pcb Setup) :=
  match opening.pcb with
  | none => []
  | some pcb =>
      dhcpSocketNewDgram pcb ++ socketBind .dhcp pcb opening.binds ++
        udpBindNetif .dhcp pcb opening.binds

/-- `dns_server_init`. -/
def dnsServerInit (opening : Opening) : List (Act Pcb Setup) :=
  match opening.pcb with
  | none => []
  | some pcb =>
      dnsSocketNewDgram pcb ++ socketBind .dns pcb opening.binds ++
        if opening.binds then udpBindNetif .dns pcb true else []

/-- `dhcp_server_deinit`. -/
def dhcpServerDeinit (udp : Option Pcb) : List (Act Pcb Setup) :=
  socketFree udp

/-- `dns_server_deinit`. -/
def dnsServerDeinit (udp : Option Pcb) : List (Act Pcb Setup) :=
  socketFree udp

/-- `dhcp_socket_sendto` and `dns_socket_sendto`.  lwIP refuses `NULL`, and it
gives a port to a PCB that has none. -/
def socketSendto (held : Store Pcb Setup) (udp : Option Pcb) : List (Act Pcb Setup) :=
  match udp with
  | none => []
  | some pcb =>
      [.move pcb ((held pcb).getD .new) { (held pcb).getD .new with bound := true }]

/-! ## The calls of the lwIP thread -/

/-- The pointers of the servers, and the PCBs of lwIP. -/
structure Pcbs where
  /-- `dhcpServer.udp` and `dnsServer.udp`. -/
  udp : Server → Option Pcb
  held : Store Pcb Setup

/-- What the lwIP thread does to the servers. -/
inductive Call where
  /-- It does not call them, or they do not touch their sockets. -/
  | pass
  /-- `StartAccessPointDhcpDns`. -/
  | start (dhcp dns : Opening)
  /-- `StopAccessPointDhcp`. -/
  | stop
  /-- A server answers. -/
  | answer (server : Server)
deriving DecidableEq, Repr

/-- The two callbacks. -/
def Callback.call (dhcp dns : Opening) : Callback → Call
  | .startAccessPointDhcpDns => .start dhcp dns
  | .stopAccessPointDhcp => .stop

namespace Pcbs

def initial : Pcbs where
  udp := fun _ => none
  held := .empty

def acts (pcbs : Pcbs) : Call → List (Act Pcb Setup)
  | .pass => []
  | .start dhcp dns => dhcpServerInit dhcp ++ dnsServerInit dns
  | .stop => dnsServerDeinit (pcbs.udp .dns) ++ dhcpServerDeinit (pcbs.udp .dhcp)
  | .answer server => socketSendto pcbs.held (pcbs.udp server)

def udpBehind (pcbs : Pcbs) : Call → Server → Option Pcb
  | .start dhcp _, .dhcp => dhcp.pcb
  | .start _ dns, .dns => dns.pcb
  | .stop, _ => none
  | .pass, server => pcbs.udp server
  | .answer _, server => pcbs.udp server

def after (pcbs : Pcbs) (call : Call) : Pcbs where
  udp := pcbs.udpBehind call
  held := final pcbs.held (pcbs.acts call)

/-- The server that lwIP hands the datagrams of a PCB. -/
def receiver (pcbs : Pcbs) (pcb : Pcb) : Option Server :=
  match pcbs.held pcb with
  | none => none
  | some setup => if setup.bound then setup.receiver else none

end Pcbs

structure Sockets where
  point : State
  pcbs : Pcbs

inductive Event where
  /-- The application does something. -/
  | act (action : Action)
  /-- The lwIP thread runs the next callback. -/
  | callback (dhcp dns : Opening)
  /-- A datagram comes in, and its server answers it or not. -/
  | datagram (pcb : Pcb) (answered : Bool)
deriving DecidableEq

namespace Sockets

def initial : Sockets where
  point := .initial
  pcbs := .initial

/-- Where an event leaves the access point, and what it calls. -/
def called (sockets : Sockets) : Event → Option (State × Call)
  | .act .process => none
  | .act action => (AccessPoint.step sockets.point action).map fun point => (point, .pass)
  | .callback dhcp dns =>
      match sockets.point.pending with
      | [] => none
      | callback :: _ =>
          (process sockets.point).map fun point => (point, callback.call dhcp dns)
  | .datagram pcb answered =>
      match sockets.pcbs.receiver pcb with
      | none => none
      | some server => some (sockets.point, if answered then .answer server else .pass)

/-- One event.  `udp_new` gives no PCB that is in use. -/
def step (sockets : Sockets) (event : Event) : Option Sockets :=
  match sockets.called event with
  | none => none
  | some (point, call) =>
      if AllGiven sockets.pcbs.held (sockets.pcbs.acts call) then
        some { point, pcbs := sockets.pcbs.after call }
      else none

end Sockets

/-! ## What should hold -/

namespace Pcbs

/-- The pointer of a server is to a PCB that is held and receives for it. -/
def Live (pcbs : Pcbs) : Prop :=
  ∀ server pcb, pcbs.udp server = some pcb →
    ∃ setup, pcbs.held pcb = some setup ∧ setup.receiver = some server

/-- A PCB that is held, and that no pointer leads to. -/
def Lost (pcbs : Pcbs) (pcb : Pcb) : Prop :=
  pcbs.held pcb ≠ none ∧ ∀ server, pcbs.udp server ≠ some pcb

/-- No PCB is lost. -/
def Accounted (pcbs : Pcbs) : Prop :=
  ∀ pcb, ¬ pcbs.Lost pcb

/-- A start finds no sockets. -/
def Free (pcbs : Pcbs) (call : Call) : Prop :=
  ∀ dhcp dns, call = .start dhcp dns → ∀ server, pcbs.udp server = none

/-- A PCB with a port serves one interface. -/
def Confined (pcbs : Pcbs) : Prop :=
  ∀ pcb setup, pcbs.held pcb = some setup → setup.bound = true → setup.onNetif = true

theorem initial_live : initial.Live :=
  fun _ _ leads => by cases leads

theorem initial_accounted : initial.Accounted :=
  fun _ lost => lost.1 rfl

/-! ## The calls -/

/-- The socket that is behind an initialization. -/
def made (server : Server) (opening : Opening) (onNetif : Bool) : Store Pcb Setup :=
  match opening.pcb with
  | none => .empty
  | some pcb => .single pcb ⟨some server, opening.binds, onNetif⟩

theorem made_eq_some_iff {server : Server} {opening : Opening} {onNetif : Bool} {pcb : Pcb}
    {setup : Setup} : made server opening onNetif pcb = some setup ↔
      opening.pcb = some pcb ∧ setup = ⟨some server, opening.binds, onNetif⟩ := by
  rcases opening with ⟨_ | new, binds⟩
  · exact iff_of_false (by rintro ⟨⟩) (by rintro ⟨⟨⟩, _⟩)
  · change (if pcb = new then some _ else none) = some setup ↔ some new = some pcb ∧ _
    rw [Option.some.injEq]
    split
    · rename_i same
      rw [Option.some.injEq, eq_comm (a := setup)]
      exact (and_iff_right same.symm).symm
    · rename_i other
      exact iff_of_false (by rintro ⟨⟩) fun both => other both.1.symm

theorem socketBind_turns (server : Server) (pcb : Pcb) (binds : Bool) :
    Turns .empty (socketNewDgram server pcb ++ socketBind server pcb binds)
      (.single pcb ⟨some server, binds, false⟩) :=
  ((Turns.gain pcb _).append (.move pcb _ _)).append (.move pcb _ _)

theorem dhcpServerInit_turns (opening : Opening) :
    Turns .empty (dhcpServerInit opening) (made .dhcp opening true) := by
  rcases opening with ⟨_ | pcb, binds⟩
  · exact .nil _
  · exact (socketBind_turns .dhcp pcb binds).append (.move pcb _ _)

theorem dnsServerInit_turns (opening : Opening) :
    Turns .empty (dnsServerInit opening) (made .dns opening opening.binds) := by
  rcases opening with ⟨_ | pcb, binds⟩
  · exact .nil _
  · cases binds with
    | false => exact (socketBind_turns .dns pcb false).append (.nil _)
    | true => exact (socketBind_turns .dns pcb true).append (.move pcb _ _)

theorem start_framed {pcbs : Pcbs} {dhcp dns : Opening}
    (given : AllGiven pcbs.held (pcbs.acts (.start dhcp dns))) :
    AllAllowed pcbs.held (pcbs.acts (.start dhcp dns)) ∧
      (pcbs.after (.start dhcp dns)).held =
        (made .dns dns dns.binds).join ((made .dhcp dhcp true).join pcbs.held) ∧
      (made .dhcp dhcp true).Apart pcbs.held ∧
      (made .dns dns dns.binds).Apart ((made .dhcp dhcp true).join pcbs.held) := by
  change AllGiven pcbs.held (dhcpServerInit dhcp ++ dnsServerInit dns) at given
  change AllAllowed pcbs.held (dhcpServerInit dhcp ++ dnsServerInit dns) ∧
    final pcbs.held (dhcpServerInit dhcp ++ dnsServerInit dns) = _ ∧ _
  rw [allGiven_append] at given
  rcases (dhcpServerInit_turns dhcp).framed (Store.empty_apart _) given.1 with
    ⟨allowed, first, apart⟩
  rw [Store.empty_join] at allowed first
  have givenDns := given.2
  rw [first] at givenDns
  rcases (dnsServerInit_turns dns).framed (Store.empty_apart _) givenDns with
    ⟨allowedDns, second, apartDns⟩
  rw [Store.empty_join] at allowedDns second
  rw [allAllowed_append, final_append, first]
  exact ⟨⟨allowed, allowedDns⟩, second, apart, apartDns⟩

/-- Behind a start the PCBs are the new ones and those of before. -/
theorem start_held_iff {pcbs : Pcbs} {dhcp dns : Opening}
    (given : AllGiven pcbs.held (pcbs.acts (.start dhcp dns))) {pcb : Pcb} {setup : Setup} :
    (pcbs.after (.start dhcp dns)).held pcb = some setup ↔
      (dns.pcb = some pcb ∧ setup = ⟨some .dns, dns.binds, dns.binds⟩) ∨
        (dhcp.pcb = some pcb ∧ setup = ⟨some .dhcp, dhcp.binds, true⟩) ∨
          pcbs.held pcb = some setup := by
  rcases start_framed given with ⟨_, behind, apart, apartDns⟩
  rw [behind, apartDns.join_eq_some_iff, apart.join_eq_some_iff, made_eq_some_iff,
    made_eq_some_iff]

theorem start_fresh {pcbs : Pcbs} {dhcp dns : Opening}
    (given : AllGiven pcbs.held (pcbs.acts (.start dhcp dns))) {pcb : Pcb} {server : Server}
    (opened : pcbs.udpBehind (.start dhcp dns) server = some pcb) : pcbs.held pcb = none := by
  rcases start_framed given with ⟨_, _, apart, apartDns⟩
  cases server with
  | dhcp =>
      have new : made .dhcp dhcp true pcb = some _ := made_eq_some_iff.mpr ⟨opened, rfl⟩
      exact (apart pcb).resolve_left (Option.ne_none_iff_exists'.mpr ⟨_, new⟩)
  | dns =>
      have new : made .dns dns dns.binds pcb = some _ := made_eq_some_iff.mpr ⟨opened, rfl⟩
      have free := (apartDns pcb).resolve_left (Option.ne_none_iff_exists'.mpr ⟨_, new⟩)
      exact (Option.or_eq_none_iff.mp free).2

theorem socketFree_held {held : Store Pcb Setup} {udp : Option Pcb}
    (live : ∀ pcb, udp = some pcb → held pcb ≠ none) :
    AllAllowed held (socketFree udp) ∧ ∀ pcb,
      final held (socketFree udp) pcb = if udp = some pcb then none else held pcb := by
  cases udp with
  | none => exact ⟨trivial, fun _ => (if_neg (by rintro ⟨⟩)).symm⟩
  | some freed =>
      refine ⟨⟨live freed rfl, trivial⟩, fun pcb => ?_⟩
      change Function.update held freed none pcb = _
      by_cases same : freed = pcb
      · rw [if_pos (congrArg some same), same, Function.update_self]
      · rw [if_neg (same ∘ Option.some.inj), Function.update_of_ne (Ne.symm same)]

/-- Behind a stop the PCBs are those that no pointer led to. -/
theorem stop_held {pcbs : Pcbs} (live : pcbs.Live) :
    AllAllowed pcbs.held (pcbs.acts .stop) ∧ ∀ pcb setup,
      (pcbs.after .stop).held pcb = some setup ↔
        pcbs.held pcb = some setup ∧ ∀ server, pcbs.udp server ≠ some pcb := by
  have dns := @socketFree_held pcbs.held (pcbs.udp .dns) fun pcb leads => by
    rcases live .dns pcb leads with ⟨setup, held, _⟩
    exact Option.ne_none_iff_exists'.mpr ⟨setup, held⟩
  have dhcp := @socketFree_held (final pcbs.held (dnsServerDeinit (pcbs.udp .dns)))
    (pcbs.udp .dhcp) fun pcb leads => by
      rcases live .dhcp pcb leads with ⟨setup, held, receives⟩
      have other : pcbs.udp .dns ≠ some pcb := by
        intro same
        rcases live .dns pcb same with ⟨_, heldToo, receivesDns⟩
        rw [held, Option.some.injEq] at heldToo
        rw [← heldToo, receives] at receivesDns
        cases receivesDns
      rw [dnsServerDeinit, dns.2, if_neg other, held]
      exact Option.some_ne_none _
  constructor
  · exact (allAllowed_append _ _ _).mpr ⟨dns.1, dhcp.1⟩
  · intro pcb setup
    change final pcbs.held (dnsServerDeinit _ ++ dhcpServerDeinit _) pcb = _ ↔ _
    rw [final_append, dhcpServerDeinit, dhcp.2, dnsServerDeinit, dns.2]
    constructor
    · intro kept
      split at kept
      · cases kept
      · rename_i notDhcp
        split at kept
        · cases kept
        · rename_i notDns
          refine ⟨kept, fun server => ?_⟩
          cases server with
          | dhcp => exact notDhcp
          | dns => exact notDns
    · rintro ⟨held, unused⟩
      rw [if_neg (unused .dhcp), if_neg (unused .dns)]
      exact held

/-- A reply gives a port to the PCB that it goes out on. -/
theorem answer_held {pcbs : Pcbs} (live : pcbs.Live) (server : Server) :
    AllAllowed pcbs.held (pcbs.acts (.answer server)) ∧ ∀ pcb,
      (pcbs.after (.answer server)).held pcb =
        if pcbs.udp server = some pcb then
          (pcbs.held pcb).map fun setup => { setup with bound := true }
        else pcbs.held pcb := by
  change AllAllowed pcbs.held (socketSendto pcbs.held (pcbs.udp server)) ∧ ∀ pcb,
    final pcbs.held (socketSendto pcbs.held (pcbs.udp server)) pcb = _
  cases leads : pcbs.udp server with
  | none => exact ⟨trivial, fun _ => (if_neg (by rintro ⟨⟩)).symm⟩
  | some own =>
      rcases live server own leads with ⟨setup, held, _⟩
      rw [socketSendto, held, Option.getD_some]
      refine ⟨⟨held, trivial⟩, fun pcb => ?_⟩
      change Function.update pcbs.held own _ pcb = _
      by_cases same : own = pcb
      · rw [if_pos (congrArg some same), ← same, Function.update_self, held, Option.map_some]
      · rw [if_neg (same ∘ Option.some.inj), Function.update_of_ne (Ne.symm same)]

/-- Every call finds the PCBs that it uses, and the pointers stay right. -/
theorem Live.after {pcbs : Pcbs} (live : pcbs.Live) {call : Call}
    (given : AllGiven pcbs.held (pcbs.acts call)) :
    AllAllowed pcbs.held (pcbs.acts call) ∧ (pcbs.after call).Live := by
  cases call with
  | pass => exact ⟨trivial, live⟩
  | start dhcp dns =>
      refine ⟨(start_framed given).1, fun server pcb leads => ?_⟩
      cases server with
      | dhcp => exact ⟨_, (start_held_iff given).mpr (Or.inr (Or.inl ⟨leads, rfl⟩)), rfl⟩
      | dns => exact ⟨_, (start_held_iff given).mpr (Or.inl ⟨leads, rfl⟩), rfl⟩
  | stop => exact ⟨(stop_held live).1, fun _ _ leads => by cases leads⟩
  | answer own =>
      refine ⟨(answer_held live own).1, fun server pcb leads => ?_⟩
      rcases live server pcb leads with ⟨setup, held, receives⟩
      rw [(answer_held live own).2]
      split
      · rw [held]
        exact ⟨_, rfl, receives⟩
      · exact ⟨setup, held, receives⟩

/-- A start loses what is there before it. -/
theorem lost_of_start {pcbs : Pcbs} {dhcp dns : Opening}
    (given : AllGiven pcbs.held (pcbs.acts (.start dhcp dns))) {pcb : Pcb} {setup : Setup}
    (held : pcbs.held pcb = some setup) : (pcbs.after (.start dhcp dns)).Lost pcb := by
  have kept := (start_held_iff given).mpr (Or.inr (Or.inr held))
  refine ⟨Option.ne_none_iff_exists'.mpr ⟨setup, kept⟩, fun server leads => ?_⟩
  rw [start_fresh given leads] at held
  cases held

/-- What is lost stays lost. -/
theorem Lost.after {pcbs : Pcbs} {pcb : Pcb} (lost : pcbs.Lost pcb) (live : pcbs.Live)
    {call : Call} (given : AllGiven pcbs.held (pcbs.acts call)) : (pcbs.after call).Lost pcb := by
  rcases Option.ne_none_iff_exists'.mp lost.1 with ⟨setup, held⟩
  cases call with
  | pass => exact lost
  | start dhcp dns => exact lost_of_start given held
  | stop =>
      have kept := ((stop_held live).2 pcb setup).mpr ⟨held, lost.2⟩
      exact ⟨Option.ne_none_iff_exists'.mpr ⟨setup, kept⟩, fun _ leads => by cases leads⟩
  | answer own =>
      refine ⟨?_, lost.2⟩
      rw [(answer_held live own).2, if_neg (lost.2 own)]
      exact lost.1

theorem Accounted.used {pcbs : Pcbs} (accounted : pcbs.Accounted) {pcb : Pcb} {setup : Setup}
    (held : pcbs.held pcb = some setup) : ∃ server, pcbs.udp server = some pcb := by
  by_contra unused
  exact accounted pcb ⟨Option.ne_none_iff_exists'.mpr ⟨setup, held⟩, not_exists.mp unused⟩

theorem Accounted.after {pcbs : Pcbs} (accounted : pcbs.Accounted) (live : pcbs.Live)
    {call : Call} (given : AllGiven pcbs.held (pcbs.acts call)) (free : pcbs.Free call) :
    (pcbs.after call).Accounted := by
  intro pcb lost
  rcases Option.ne_none_iff_exists'.mp lost.1 with ⟨setup, held⟩
  cases call with
  | pass => exact accounted pcb lost
  | start dhcp dns =>
      rcases (start_held_iff given).mp held with ⟨new, _⟩ | ⟨new, _⟩ | before
      · exact lost.2 .dns new
      · exact lost.2 .dhcp new
      · rcases accounted.used before with ⟨server, leads⟩
        rw [free dhcp dns rfl server] at leads
        cases leads
  | stop =>
      rcases ((stop_held live).2 pcb setup).mp held with ⟨before, unused⟩
      rcases accounted.used before with ⟨server, leads⟩
      exact unused server leads
  | answer own =>
      have unused : pcbs.udp own ≠ some pcb := lost.2 own
      rw [(answer_held live own).2, if_neg unused] at held
      exact accounted pcb ⟨Option.ne_none_iff_exists'.mpr ⟨setup, held⟩, lost.2⟩

/-- A call loses nothing exactly when it is no start on top of another one. -/
theorem Live.accounted_after_iff {pcbs : Pcbs} (live : pcbs.Live) {call : Call}
    (given : AllGiven pcbs.held (pcbs.acts call)) :
    (pcbs.after call).Accounted ↔ pcbs.Accounted ∧ pcbs.Free call := by
  constructor
  · intro accounted
    refine ⟨fun pcb lost => accounted pcb (lost.after live given), ?_⟩
    rintro dhcp dns rfl server
    cases leads : pcbs.udp server with
    | none => rfl
    | some pcb =>
        rcases live server pcb leads with ⟨setup, held, _⟩
        exact absurd (lost_of_start given held) (accounted pcb)
  · rintro ⟨accounted, free⟩
    exact accounted.after live given free

theorem bound_of_receiver {pcbs : Pcbs} {pcb : Pcb} {setup : Setup} {server : Server}
    (held : pcbs.held pcb = some setup) (receives : pcbs.receiver pcb = some server) :
    setup.bound = true := by
  rw [receiver, held] at receives
  cases bound : setup.bound with
  | true => rfl
  | false =>
      simp only [bound] at receives
      cases receives

/-- With nothing lost, a datagram comes in on the PCB that its server has. -/
theorem Accounted.udp_eq_of_receiver {pcbs : Pcbs} (accounted : pcbs.Accounted)
    (live : pcbs.Live) {pcb : Pcb} {server : Server} (receives : pcbs.receiver pcb = some server) :
    pcbs.udp server = some pcb := by
  unfold receiver at receives
  split at receives
  · cases receives
  · rename_i setup held
    split at receives
    · rcases accounted.used held with ⟨other, leads⟩
      rcases live other pcb leads with ⟨_, heldToo, receivesToo⟩
      rw [held, Option.some.injEq] at heldToo
      rw [← heldToo, receives, Option.some.injEq] at receivesToo
      rw [receivesToo]
      exact leads
    · cases receives

/-- A reply that goes out on the PCB of its datagram opens nothing. -/
theorem Confined.after {pcbs : Pcbs} (confined : pcbs.Confined) (live : pcbs.Live) {call : Call}
    (given : AllGiven pcbs.held (pcbs.acts call))
    (ready : ∀ server, call = .answer server → ∀ pcb, pcbs.udp server = some pcb →
      pcbs.receiver pcb = some server) : (pcbs.after call).Confined := by
  intro pcb setup held bound
  cases call with
  | pass => exact confined pcb setup held bound
  | start dhcp dns =>
      rcases (start_held_iff given).mp held with ⟨_, rfl⟩ | ⟨_, rfl⟩ | before
      · exact bound
      · rfl
      · exact confined pcb setup before bound
  | stop => exact confined pcb setup (((stop_held live).2 pcb setup).mp held).1 bound
  | answer server =>
      rw [(answer_held live server).2] at held
      split at held
      · rename_i leads
        rcases Option.map_eq_some_iff.mp held with ⟨before, heldBefore, rfl⟩
        exact confined pcb before heldBefore
          (bound_of_receiver heldBefore (ready server rfl pcb leads))
      · exact confined pcb setup held bound

end Pcbs

/-! ## Events -/

/-- The application leaves the interface alone, and it only adds to the pending
callbacks. -/
theorem step_act {state next : State} {action : Action} (other : action ≠ .process)
    (taken : step state action = some next) :
    next.netif = state.netif ∧ ∃ posted, next.pending = state.pending ++ posted := by
  have same {after : State} (netif : after.netif = state.netif)
      (pending : after.pending = state.pending) :
      after.netif = state.netif ∧ ∃ posted, after.pending = state.pending ++ posted :=
    ⟨netif, [], pending.trans (List.append_nil _).symm⟩
  have posted (before : State) (netif : before.netif = state.netif)
      (pending : before.pending = state.pending) (callback : Callback) (queued : Bool) :
      (tcpipCallback before callback queued).netif = state.netif ∧
        ∃ posted, (tcpipCallback before callback queued).pending = state.pending ++ posted := by
    cases queued with
    | false => exact same netif pending
    | true => exact ⟨netif, [callback], congrArg (· ++ [callback]) pending⟩
  cases action with
  | process => exact absurd rfl other
  | proceed =>
      change proceed state = some next at taken
      unfold proceed at taken
      split at taken <;> cases taken <;> exact same rfl rfl
  | _ =>
      cases app : state.app with
      | idle =>
          simp only [step, app, callStep, Option.some.injEq] at taken
          subst taken
          simp only [wifiInitialize, wifiDeinitialize, wifiAccessPointStart, wifiAccessPointStop]
          repeat' split
          all_goals first
            | exact same rfl rfl
            | refine posted _ ?_ ?_ _ _ <;> rfl
      | _ =>
          simp only [step, app] at taken
          cases taken

theorem netif_of_process {state next : State} {callback : Callback} {rest : List Callback}
    (pending : state.pending = callback :: rest) (taken : process state = some next) :
    next.netif = callback.netif := by
  rw [process, pending] at taken
  cases taken
  rfl

namespace Sockets

/-- What an event can be. -/
theorem called_cases {sockets : Sockets} {event : Event} {point : State} {call : Call}
    (called : sockets.called event = some (point, call)) :
    (∃ action, event = .act action ∧ action ≠ .process ∧
        AccessPoint.step sockets.point action = some point ∧ call = .pass) ∨
      (∃ dhcp dns callback rest, event = .callback dhcp dns ∧
        sockets.point.pending = callback :: rest ∧ process sockets.point = some point ∧
        call = callback.call dhcp dns) ∨
      ∃ pcb answered server, event = .datagram pcb answered ∧
        sockets.pcbs.receiver pcb = some server ∧ point = sockets.point ∧
        call = if answered then .answer server else .pass := by
  cases event with
  | act action =>
      refine Or.inl ⟨action, rfl, ?_⟩
      cases action with
      | process => cases called
      | _ =>
          rcases Option.map_eq_some_iff.mp called with ⟨other, taken, equal⟩
          cases equal
          exact ⟨Action.noConfusion, taken, rfl⟩
  | callback dhcp dns =>
      cases pending : sockets.point.pending with
      | nil =>
          simp only [Sockets.called, pending] at called
          cases called
      | cons callback rest =>
          simp only [Sockets.called, pending] at called
          rcases Option.map_eq_some_iff.mp called with ⟨other, taken, equal⟩
          cases equal
          exact Or.inr (Or.inl ⟨dhcp, dns, callback, rest, rfl, rfl, taken, rfl⟩)
  | datagram pcb answered =>
      cases receives : sockets.pcbs.receiver pcb with
      | none =>
          simp only [Sockets.called, receives] at called
          cases called
      | some server =>
          simp only [Sockets.called, receives] at called
          cases called
          exact Or.inr (Or.inr ⟨pcb, answered, server, rfl, receives, rfl, rfl⟩)

theorem step_cases {sockets next : Sockets} {event : Event}
    (taken : step sockets event = some next) :
    ∃ point call, sockets.called event = some (point, call) ∧
      AllGiven sockets.pcbs.held (sockets.pcbs.acts call) ∧
      next = { point, pcbs := sockets.pcbs.after call } := by
  unfold step at taken
  split at taken
  · cases taken
  · rename_i point call called
    split at taken
    · rename_i given
      cases taken
      exact ⟨point, call, called, given, rfl⟩
    · cases taken

/-! ## Every run -/

/-- Each PCB that an event uses or removes is in use. -/
def Allowed (sockets : Sockets) (event : Event) : Prop :=
  ∀ point call, sockets.called event = some (point, call) →
    AllGiven sockets.pcbs.held (sockets.pcbs.acts call) →
      AllAllowed sockets.pcbs.held (sockets.pcbs.acts call)

/-- The event is no start of servers that have sockets. -/
def StartsFree (sockets : Sockets) (event : Event) : Prop :=
  ∀ point call, sockets.called event = some (point, call) → sockets.pcbs.Free call

theorem step_live {sockets next : Sockets} {event : Event} (live : sockets.pcbs.Live)
    (taken : step sockets event = some next) : next.pcbs.Live := by
  rcases step_cases taken with ⟨point, call, _, given, rfl⟩
  exact (live.after given).2

theorem step_accounted_iff {sockets next : Sockets} {event : Event} (live : sockets.pcbs.Live)
    (taken : step sockets event = some next) :
    next.pcbs.Accounted ↔ sockets.pcbs.Accounted ∧ sockets.StartsFree event := by
  rcases step_cases taken with ⟨point, call, called, given, rfl⟩
  refine (live.accounted_after_iff given).trans (and_congr_right fun _ => ?_)
  constructor
  · intro free other otherCall again
    rw [called] at again
    cases again
    exact free
  · exact fun free => free point call called

/-- In every run, posts that fail included, no PCB is used that is not held, and
none is removed twice.  The PCBs that are held are those that the servers can
still remove exactly when each start found no sockets. -/
theorem pcbs_accounted {events : List Event} {final : Sockets}
    (reached : Transition.run step initial events = some final) :
    (∀ event, final.Allowed event) ∧
      (final.pcbs.Accounted ↔ Transition.Guarded step StartsFree initial events) := by
  have preserved : ∀ sockets event next, sockets.pcbs.Live → step sockets event = some next →
      next.pcbs.Live := fun _ _ _ live taken => step_live live taken
  have live : final.pcbs.Live :=
    Transition.invariant_reached preserved Pcbs.initial_live reached
  constructor
  · exact fun event point call _ given => (live.after given).1
  · exact (Transition.good_iff_guarded preserved
      (fun _ _ _ live taken => step_accounted_iff live taken) Pcbs.initial_live reached).trans
      (and_iff_right Pcbs.initial_accounted)

/-- A stop whose post fails, and a start behind it. -/
def startedTwice : List Event :=
  [.act (.initializeWiFi true), .act (.accessPointStart (some (.literal "net")) none true),
    .act .proceed, .callback ⟨some 1, true⟩ ⟨some 2, true⟩, .datagram 1 true,
    .act (.accessPointStop false), .act .proceed,
    .act (.accessPointStart (some (.literal "net")) none true), .act .proceed,
    .callback ⟨some 3, false⟩ ⟨some 4, false⟩, .datagram 1 true]

/-- The first PCBs are lost, and their datagrams are answered on the new ones. -/
theorem startedTwice_loses : ∃ final, Transition.run step initial startedTwice = some final ∧
    (∀ event, final.Allowed event) ∧ ¬ final.pcbs.Accounted ∧
    ¬ Transition.Guarded step StartsFree initial startedTwice := by
  have reached : ∃ final, Transition.run step initial startedTwice = some final ∧
      final.pcbs.Lost 1 :=
    ⟨_, rfl, by decide, by rintro (_ | _) <;> decide⟩
  rcases reached with ⟨final, reached, lost⟩
  have accounted := pcbs_accounted reached
  have loses : ¬ final.pcbs.Accounted := fun none_ => none_ 1 lost
  exact ⟨final, reached, accounted.1, loses, loses ∘ accounted.2.mpr⟩

/-! ## Posts that succeed -/

/-- A post of the application succeeds. -/
def PostsSucceed (sockets : Sockets) : Event → Prop
  | .act action => PostSucceeds sockets.point action
  | _ => True

instance (sockets : Sockets) : (event : Event) → Decidable (sockets.PostsSucceed event)
  | .act action => inferInstanceAs (Decidable (PostSucceeds sockets.point action))
  | .callback _ _ => .isTrue trivial
  | .datagram _ _ => .isTrue trivial

structure Served (sockets : Sockets) : Prop where
  consistent : Consistent sockets.point
  live : sockets.pcbs.Live
  accounted : sockets.pcbs.Accounted
  confined : sockets.pcbs.Confined
  off : sockets.point.netif = false → ∀ server, sockets.pcbs.udp server = none

theorem initial_served : initial.Served where
  consistent := initial_consistent
  live := Pcbs.initial_live
  accounted := Pcbs.initial_accounted
  confined := fun _ _ held => by cases held
  off := fun _ _ => rfl

/-- The callback of a start finds no sockets. -/
theorem Served.free_of_callback {sockets : Sockets} (served : sockets.Served)
    {callback : Callback} {rest : List Callback}
    (pending : sockets.point.pending = callback :: rest) (dhcp dns : Opening) :
    sockets.pcbs.Free (callback.call dhcp dns) := by
  intro newDhcp newDns starts
  cases callback with
  | startAccessPointDhcpDns =>
      have allowed := served.consistent.allowed
      rw [pending] at allowed
      exact served.off (allowed.1 rfl)
  | stopAccessPointDhcp => cases starts

theorem Served.next {sockets next : Sockets} {event : Event} (served : sockets.Served)
    (succeeds : sockets.PostsSucceed event) (taken : step sockets event = some next) :
    next.Served := by
  rcases step_cases taken with ⟨point, call, called, given, rfl⟩
  have live := (served.live.after given).2
  rcases called_cases called with ⟨action, rfl, other, acts, rfl⟩ |
    ⟨dhcp, dns, callback, rest, rfl, pending, runs, rfl⟩ |
    ⟨pcb, answered, server, rfl, receives, rfl, rfl⟩
  · refine ⟨step_consistent served.consistent succeeds acts, live, served.accounted,
      served.confined, fun off => served.off ?_⟩
    rw [← (step_act other acts).1]
    exact off
  · have free := served.free_of_callback pending dhcp dns
    refine ⟨process_consistent served.consistent runs, live,
      served.accounted.after served.live given free,
      served.confined.after served.live given ?_, fun off => ?_⟩
    · intro server answers
      cases callback <;> cases answers
    · change point.netif = false at off
      rw [netif_of_process pending runs] at off
      cases callback with
      | startAccessPointDhcpDns => cases off
      | stopAccessPointDhcp => exact fun _ => rfl
  · have own := served.accounted.udp_eq_of_receiver served.live receives
    refine ⟨served.consistent, live, served.accounted.after served.live given ?_,
      served.confined.after served.live given ?_, fun off other => ?_⟩
    · intro dhcp dns starts
      cases answered <;> cases starts
    · intro other answers target leads
      cases answered with
      | false => cases answers
      | true =>
          cases answers
          rw [own, Option.some.injEq] at leads
          rw [← leads]
          exact receives
    · cases answered <;> exact served.off off other

/-- In every run whose posts succeed, the servers can remove every PCB that is
held, each one with a port serves only its own interface, a datagram is answered
on the PCB that it came in on, and when the access point is stopped and no
callback is pending, no PCB is left. -/
theorem sockets_served {events : List Event} {final : Sockets}
    (guarded : Transition.Guarded step PostsSucceed initial events)
    (reached : Transition.run step initial events = some final) :
    final.pcbs.Accounted ∧ final.pcbs.Confined ∧
      (∀ pcb server, final.pcbs.receiver pcb = some server →
        final.pcbs.udp server = some pcb) ∧
      (final.point.app = .idle → final.point.pending = [] →
        wifiAccessPointIsRunning final.point = false → final.pcbs.held = .empty) := by
  have served : final.Served := Transition.invariant_run
    (fun _ _ _ served succeeds taken => served.next succeeds taken) initial_served guarded reached
  refine ⟨served.accounted, served.confined,
    fun _ _ receives => served.accounted.udp_eq_of_receiver served.live receives, ?_⟩
  intro idle empty stopped
  have settled := served.consistent.settled
  rw [empty, Mailbox.settled_nil, State.intended, idle] at settled
  change final.point.accessPointRunning = false at stopped
  simp only [stopped] at settled
  funext pcb
  cases held : final.pcbs.held pcb with
  | none => rfl
  | some setup =>
      rcases served.accounted.used held with ⟨server, leads⟩
      rw [served.off settled server] at leads
      cases leads

/-- A start and a stop, with a query in between. -/
def servedOnce : List Event :=
  [.act (.initializeWiFi true), .act (.accessPointStart (some (.literal "net")) none true),
    .act .proceed, .callback ⟨some 1, true⟩ ⟨some 2, true⟩, .datagram 2 true,
    .act (.accessPointStop true), .callback ⟨none, false⟩ ⟨none, false⟩, .act .proceed]

theorem servedOnce_leaves_none : ∃ final,
    Transition.run step initial servedOnce = some final ∧ final.pcbs.held = .empty := by
  have guarded : Transition.Guarded step PostsSucceed initial servedOnce := by decide
  exact ⟨_, rfl, (sockets_served guarded rfl).2.2.2 rfl rfl rfl⟩

end Sockets

end AccessPoint
end RP2040
end WiFi
end NetLL
