import Mathlib.Algebra.Order.Ring.Nat
import Mathlib.Order.Monotone.Defs
import NetLL.Dhcp.Decoding
import NetLL.Dhcp.Expiry
import NetLL.Library.Leases

namespace NetLL
namespace Dhcp

/-!
# An address has one holder

From its start on, the server takes packets one after the other, whatever they
are, and the clock does not go back.  What it sends is read as a client reads
it.  An address that was acknowledged to a hardware address is neither offered
nor acknowledged to another one for 24 hours, although a lease keeps its end in
sixteen bits and the clock starts over every seven weeks.

The server is a pool of leases in the sense of the library, whose times have no
end.  What the sixteen bits leave out of a time never matters, because a lease
that is running is nearer to its end than half a cycle of the clock.
-/

/-- The time of a lease, in milliseconds. -/
def leaseMs : Nat := 86400000

/-! ## The running server -/

/-- A packet, and what the server meets while it processes it.  The readings of
the clock are counted from the start of the device. -/
structure Delivery where
  packet : List UInt8
  stale : Block sizeofDhcpMsg
  allocated : Bool
  readings : Nat → Nat
  ended : Nat
  monotone : Monotone readings
  within : ∀ number, readings number ≤ ended

/-- A datagram that was sent, with the time of the first reading behind its
packet and a time behind the last one. -/
structure Sent where
  buf : List UInt8
  started : Nat
  time : Nat

/-- The server, with what it has sent and the lines about connected clients. -/
structure Host where
  server : DhcpServer
  now : Nat
  log : List Sent
  console : List (Block 6 × Block 4)

/-- The server behind its start. -/
def Host.start (ip nm : Block 4) (now : Nat) : Host where
  server := dhcpServerInit ip nm
  now := now
  log := []
  console := []

def Delivery.ticks (delivery : Delivery) (number : Nat) : UInt32 :=
  UInt32.ofNat (delivery.readings number)

/-- The datagrams among the events. -/
def Delivery.datagrams (delivery : Delivery) (events : List DhcpEvent) : List Sent :=
  events.filterMap fun
    | .sendto buf _ _ => some { buf, started := delivery.readings 0, time := delivery.ended }
    | .clientConnected _ _ _ => none

/-- The clients among the events, and their addresses. -/
def connected (events : List DhcpEvent) : List (Block 6 × Block 4) :=
  events.filterMap fun
    | .clientConnected mac address _ => some (mac, address)
    | .sendto _ _ _ => none

/-- A packet is taken when the one before it is done. -/
def step (host : Host) (delivery : Delivery) : Option Host :=
  if host.now ≤ delivery.readings 0 then
    match dhcpServerProcess host.server delivery.stale delivery.ticks delivery.allocated
        delivery.packet with
    | .done (server, events) =>
        some {
          server
          now := delivery.ended
          log := host.log ++ delivery.datagrams events
          console := host.console ++ connected events }
    | _ => none
  else none

/-- The packet is a whole message. -/
def Delivery.carrying (delivery : Delivery) (message : Message) : Delivery :=
  { delivery with packet := message.packet }

/-- A step of a server that is told what its client means.  It has no memory to
receive a packet in. -/
def serveStep (host : Host) (post : Delivery × Message) : Option Host :=
  if host.now ≤ post.1.readings 0 then
    let served := post.2.serve host.server post.1.ticks post.1.allocated
    some {
      server := served.1
      now := post.1.ended
      log := host.log ++ post.1.datagrams served.2
      console := host.console ++ connected served.2 }
  else none

theorem step_carrying (host : Host) (post : Delivery × Message) :
    step host (post.1.carrying post.2) = serveStep host post := by
  have served : dhcpServerProcess host.server post.1.stale post.1.ticks post.1.allocated
      post.2.packet = .done (post.2.serve host.server post.1.ticks post.1.allocated) :=
    post.2.dhcpServerProcess_eq host.server post.1.stale post.1.ticks post.1.allocated
  change (if host.now ≤ post.1.readings 0 then
    match dhcpServerProcess host.server post.1.stale post.1.ticks post.1.allocated
      post.2.packet with
    | .done (server, events) => some (_ : Host)
    | _ => none else none) = _
  rw [served]
  rfl

/-- In a run over whole messages the server does what its clients mean, one
after the other.  It leaves no message, and nothing that the memory held has a
part in it. -/
theorem run_carrying (host : Host) (posts : List (Delivery × Message)) :
    Transition.run step host (posts.map fun post => post.1.carrying post.2) =
      Transition.run serveStep host posts :=
  Transition.run_map step_carrying host posts

namespace Sent

/-- The type of the message. -/
def type (sent : Sent) : Option UInt8 :=
  (Options.lookup dhcpOptMsgType (Options.parse (sent.buf.drop 240))).bind List.head?

/-- The hardware address that it is for. -/
def mac (sent : Sent) : List UInt8 :=
  (sent.buf.drop 28).take 6

/-- The address that it gives or offers. -/
def address (sent : Sent) : List UInt8 :=
  (sent.buf.drop 16).take 4

/-- When the first one acknowledges an address, and the second one gives or
offers it to another client, the time of the lease is over. -/
def Excludes (first second : Sent) : Prop :=
  first.type = some dhcpAck → first.mac ≠ (Block.zero 6).bytes →
    second.address = first.address → second.mac ≠ first.mac →
    first.started + leaseMs < second.time

end Sent

/-! ## The pool of leases -/

/-- Hardware addresses hold the leases. -/
abbrev Pool := Leases.Pool (Block 6) (Fin dhcpsMaxIp) Nat

abbrev Act := Leases.Act (Block 6) (Fin dhcpsMaxIp) Nat

/-- The leases of the server at some time, as a pool.  Nobody holds what the
address of zeros holds. -/
structure Represents (lease : Fin dhcpsMaxIp → Lease) (now : Nat) (pool : Pool) : Prop where
  now_le : pool.now ≤ now
  free : ∀ i, pool.holder i = none → (lease i).mac = .zero 6
  held : ∀ i key until_, pool.holder i = some (key, until_) →
    key ≠ .zero 6 ∧ (lease i).mac = key ∧
      ∃ given, given ≤ now ∧ until_ = given + leaseMs ∧
        (lease i).expiry = expiryFrom (UInt32.ofNat given)

section

variable {lease : Fin dhcpsMaxIp → Lease} {now : Nat} {pool : Pool}

theorem represents_start (ip nm : Block 4) (now : Nat) :
    Represents (dhcpServerInit ip nm).lease now { holder := fun _ => none, now } where
  now_le := Nat.le_refl now
  free _ _ := rfl
  held _ _ _ impossible := by cases impossible

theorem Represents.later (represents : Represents lease now pool) {after : Nat}
    (later : now ≤ after) : Represents lease after pool where
  now_le := Nat.le_trans represents.now_le later
  free := represents.free
  held i key until_ holder := by
    rcases represents.held i key until_ holder with ⟨nonzero, mac, given, before, ends, since⟩
    exact ⟨nonzero, mac, given, Nat.le_trans before later, ends, since⟩

theorem Represents.holder (represents : Represents lease now pool) {i : Fin dhcpsMaxIp}
    {mac : Block 6} (free : (lease i).mac = mac ∨ (lease i).mac = .zero 6) :
    ∀ held ∈ pool.holder i, held.1 = mac := by
  rintro ⟨key, until_⟩ holder
  rcases represents.held i key until_ holder with ⟨nonzero, same, _⟩
  rcases free with free | free
  · exact same.symm.trans free
  · exact absurd (same.symm.trans free) nonzero

/-- A spare lease loses its holder, if it has one. -/
theorem Represents.release (represents : Represents lease now pool) {i : Fin dhcpsMaxIp}
    {reading : Nat} (later : now ≤ reading)
    (spare : (lease i).Spare (UInt32.ofNat reading)) :
    ∃ acts final, Leases.Run leaseMs pool acts final ∧
      Represents (release lease i) reading final := by
  cases holder : pool.holder i with
  | none =>
      refine ⟨[], pool, .nil pool, ?_⟩
      rw [release_of_free (represents.free i holder)]
      exact represents.later later
  | some held =>
      rcases represents.held i held.1 held.2 holder with
        ⟨nonzero, mac, given, before, ends, since⟩
      have over_ : (lease i).expired (UInt32.ofNat reading) = true :=
        spare.resolve_left fun free => nonzero (mac.symm.trans free)
      have ended := leaseEnd_lt_of_expired since (Nat.le_trans before later) over_
      have least := le_leaseEnd given
      refine ⟨[.takeBack i reading], _, .cons (Nat.le_trans represents.now_le later) ?_ (.nil _),
        Nat.le_refl reading, ?_, ?_⟩
      · intro other same
        cases holder.symm.trans same
        change held.2 < reading
        rw [ends, leaseMs]
        omega
      · intro j unheld
        by_cases same : j = i
        · subst same
          exact mac_release lease j
        · rw [release_of_ne same]
          rw [Leases.holder_takeBack_of_ne leaseMs pool same] at unheld
          exact represents.free j unheld
      · intro j key until_ other
        by_cases same : j = i
        · subst same
          rw [Leases.holder_takeBack_self] at other
          cases other
        · rw [Leases.holder_takeBack_of_ne leaseMs pool same] at other
          rw [release_of_ne same]
          exact (represents.later later).held j key until_ other

/-- A lease is given to a hardware address that is not zero. -/
theorem Represents.give (represents : Represents lease now pool) {yi : Fin dhcpsMaxIp}
    {mac : Block 6} {reading : Nat} (later : now ≤ reading) (nonzero : mac ≠ .zero 6)
    (free : (lease yi).mac = mac ∨ (lease yi).mac = .zero 6) :
    ∃ final, Leases.Run leaseMs pool [.give mac yi reading] final ∧
      Represents (Function.update lease yi { mac, expiry := expiryFrom (UInt32.ofNat reading) })
        reading final := by
  refine ⟨_, .cons (Nat.le_trans represents.now_le later) (represents.holder free) (.nil _),
    Nat.le_refl reading, ?_, ?_⟩
  · intro j unheld
    by_cases same : j = yi
    · subst same
      rw [Leases.holder_give_self] at unheld
      cases unheld
    · rw [Leases.holder_give_of_ne leaseMs pool same] at unheld
      rw [Function.update_of_ne same]
      exact represents.free j unheld
  · intro j key until_ other
    by_cases same : j = yi
    · subst same
      rw [Leases.holder_give_self] at other
      cases other
      rw [Function.update_self]
      exact ⟨nonzero, rfl, reading, Nat.le_refl reading, rfl, rfl⟩
    · rw [Leases.holder_give_of_ne leaseMs pool same] at other
      rw [Function.update_of_ne same]
      exact (represents.later later).held j key until_ other

theorem Represents.give_zero (represents : Represents lease now pool) {yi : Fin dhcpsMaxIp}
    (free : (lease yi).mac = .zero 6) (expiry : UInt16) :
    Represents (Function.update lease yi { mac := .zero 6, expiry }) now pool where
  now_le := represents.now_le
  free j unheld := by
    by_cases same : j = yi
    · subst same
      rw [Function.update_self]
    · rw [Function.update_of_ne same]
      exact represents.free j unheld
  held j key until_ holder := by
    have different : j ≠ yi := by
      rintro rfl
      rcases represents.held j key until_ holder with ⟨nonzero, mac, _⟩
      exact nonzero (mac.symm.trans free)
    rw [Function.update_of_ne different]
    exact represents.held j key until_ holder

theorem Represents.offer (represents : Represents lease now pool) {yi : Fin dhcpsMaxIp}
    {mac : Block 6} {ended : Nat} (later : now ≤ ended)
    (free : (lease yi).mac = mac ∨ (lease yi).mac = .zero 6) :
    Leases.Run leaseMs pool [.offer mac yi ended] { pool with now := ended } ∧
      Represents lease ended { pool with now := ended } :=
  ⟨.cons (Nat.le_trans represents.now_le later) (represents.holder free) (.nil _),
    Nat.le_refl ended, represents.free, (represents.later later).held⟩

end

/-! ## The datagrams of the acts -/

/-- An act is seen in a datagram. -/
def Shows (ip : Block 4) (act : Act) (datagram : Sent) : Prop :=
  ∃ mac yi, act.Assigns mac yi ∧ datagram.mac = mac.bytes ∧
    datagram.address = ip.bytes.take 3 ++ [dhcpsBaseIp + UInt8.ofNat yi] ∧
    act.time ≤ datagram.time ∧
    (datagram.type = some dhcpAck → mac ≠ .zero 6 → act = .give mac yi datagram.started)

/-- Acts of the pool, and the datagrams that are sent with some of them. -/
structure Simulates (ip : Block 4) (pool final : Pool) (trace : List (Act × Option Sent))
    (log : List Sent) : Prop where
  run : Leases.Run leaseMs pool (trace.map Prod.fst) final
  shown : trace.filterMap Prod.snd = log
  faithful : ∀ pair ∈ trace, ∀ datagram ∈ pair.2, Shows ip pair.1 datagram

theorem Simulates.append {ip : Block 4} {pool middle final : Pool}
    {trace more : List (Act × Option Sent)} {log sent : List Sent}
    (first : Simulates ip pool middle trace log) (second : Simulates ip middle final more sent) :
    Simulates ip pool final (trace ++ more) (log ++ sent) where
  run := by
    rw [List.map_append]
    exact first.run.append second.run
  shown := by rw [List.filterMap_append, first.shown, second.shown]
  faithful pair member := by
    rcases List.mem_append.mp member with member | member
    · exact first.faithful pair member
    · exact second.faithful pair member

theorem simulates_silent {ip : Block 4} {pool final : Pool} {acts : List Act}
    (run : Leases.Run leaseMs pool acts final) :
    Simulates ip pool final (acts.map fun act => (act, none)) [] where
  run := by rwa [List.map_map, show Prod.fst ∘ (fun act : Act => (act, (none : Option Sent))) = id
    from rfl, List.map_id]
  shown := by
    rw [List.filterMap_eq_nil_iff]
    intro pair member
    rcases List.mem_map.mp member with ⟨act, _, rfl⟩
    rfl
  faithful := by
    intro pair member datagram seen
    rcases List.mem_map.mp member with ⟨act, _, rfl⟩
    cases seen

/-- The datagrams with a reply. -/
def Delivery.reply (delivery : Delivery) (buf : List UInt8) : Option Sent :=
  if delivery.allocated then
    some { buf, started := delivery.readings 0, time := delivery.ended }
  else none

theorem Delivery.datagrams_sent (delivery : Delivery) (buf : List UInt8) :
    delivery.datagrams (sent delivery.allocated buf) = (delivery.reply buf).toList := by
  unfold sent reply
  cases delivery.allocated with
  | false => rfl
  | true => rfl

theorem simulates_single {ip : Block 4} {pool final : Pool} {act : Act}
    (run : Leases.Run leaseMs pool [act] final) {delivery : Delivery} {buf : List UInt8}
    (shows_ : ∀ datagram ∈ delivery.reply buf, Shows ip act datagram) :
    Simulates ip pool final [(act, delivery.reply buf)]
      (delivery.datagrams (sent delivery.allocated buf)) where
  run := run
  shown := by
    rw [delivery.datagrams_sent]
    cases delivery.reply buf with
    | none => rfl
    | some datagram => rfl
  faithful pair member := by
    rw [List.mem_singleton.mp member]
    exact shows_

/-- How a client reads a reply. -/
theorem reply_read {server : DhcpServer} {delivery : Delivery} {type : UInt8}
    {yi : Fin dhcpsMaxIp} {mac : Block 6} (enough : dhcpMinSize ≤ delivery.packet.length)
    (hardware : mac.bytes = (delivery.packet.drop 28).take 6) {datagram : Sent}
    (member : datagram ∈ delivery.reply (replyTo server delivery.packet type yi)) :
    datagram.mac = mac.bytes ∧
      datagram.address = server.ip.bytes.take 3 ++ [dhcpsBaseIp + UInt8.ofNat yi] ∧
      datagram.type = some type ∧ datagram.started = delivery.readings 0 ∧
      datagram.time = delivery.ended := by
  unfold Delivery.reply at member
  split at member
  · cases member
    refine ⟨?_, ?_, ?_, rfl, rfl⟩
    · exact (mac_replyTo enough).trans hardware.symm
    · exact (address_replyTo enough).trans (bytes_leaseAddress server yi)
    · rw [Sent.type]
      change (Options.lookup _ (Options.parse ((replyTo server delivery.packet type yi).drop
        240))).bind _ = _
      rw [parse_replyTo enough]
      rfl
  · cases member

/-! ## Steps and runs -/

/-- What the server does with a packet, the pool does with a few acts. -/
theorem outcome_simulates {server after : DhcpServer} {delivery : Delivery} {now : Nat}
    {pool : Pool} {events : List DhcpEvent} (represents : Represents server.lease now pool)
    (later : now ≤ delivery.readings 0)
    (outcome : Outcome server delivery.ticks delivery.allocated delivery.packet after events) :
    ∃ trace final, Simulates server.ip pool final trace (delivery.datagrams events) ∧
      after.ip = server.ip ∧ Represents after.lease delivery.ended final := by
  cases outcome with
  | ignored =>
      exact ⟨[], pool, ⟨.nil pool, rfl, fun _ impossible => nomatch impossible⟩, rfl,
        represents.later (Nat.le_trans later (delivery.within 0))⟩
  | @offered mac lease yi enough hardware chosen =>
      -- A holder is taken away, or not, and then the lease is offered.
      have released : ∃ acts middle, Leases.Run leaseMs pool acts middle ∧
          Represents lease delivery.ended middle := by
        rcases lease_of_discoverLoop chosen with rfl | ⟨i, spare, rfl⟩
        · exact ⟨[], pool, .nil pool,
            represents.later (Nat.le_trans later (delivery.within 0))⟩
        · have read : now ≤ delivery.readings i :=
            Nat.le_trans later (delivery.monotone (Nat.zero_le i))
          rcases represents.release read spare with ⟨acts, middle, run, represented⟩
          exact ⟨acts, middle, run, represented.later (delivery.within i)⟩
      rcases released with ⟨acts, middle, run, represented⟩
      rcases represented.offer (Nat.le_refl _) (free_of_discoverLoop chosen) with
        ⟨offers, offered⟩
      refine ⟨_, _, (simulates_silent run).append (simulates_single offers ?_), rfl, offered⟩
      intro datagram member
      rcases reply_read enough hardware member with ⟨macs, addresses, typed, _, ended⟩
      refine ⟨mac, yi, ⟨rfl, rfl⟩, macs, addresses, Nat.le_of_eq ended.symm, ?_⟩
      intro acknowledged
      rw [typed] at acknowledged
      cases acknowledged
  | @acknowledged mac yi host enough hardware free =>
      by_cases zero : mac = .zero 6
      · have unheld : (server.lease yi).mac = .zero 6 := free.elim (·.trans zero) id
        rcases represents.offer (Nat.le_trans later (delivery.within 0)) free with
          ⟨offers, offered⟩
        refine ⟨_, _, simulates_single offers ?_, rfl, ?_⟩
        · intro datagram member
          rcases reply_read enough hardware member with ⟨macs, addresses, _, _, ended⟩
          exact ⟨mac, yi, ⟨rfl, rfl⟩, macs, addresses, Nat.le_of_eq ended.symm,
            fun _ nonzero => absurd zero nonzero⟩
        · rw [zero]
          exact offered.give_zero unheld _
      · rcases represents.give later zero free with ⟨final, gives, given⟩
        refine ⟨_, final, simulates_single gives ?_, rfl, given.later (delivery.within 0)⟩
        intro datagram member
        rcases reply_read enough hardware member with ⟨macs, addresses, _, started, ended⟩
        refine ⟨mac, yi, ⟨rfl, rfl⟩, macs, addresses, ?_, fun _ _ => by rw [started]⟩
        rw [ended]
        exact delivery.within 0

theorem step_of_done {host : Host} {delivery : Delivery} {server : DhcpServer}
    {events : List DhcpEvent} (later : host.now ≤ delivery.readings 0)
    (finished : dhcpServerProcess host.server delivery.stale delivery.ticks delivery.allocated
      delivery.packet = .done (server, events)) :
    step host delivery = some {
      server
      now := delivery.ended
      log := host.log ++ delivery.datagrams events
      console := host.console ++ connected events } := by
  rw [step, if_pos later, finished]

/-- What a step is made of. -/
theorem step_cases {host next : Host} {delivery : Delivery} (taken : step host delivery = some next) :
    host.now ≤ delivery.readings 0 ∧ ∃ events,
      Outcome host.server delivery.ticks delivery.allocated delivery.packet next.server events ∧
      next.now = delivery.ended ∧ next.log = host.log ++ delivery.datagrams events ∧
      next.console = host.console ++ connected events := by
  unfold step at taken
  split at taken
  · rename_i later
    split at taken
    · rename_i server events finished
      cases taken
      exact ⟨later, events, outcome_of_done finished, rfl, rfl, rfl⟩
    · cases taken
  · cases taken

theorem step_simulates {host next : Host} {delivery : Delivery} {pool : Pool}
    (represents : Represents host.server.lease host.now pool)
    (taken : step host delivery = some next) :
    ∃ trace final sent, Simulates host.server.ip pool final trace sent ∧
      next.log = host.log ++ sent ∧ next.server.ip = host.server.ip ∧
      Represents next.server.lease next.now final := by
  rcases step_cases taken with ⟨later, events, outcome, ended, log, _⟩
  rcases outcome_simulates represents later outcome with
    ⟨trace, final, simulated, sameIp, represented⟩
  rw [← ended] at represented
  exact ⟨trace, final, _, simulated, log, sameIp, represented⟩

/-- A run of the server is a run of the pool. -/
theorem run_simulates {host final : Host} {deliveries : List Delivery} {pool : Pool}
    (represents : Represents host.server.lease host.now pool)
    (reached : Transition.run step host deliveries = some final) :
    ∃ trace last sent, Simulates host.server.ip pool last trace sent ∧
      final.log = host.log ++ sent ∧ final.server.ip = host.server.ip ∧
      Represents final.server.lease final.now last := by
  induction deliveries generalizing host pool with
  | nil =>
      cases reached
      exact ⟨[], pool, [], ⟨.nil pool, rfl, fun _ impossible => nomatch impossible⟩,
        (List.append_nil _).symm, rfl, represents⟩
  | cons delivery rest inductionHypothesis =>
      rw [Transition.run] at reached
      cases taken : step host delivery with
      | none =>
          rw [taken] at reached
          cases reached
      | some next =>
          rw [taken] at reached
          rcases step_simulates represents taken with
            ⟨trace, middle, sent, simulated, log, sameIp, represented⟩
          rcases inductionHypothesis represented reached with
            ⟨more, last, later, continued, logs, sameIps, represented⟩
          rw [sameIp] at continued
          refine ⟨trace ++ more, last, sent ++ later, simulated.append continued, ?_,
            sameIps.trans sameIp, represented⟩
          rw [logs, log, List.append_assoc]

/-! ## What was sent -/

/-- The last byte of an address tells its lease. -/
theorem lease_injective {first second : Fin dhcpsMaxIp}
    (same : dhcpsBaseIp + UInt8.ofNat first = dhcpsBaseIp + UInt8.ofNat second) :
    first = second := by
  have few : (first : Nat) < 8 := first.isLt
  have few_ : (second : Nat) < 8 := second.isLt
  have base : dhcpsBaseIp.toNat = 16 := rfl
  have numbers := congrArg UInt8.toNat same
  rw [UInt8.toNat_add, UInt8.toNat_add, UInt8.toNat_ofNat', UInt8.toNat_ofNat', base] at numbers
  apply Fin.ext
  omega

/-- Datagrams exclude one another as their acts do. -/
theorem excludes_of_shows {ip : Block 4} {first second : Act} {datagram other : Sent}
    (excludes : Leases.Act.Excludes leaseMs first second) (shows_ : Shows ip first datagram)
    (otherShows : Shows ip second other) : datagram.Excludes other := by
  rcases shows_ with ⟨mac, yi, _, macs, addresses, _, gives⟩
  rcases otherShows with ⟨otherMac, otherYi, assigns, otherMacs, otherAddresses, before, _⟩
  intro acknowledged nonzero sameAddress different
  have real : mac ≠ .zero 6 := by
    rintro rfl
    exact nonzero macs
  have sameLease : otherYi = yi := by
    rw [addresses, otherAddresses] at sameAddress
    exact lease_injective (List.singleton_inj.mp (List.append_cancel_left sameAddress))
  have others : otherMac ≠ mac := by
    rintro rfl
    exact different (otherMacs.trans macs.symm)
  rw [sameLease] at assigns
  exact Nat.lt_of_lt_of_le
    (excludes mac yi datagram.started otherMac (gives acknowledged real) others assigns) before

theorem Simulates.pairwise_excludes {ip : Block 4} {pool final : Pool}
    {trace : List (Act × Option Sent)} {log : List Sent}
    (simulated : Simulates ip pool final trace log) : log.Pairwise Sent.Excludes := by
  have acts := simulated.run.pairwise_excludes
  rw [List.pairwise_map] at acts
  rw [← simulated.shown, List.pairwise_filterMap]
  refine acts.imp_of_mem ?_
  intro first second firstMember secondMember excludes datagram seen other otherSeen
  exact excludes_of_shows excludes (simulated.faithful first firstMember datagram seen)
    (simulated.faithful second secondMember other otherSeen)

/-- An address that the server has acknowledged to one client is not offered or
acknowledged to another one before the time of the lease is over, in whatever
order and whatever packets come, whatever the memory holds, and however often
the clock has started over. -/
theorem addresses_exclusive {ip nm : Block 4} {now : Nat} {deliveries : List Delivery}
    {host : Host} (reached : Transition.run step (Host.start ip nm now) deliveries = some host) :
    host.log.Pairwise Sent.Excludes := by
  rcases run_simulates (represents_start ip nm now) reached with
    ⟨trace, last, sent, simulated, log, _, _⟩
  rw [log]
  exact simulated.pairwise_excludes

/-- A packet that is processed in one moment, in memory that holds zeros. -/
def Delivery.at_ (packet : List UInt8) (time : Nat) : Delivery where
  packet := packet
  stale := .zero sizeofDhcpMsg
  allocated := true
  readings _ := time
  ended := time
  monotone := monotone_const
  within _ := Nat.le_refl time

/-- The address of the first lease. -/
def firstAddress : Block 4 where
  bytes := [192, 168, 33, 16]
  length_bytes := rfl

/-- The first station is given the first address, and the second one is offered
it behind the end of the lease. -/
theorem addresses_exclusive_of_two : ∃ host,
    Transition.run step (Host.start gateway netmask 0)
      [.at_ (Message.request (station 1) firstAddress).packet 0,
        .at_ (Message.discover (station 2)).packet 86441984] = some host ∧
      host.log.map (fun sent => (sent.mac, sent.address, sent.time)) =
        [((station 1).bytes, firstAddress.bytes, 0),
          ((station 2).bytes, firstAddress.bytes, 86441984)] ∧
      host.log.Pairwise Sent.Excludes := by
  have runs : (Transition.run step (Host.start gateway netmask 0)
      [.at_ (Message.request (station 1) firstAddress).packet 0,
        .at_ (Message.discover (station 2)).packet 86441984]).map (fun host =>
          host.log.map fun sent => (sent.mac, sent.address, sent.time)) = some
        [((station 1).bytes, firstAddress.bytes, 0),
          ((station 2).bytes, firstAddress.bytes, 86441984)] := by
    decide +kernel
  rcases Option.map_eq_some_iff.mp runs with ⟨host, reached, seen⟩
  exact ⟨host, reached, seen, addresses_exclusive reached⟩

end Dhcp
end NetLL
