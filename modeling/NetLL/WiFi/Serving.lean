import NetLL.WiFi.Sockets

namespace NetLL
namespace WiFi
namespace RP2040
namespace AccessPoint

/-!
# The servers and the flag

A server is up when it has a PCB with a port that receives for it.  The flag of
the access point is set and cleared by the application, and the servers follow
it later, on the lwIP thread.  Neither the post of a callback nor the start of a
server tells anyone that it has failed.

When no call and no callback is on its way, the servers are up exactly when the
flag is set, if every post succeeds and every start that no stop is pending
behind gets its sockets.  A step against this condition leads to a state where
they disagree, without a further call of the application.
-/

open Handles

/-- `udp_new` and `udp_bind` succeed. -/
def Opening.Succeeds (opening : Opening) : Prop :=
  opening.pcb ≠ none ∧ opening.binds = true

instance (opening : Opening) : Decidable opening.Succeeds :=
  inferInstanceAs (Decidable (_ ∧ _))

namespace Pcbs

/-- The server gets the datagrams for its port. -/
def Up (pcbs : Pcbs) (server : Server) : Prop :=
  ∃ pcb, pcbs.udp server = some pcb ∧ pcbs.receiver pcb = some server

theorem receiver_of_held {pcbs : Pcbs} {pcb : Pcb} {setup : Setup}
    (held : pcbs.held pcb = some setup) :
    pcbs.receiver pcb = if setup.bound then setup.receiver else none := by
  rw [receiver, held]

theorem not_up_of_none {pcbs : Pcbs} {server : Server} (absent : pcbs.udp server = none) :
    ¬ pcbs.Up server := by
  rintro ⟨pcb, leads, _⟩
  rw [absent] at leads
  cases leads

/-- The openings of a start by their servers. -/
def opening (dhcp dns : Opening) : Server → Opening
  | .dhcp => dhcp
  | .dns => dns

theorem up_after_start_iff {pcbs : Pcbs} {dhcp dns : Opening}
    (given : AllGiven pcbs.held (pcbs.acts (.start dhcp dns))) (server : Server) :
    (pcbs.after (.start dhcp dns)).Up server ↔ (opening dhcp dns server).Succeeds := by
  have receives {pcb : Pcb} (leads : (opening dhcp dns server).pcb = some pcb) :
      (pcbs.after (.start dhcp dns)).receiver pcb =
        if (opening dhcp dns server).binds then some server else none := by
    cases server with
    | dhcp => exact receiver_of_held ((start_held_iff given).mpr (Or.inr (Or.inl ⟨leads, rfl⟩)))
    | dns => exact receiver_of_held ((start_held_iff given).mpr (Or.inl ⟨leads, rfl⟩))
  have pointer : (pcbs.after (.start dhcp dns)).udp server = (opening dhcp dns server).pcb := by
    cases server <;> rfl
  constructor
  · rintro ⟨pcb, leads, serves⟩
    rw [pointer] at leads
    rw [receives leads] at serves
    refine ⟨Option.ne_none_iff_exists'.mpr ⟨pcb, leads⟩, ?_⟩
    by_contra unbound
    rw [if_neg unbound] at serves
    cases serves
  · rintro ⟨some_, binds⟩
    rcases Option.ne_none_iff_exists'.mp some_ with ⟨pcb, leads⟩
    refine ⟨pcb, pointer.trans leads, ?_⟩
    rw [receives leads, if_pos binds]

theorem Up.after_answer {pcbs : Pcbs} {server : Server} (up : pcbs.Up server) (live : pcbs.Live)
    (answers : Server) : (pcbs.after (.answer answers)).Up server := by
  rcases up with ⟨pcb, leads, receives⟩
  refine ⟨pcb, leads, ?_⟩
  rcases live server pcb leads with ⟨setup, held, own⟩
  have bound := bound_of_receiver held receives
  rw [receiver, (answer_held live answers).2, held]
  split
  · rename_i none_
    split at none_ <;> cases none_
  · rename_i other same
    split at same
    · cases same
      exact own
    · cases same
      rw [if_pos bound]
      exact own

/-! ## PCBs for a start -/

/-- A PCB that no pointer leads to. -/
def unused (pcbs : Pcbs) : Pcb :=
  (pcbs.udp .dhcp).getD 0 + (pcbs.udp .dns).getD 0 + 1

theorem Accounted.held_unused {pcbs : Pcbs} (accounted : pcbs.Accounted) (further : Nat) :
    pcbs.held (pcbs.unused + further) = none := by
  cases held : pcbs.held (pcbs.unused + further) with
  | none => rfl
  | some setup =>
      rcases accounted.used held with ⟨server, leads⟩
      have above (first second : Nat) : first < first + second + 1 + further ∧
          second < first + second + 1 + further := by omega
      have small : (pcbs.udp server).getD 0 < pcbs.unused + further := by
        cases server with
        | dhcp => exact (above _ _).1
        | dns => exact (above _ _).2
      rw [leads, Option.getD_some] at small
      exact absurd small (Nat.lt_irrefl _)

/-- Whatever callback is next, lwIP has what it needs. -/
theorem Accounted.exists_openings {pcbs : Pcbs} (accounted : pcbs.Accounted)
    (callback : Callback) : ∃ dhcp dns : Opening, dhcp.Succeeds ∧ dns.Succeeds ∧
      AllGiven pcbs.held (pcbs.acts (callback.call dhcp dns)) := by
  refine ⟨⟨some pcbs.unused, true⟩, ⟨some (pcbs.unused + 1), true⟩,
    ⟨Option.some_ne_none _, rfl⟩, ⟨Option.some_ne_none _, rfl⟩, ?_⟩
  cases callback with
  | startAccessPointDhcpDns =>
      have other : pcbs.unused + 1 ≠ pcbs.unused := Nat.succ_ne_self _
      refine ⟨accounted.held_unused 0, trivial, trivial, trivial, ?_, trivial, trivial, trivial,
        trivial⟩
      simp only [Handles.after, Act.Given, Function.update_of_ne other]
      exact accounted.held_unused 1
  | stopAccessPointDhcp =>
      change AllGiven pcbs.held (dnsServerDeinit _ ++ dhcpServerDeinit _)
      cases pcbs.udp .dns <;> cases pcbs.udp .dhcp <;> repeat' constructor

end Pcbs

/-- A post that fails turns the intention and leaves the interface alone. -/
theorem lost_of_not_postSucceeds {state next : State} {action : Action}
    (fails : ¬ PostSucceeds state action) (taken : step state action = some next) :
    next.netif = state.netif ∧ next.pending = state.pending ∧
      next.intended = !state.intended ∧ next.app ≠ .leaving := by
  rw [PostSucceeds, Classical.not_imp, Bool.not_eq_true] at fails
  rcases fails with ⟨posts, lost⟩
  rcases state with ⟨wifiInitialized, accessPointRunning, apMode, app, pending, netif, returned⟩
  have idle : app = .idle := by
    cases app with
    | idle => rfl
    | _ => cases action <;> first | exact absurd posts not_false | cases taken
  subst idle
  cases action with
  | accessPointStart ssid password queued =>
      cases ssid with
      | none => exact absurd posts not_false
      | some ssid =>
          rcases posts with ⟨nonempty, initialized, stopped⟩
          change queued = false at lost
          change wifiInitialized = true at initialized
          change accessPointRunning = false at stopped
          subst lost initialized stopped
          simp only [step, callStep, wifiAccessPointStart, if_neg nonempty] at taken
          cases taken
          exact ⟨rfl, rfl, rfl, AppStage.noConfusion⟩
  | accessPointStop queued =>
      change queued = false at lost
      change accessPointRunning = true at posts
      subst lost posts
      cases taken
      exact ⟨rfl, rfl, rfl, AppStage.noConfusion⟩
  | deinitializeWiFi queued =>
      rcases posts with ⟨initialized, running⟩
      change queued = false at lost
      change wifiInitialized = true at initialized
      change accessPointRunning = true at running
      subst lost initialized running
      cases taken
      exact ⟨rfl, rfl, rfl, AppStage.noConfusion⟩
  | _ => exact absurd posts not_false

/-- The state when the lwIP thread has taken all pending callbacks. -/
def State.drained (state : State) : State :=
  { state with
    netif := Mailbox.settled netifBehind state.netif state.pending
    pending := [] }

namespace Sockets

/-! ## What should hold -/

/-- Between calls and with no callback pending, each server is up exactly when
the flag says so, and no start is run on top of another one. -/
structure Agrees (sockets : Sockets) : Prop where
  settled : sockets.point.app = .idle → sockets.point.pending = [] →
    ∀ server, sockets.pcbs.Up server ↔ wifiAccessPointIsRunning sockets.point = true
  once : sockets.point.pending.head? = some .startAccessPointDhcpDns →
    sockets.point.netif = false ∧ ∀ server, sockets.pcbs.udp server = none

/-- A post succeeds, and a start that no callback is pending behind gets the
sockets of both servers. -/
def Succeeds (sockets : Sockets) : Event → Prop
  | .act action => PostSucceeds sockets.point action
  | .callback dhcp dns =>
      sockets.point.pending = [.startAccessPointDhcpDns] → dhcp.Succeeds ∧ dns.Succeeds
  | .datagram _ _ => True

instance (sockets : Sockets) : (event : Event) → Decidable (sockets.Succeeds event)
  | .act action => inferInstanceAs (Decidable (PostSucceeds sockets.point action))
  | .callback _ _ => inferInstanceAs (Decidable (_ → _))
  | .datagram _ _ => .isTrue trivial

theorem Succeeds.postsSucceed {sockets : Sockets} {event : Event}
    (succeeds : sockets.Succeeds event) : sockets.PostsSucceed event := by
  cases event with
  | act action => exact succeeds
  | callback dhcp dns => trivial
  | datagram pcb answered => trivial

/-! ## Callbacks -/

/-- The lwIP thread can take its callbacks, and behind the last one the servers
are as it has left the interface. -/
structure Ready (sockets : Sockets) : Prop where
  live : sockets.pcbs.Live
  accounted : sockets.pcbs.Accounted
  allowed : Mailbox.Allowed netifBehind MayRun sockets.point.netif sockets.point.pending
  off : sockets.point.netif = false → ∀ server, sockets.pcbs.udp server = none
  up : sockets.point.pending = [] → sockets.point.netif = true → ∀ server, sockets.pcbs.Up server

theorem Ready.callback {sockets : Sockets} (ready : sockets.Ready) {callback : Callback}
    {rest : List Callback} (pending : sockets.point.pending = callback :: rest)
    {dhcp dns : Opening}
    (given : AllGiven sockets.pcbs.held (sockets.pcbs.acts (callback.call dhcp dns)))
    (succeeds : sockets.Succeeds (.callback dhcp dns)) :
    step sockets (.callback dhcp dns) = some
        ⟨{ sockets.point with netif := callback.netif, pending := rest },
          sockets.pcbs.after (callback.call dhcp dns)⟩ ∧
      Ready ⟨{ sockets.point with netif := callback.netif, pending := rest },
        sockets.pcbs.after (callback.call dhcp dns)⟩ := by
  have allowed := ready.allowed
  rw [pending] at allowed
  have free : sockets.pcbs.Free (callback.call dhcp dns) := by
    intro newDhcp newDns starts
    cases callback with
    | startAccessPointDhcpDns => exact ready.off (allowed.1 rfl)
    | stopAccessPointDhcp => cases starts
  constructor
  · simp only [step, called, process, pending, Option.map_some, if_pos given]
  · refine ⟨(ready.live.after given).2, ready.accounted.after ready.live given free,
      allowed.2, fun off => ?_, fun last on server => ?_⟩
    · cases callback with
      | startAccessPointDhcpDns => cases off
      | stopAccessPointDhcp => exact fun _ => rfl
    · cases callback with
      | startAccessPointDhcpDns =>
          change rest = [] at last
          subst last
          rcases succeeds pending with ⟨fine, fineDns⟩
          refine (Pcbs.up_after_start_iff given server).mpr ?_
          cases server with
          | dhcp => exact fine
          | dns => exact fineDns
      | stopAccessPointDhcp => cases on

/-! ## One step -/

structure Serves (sockets : Sockets) : Prop where
  served : sockets.Served
  up : sockets.point.pending = [] → sockets.point.netif = true → ∀ server, sockets.pcbs.Up server

theorem initial_serves : initial.Serves where
  served := initial_served
  up := fun _ on => by cases on

theorem Serves.ready {sockets : Sockets} (serves : sockets.Serves) : sockets.Ready where
  live := serves.served.live
  accounted := serves.served.accounted
  allowed := serves.served.consistent.allowed
  off := serves.served.off
  up := serves.up

theorem Serves.agrees {sockets : Sockets} (serves : sockets.Serves) : sockets.Agrees := by
  constructor
  · intro idle empty server
    have settled := serves.served.consistent.settled
    rw [empty, Mailbox.settled_nil, State.intended, idle] at settled
    change sockets.point.netif = sockets.point.accessPointRunning at settled
    rw [wifiAccessPointIsRunning, ← settled]
    cases netif : sockets.point.netif with
    | true => exact iff_of_true (serves.up empty netif server) rfl
    | false =>
        exact iff_of_false (Pcbs.not_up_of_none (serves.served.off netif server)) Bool.noConfusion
  · intro first
    have allowed := serves.served.consistent.allowed
    cases pending : sockets.point.pending with
    | nil =>
        rw [pending] at first
        cases first
    | cons callback rest =>
        rw [pending, List.head?_cons, Option.some.injEq] at first
        rw [pending] at allowed
        exact ⟨allowed.1 first, serves.served.off (allowed.1 first)⟩

theorem Serves.next {sockets next : Sockets} {event : Event} (serves : sockets.Serves)
    (succeeds : sockets.Succeeds event) (taken : step sockets event = some next) :
    next.Serves := by
  refine ⟨serves.served.next succeeds.postsSucceed taken, ?_⟩
  rcases step_cases taken with ⟨point, call, called, given, rfl⟩
  rcases called_cases called with ⟨action, rfl, other, acts, rfl⟩ |
    ⟨dhcp, dns, callback, rest, rfl, pending, runs, rfl⟩ |
    ⟨pcb, answered, server, rfl, receives, rfl, rfl⟩
  · intro empty on server
    rcases step_act other acts with ⟨netif, posted, pending⟩
    refine serves.up ?_ (netif.symm.trans on) server
    exact (List.append_eq_nil_iff.mp (pending.symm.trans empty)).1
  · rcases serves.ready.callback pending given succeeds with ⟨again, ready⟩
    rw [again] at taken
    cases taken
    exact ready.up
  · intro empty on other
    have up := serves.up empty on other
    cases answered with
    | true => exact up.after_answer serves.served.live server
    | false => exact up

/-! ## Runs -/

/-- In every run whose posts succeed, and whose last starts get their sockets,
the servers follow the flag. -/
theorem agrees_of_succeeds {events : List Event} {final : Sockets}
    (guarded : Transition.Guarded step Succeeds initial events)
    (reached : Transition.run step initial events = some final) : final.Agrees := by
  have serves : final.Serves := Transition.invariant_run
    (fun _ _ _ serves succeeds taken => serves.next succeeds taken) initial_serves guarded reached
  exact serves.agrees

/-- A start, a deinitialization and another start, with the callbacks run in the
middle of the calls. -/
def restartedPoint : List Event :=
  [.act (.initializeWiFi true),
    .act (.accessPointStart (some (.literal "net")) (some (.literal "secret")) true),
    .callback ⟨some 1, true⟩ ⟨some 2, true⟩, .act .proceed, .datagram 1 true,
    .act (.deinitializeWiFi true), .act .proceed, .act .proceed, .act (.initializeWiFi true),
    .act (.accessPointStart (some (.literal "net")) none true), .act .proceed,
    .callback ⟨none, false⟩ ⟨none, false⟩, .callback ⟨some 2, true⟩ ⟨some 1, true⟩]

theorem agrees_restartedPoint : ∃ final, Transition.run step initial restartedPoint = some final ∧
    final.Agrees ∧ ∀ server, final.pcbs.Up server := by
  have guarded : Transition.Guarded step Succeeds initial restartedPoint := by decide
  have reached : ∃ final, Transition.run step initial restartedPoint = some final ∧
      final.point.app = .idle ∧ final.point.pending = [] ∧
      wifiAccessPointIsRunning final.point = true := ⟨_, rfl, rfl, rfl, rfl⟩
  rcases reached with ⟨final, reached, idle, empty, running⟩
  have agrees := agrees_of_succeeds guarded reached
  exact ⟨final, reached, agrees, fun server => (agrees.settled idle empty server).mpr running⟩

/-! ## The condition is exact -/

/-- The application goes on in a call, or a callback runs that gets its sockets. -/
def Continues : Event → Prop
  | .act action => action = .proceed
  | .callback dhcp dns => dhcp.Succeeds ∧ dns.Succeeds
  | .datagram _ _ => False

/-- What the state leads to when the application makes no further call. -/
def Disagrees (sockets : Sockets) : Prop :=
  ∃ rest final, (∀ event ∈ rest, Continues event) ∧
    Transition.run step sockets rest = some final ∧ ¬ final.Agrees

theorem Disagrees.of_run {sockets middle : Sockets} {front : List Event}
    (continues : ∀ event ∈ front, Continues event)
    (led : Transition.run step sockets front = some middle) (disagrees : middle.Disagrees) :
    sockets.Disagrees := by
  rcases disagrees with ⟨rest, final, further, reached, wrong⟩
  refine ⟨front ++ rest, final, ?_, ?_, wrong⟩
  · intro event member
    rcases List.mem_append.mp member with first | later
    · exact continues event first
    · exact further event later
  · rw [Transition.run_append, led]
    exact reached

theorem Ready.drained {sockets : Sockets} (ready : sockets.Ready) :
    ∃ rest pcbs, (∀ event ∈ rest, Continues event) ∧
      Transition.run step sockets rest = some ⟨sockets.point.drained, pcbs⟩ ∧
      Ready ⟨sockets.point.drained, pcbs⟩ := by
  induction pending : sockets.point.pending generalizing sockets with
  | nil =>
      have same : sockets = ⟨sockets.point.drained, sockets.pcbs⟩ := by
        rw [State.drained, pending, Mailbox.settled_nil, ← pending]
      refine ⟨[], sockets.pcbs, fun _ member => absurd member List.not_mem_nil, ?_, ?_⟩
      · exact congrArg some same
      · exact same ▸ ready
  | cons callback rest inductionHypothesis =>
      rcases ready.accounted.exists_openings callback with ⟨dhcp, dns, fine, fineDns, given⟩
      rcases ready.callback pending given fun _ => ⟨fine, fineDns⟩ with ⟨taken, next⟩
      rcases inductionHypothesis next rfl with ⟨further, pcbs, continues, reached, final⟩
      have same : State.drained { sockets.point with netif := callback.netif, pending := rest } =
          sockets.point.drained := by
        rw [State.drained, State.drained, pending]
        rfl
      rw [same] at reached final
      refine ⟨.callback dhcp dns :: further, pcbs, ?_, ?_, final⟩
      · exact List.forall_mem_cons.mpr ⟨⟨fine, fineDns⟩, continues⟩
      · rw [Transition.run, taken]
        exact reached

theorem leads_idle (sockets : Sockets)
    (left_ : sockets.point.app = .leaving → sockets.point.accessPointRunning = false) :
    ∃ rest point, (∀ event ∈ rest, Continues event) ∧
      Transition.run step sockets rest = some ⟨point, sockets.pcbs⟩ ∧ point.app = .idle ∧
      point.pending = sockets.point.pending ∧ point.netif = sockets.point.netif ∧
      point.accessPointRunning = sockets.point.intended := by
  rcases sockets with ⟨⟨wifiInitialized, running, apMode, app, pending, netif, returned⟩, pcbs⟩
  have proceeds (count : Nat) : ∀ event ∈ List.replicate count (.act .proceed), Continues event :=
    fun event member => List.eq_of_mem_replicate member ▸ rfl
  cases app with
  | idle => exact ⟨_, _, proceeds 0, rfl, rfl, rfl, rfl, rfl⟩
  | starting => exact ⟨_, _, proceeds 1, rfl, rfl, rfl, rfl, rfl⟩
  | leaving => exact ⟨_, _, proceeds 1, rfl, rfl, rfl, rfl, left_ rfl⟩
  | stopping deinitializes =>
      cases deinitializes with
      | true => exact ⟨_, _, proceeds 2, rfl, rfl, rfl, rfl, rfl⟩
      | false => exact ⟨_, _, proceeds 1, rfl, rfl, rfl, rfl, rfl⟩

/-- Pending callbacks that do not lead to what the flag is about to be end in a
disagreement. -/
theorem Ready.disagrees {sockets : Sockets} (ready : sockets.Ready)
    (left_ : sockets.point.app = .leaving → sockets.point.accessPointRunning = false)
    (wrong : Mailbox.settled netifBehind sockets.point.netif sockets.point.pending ≠
      sockets.point.intended) : sockets.Disagrees := by
  rcases ready.drained with ⟨front, pcbs, continues, drained, settled⟩
  refine Disagrees.of_run continues drained ?_
  rcases leads_idle ⟨sockets.point.drained, pcbs⟩ left_ with
    ⟨rest, point, further, reached, idle, empty, netif, flag⟩
  refine ⟨rest, _, further, reached, fun agrees => wrong ?_⟩
  have follows := agrees.settled idle empty .dhcp
  rw [wifiAccessPointIsRunning, flag] at follows
  change _ ↔ sockets.point.intended = true at follows
  cases on : Mailbox.settled netifBehind sockets.point.netif sockets.point.pending with
  | true => exact (follows.mp (settled.up rfl on .dhcp)).symm
  | false =>
      have down := Pcbs.not_up_of_none (settled.off on .dhcp)
      exact (Bool.eq_false_iff.mpr (down ∘ follows.mpr)).symm

/-- A step against the condition leads to a disagreement when nothing else is
called. -/
theorem disagrees_of_not_succeeds {sockets next : Sockets} {event : Event}
    (serves : sockets.Serves) (fails : ¬ sockets.Succeeds event)
    (taken : step sockets event = some next) : next.Disagrees := by
  rcases step_cases taken with ⟨point, call, called, given, rfl⟩
  have settled := serves.served.consistent.settled
  rcases called_cases called with ⟨action, rfl, other, acts, rfl⟩ |
    ⟨dhcp, dns, callback, rest, rfl, pending, runs, rfl⟩ |
    ⟨pcb, answered, server, rfl, receives, rfl, rfl⟩
  · rcases lost_of_not_postSucceeds fails acts with ⟨netif, pendingSame, intended, stays⟩
    have ready : Ready ⟨point, sockets.pcbs⟩ := by
      have ready := serves.ready
      refine ⟨ready.live, ready.accounted, ?_, ?_, ?_⟩
      · rw [netif, pendingSame]
        exact ready.allowed
      · rw [netif]
        exact ready.off
      · rw [netif, pendingSame]
        exact ready.up
    refine ready.disagrees (fun leaving => absurd leaving stays) ?_
    rw [netif, pendingSame, settled, intended]
    cases sockets.point.intended <;> exact Bool.noConfusion
  · have last : callback = .startAccessPointDhcpDns ∧ rest = [] := by
      by_contra different
      refine fails fun same => (different ?_).elim
      rw [pending] at same
      cases same
      exact ⟨rfl, rfl⟩
    rcases last with ⟨rfl, rfl⟩
    have refused : ¬ (dhcp.Succeeds ∧ dns.Succeeds) := fun both => fails fun _ => both
    rw [process, pending] at runs
    cases runs
    rw [pending] at settled
    rcases leads_idle ⟨{ sockets.point with netif := true, pending := [] },
      sockets.pcbs.after (.start dhcp dns)⟩ serves.served.consistent.left_ with
      ⟨rest, point, further, reached, idle, empty, netif, flag⟩
    refine ⟨rest, _, further, reached, fun agrees => refused ?_⟩
    have up (server : Server) : (sockets.pcbs.after (.start dhcp dns)).Up server :=
      (agrees.settled idle empty server).mpr (flag.trans settled.symm)
    exact ⟨(Pcbs.up_after_start_iff given .dhcp).mp (up .dhcp),
      (Pcbs.up_after_start_iff given .dns).mp (up .dns)⟩
  · exact absurd trivial fails

/-! ## What goes wrong -/

/-- The post of a start fails: the flag is set, and the servers stay down.  The
post of a stop fails: the flag is cleared, and the next start is run on top of
the servers.  A PCB cannot be bound: the flag is set, and the DNS server stays
down. -/
theorem services_disagree :
    (∃ final, Transition.run step initial
        [.act (.initializeWiFi true), .act (.accessPointStart (some (.literal "net")) none false),
          .act .proceed] = some final ∧
      wifiAccessPointIsRunning final.point = true ∧ ¬ final.pcbs.Up .dhcp ∧ ¬ final.Agrees) ∧
    (∃ final, Transition.run step initial
        [.act (.initializeWiFi true), .act (.accessPointStart (some (.literal "net")) none true),
          .act .proceed, .callback ⟨some 1, true⟩ ⟨some 2, true⟩, .act (.accessPointStop false),
          .act .proceed, .act (.accessPointStart (some (.literal "net")) none true)] = some final ∧
      final.point.pending = [.startAccessPointDhcpDns] ∧ final.point.netif = true ∧
      ¬ final.Agrees) ∧
    ∃ final, Transition.run step initial
        [.act (.initializeWiFi true), .act (.accessPointStart (some (.literal "net")) none true),
          .act .proceed, .callback ⟨some 1, true⟩ ⟨some 2, false⟩] = some final ∧
      wifiAccessPointIsRunning final.point = true ∧ ¬ final.pcbs.Up .dns ∧ ¬ final.Agrees := by
  refine ⟨⟨_, rfl, rfl, Pcbs.not_up_of_none rfl, fun agrees => ?_⟩,
    ⟨_, rfl, rfl, rfl, fun agrees => ?_⟩, _, rfl, rfl, ?down, fun agrees => ?wrong⟩
  · exact Pcbs.not_up_of_none rfl ((agrees.settled rfl rfl .dhcp).mpr rfl)
  · exact Bool.noConfusion (agrees.once rfl).1
  case down =>
    rintro ⟨pcb, ⟨⟩, receives⟩
    cases receives
  case wrong =>
    rcases (agrees.settled rfl rfl .dns).mpr rfl with ⟨pcb, ⟨⟩, receives⟩
    cases receives

end Sockets

end AccessPoint
end RP2040
end WiFi
end NetLL
