import NetLL.Dhcp.Exclusivity

namespace NetLL
namespace Dhcp

/-!
# Where the server leaves its message

The server looks at the length of a packet and at no length inside of it.  A
length can lead the walk over the options to the last byte of the field, and an
option can be found so near to the end that its data are not in the field.  What
is read then is not of the message.  This depends on the packet, on what the
memory held where the packet is short, and on the leases, since the host name is
looked for only when an address is given.
-/

/-! ## The walk as a search -/

/-- The place in the field of what a search finds. -/
def placeOf : Options.Search → Exec (Option Nat)
  | .absent => .done none
  | .cut => .fault
  | .here rest => .done (some (311 - rest.length))

/-- The walk is the search in the bytes that are left of the field. -/
theorem optFindFrom_eq {options : Block 312} {cmd : UInt8} {rounds i : Nat}
    (enough : 308 ≤ rounds + i) :
    optFindFrom options cmd rounds i =
      placeOf (Options.search cmd (options.bytes.drop (4 + i))) := by
  have size := options.length_bytes
  have behind (place : Nat) (far : 308 ≤ place) : options.bytes.drop (4 + place) = [] :=
    List.drop_eq_nil_of_le (by omega)
  induction rounds generalizing i with
  | zero =>
      rw [behind i (by omega), Options.search_nil]
      rfl
  | succ rounds inductionHypothesis =>
      rw [optFindFrom]
      by_cases inside : i < 308
      · have within : 4 + i < options.bytes.length := by omega
        have code : options.load (4 + i) = .done options.bytes[4 + i] :=
          Block.load_eq_done_iff.mpr (List.getElem?_eq_getElem within)
        have left_ : (options.bytes.drop (4 + i + 1)).length = 307 - i := by
          rw [List.length_drop]
          omega
        rw [if_pos inside, code, Exec.done_bind, List.drop_eq_getElem_cons within,
          Options.search_cons]
        generalize options.bytes[4 + i] = head
        by_cases ended : head = dhcpOptEnd
        · have isEnd : head = Options.end_ := ended
          rw [if_pos ended, if_pos isEnd]
          rfl
        · have notEnd : ¬ head = Options.end_ := ended
          by_cases same : head = cmd
          · rw [if_neg ended, if_pos same, if_neg notEnd, if_pos same, placeOf, left_]
            refine congrArg (fun place => Exec.done (some place)) ?_
            omega
          · rw [if_neg ended, if_neg same, if_neg notEnd, if_neg same]
            by_cases last : 4 + i + 1 < options.bytes.length
            · have length : options.load (4 + i + 1) = .done options.bytes[4 + i + 1] :=
                Block.load_eq_done_iff.mpr (List.getElem?_eq_getElem last)
              rw [length, Exec.done_bind, List.drop_eq_getElem_cons last]
              generalize options.bytes[4 + i + 1] = step
              have onward : 4 + (i + (2 + step.toNat)) = 4 + i + 1 + 1 + step.toNat := by omega
              rw [inductionHypothesis (by omega), onward]
              simp only [List.drop_drop]
            · have outside : options.load (4 + i + 1) = .fault :=
                Block.load_eq_fault_iff.mpr (by omega)
              rw [outside, List.drop_eq_nil_of_le (by omega)]
              rfl
      · rw [if_neg inside, behind i (Nat.le_of_not_lt inside), Options.search_nil]
        rfl

/-- The bytes that the walk is over. -/
abbrev window (options : Block 312) : List UInt8 :=
  options.bytes.drop 4

theorem optFind_eq (options : Block 312) (cmd : UInt8) :
    optFind options cmd = placeOf (Options.search cmd (window options)) :=
  optFindFrom_eq (Nat.le_refl 308)

section

variable {options : Block 312} {code : UInt8} {front rest : List UInt8}

theorem optFind_here (found : Options.search code (window options) = .here rest) :
    ∃ front, options.bytes = front ++ code :: rest ∧
      optFind options code = .done (some front.length) := by
  rcases (Options.suffix_of_search found).trans (List.drop_suffix 4 options.bytes) with
    ⟨front, displayed⟩
  have size := congrArg List.length displayed
  rw [options.length_bytes, List.length_append, List.length_cons] at size
  have place : 311 - rest.length = front.length := by omega
  refine ⟨front, displayed.symm, ?_⟩
  rw [optFind_eq, found, placeOf, place]

theorem load_behind (displayed : options.bytes = front ++ code :: rest) (offset : Nat) :
    options.load (front.length + (offset + 1)) =
      match rest[offset]? with
      | some byte => .done byte
      | none => .fault := by
  have read : options.bytes[front.length + (offset + 1)]? = rest[offset]? := by
    rw [displayed, List.getElem?_append_right (Nat.le_add_right _ _), Nat.add_sub_cancel_left,
      List.getElem?_cons_succ]
  cases found : rest[offset]? with
  | none =>
      rw [found, List.getElem?_eq_none_iff, options.length_bytes] at read
      exact Block.load_eq_fault_iff.mpr read
  | some byte => exact Block.load_eq_done_iff.mpr (read.trans found)

theorem slice_behind (displayed : options.bytes = front ++ code :: rest) (offset width : Nat) :
    options.slice (front.length + (offset + 1)) width =
      if offset + width ≤ rest.length then .done ((rest.drop offset).take width) else .fault := by
  have inside : front.length + (offset + 1) + width ≤ (front ++ code :: rest).length ↔
      offset + width ≤ rest.length := by
    rw [List.length_append, List.length_cons]
    omega
  have bytes : (front ++ code :: rest).drop (front.length + (offset + 1)) = rest.drop offset := by
    rw [← List.drop_drop, List.drop_left, List.drop_succ_cons]
  rw [Block.slice, displayed, Memory.slice, bytes]
  exact if_congr inside rfl rfl

end

/-! ## What is read of an option -/

/-- What is read of an address that is asked for: its network, and its last
byte when the network is that of the server. -/
def addressNeed (server : DhcpServer) (rest : List UInt8) : Nat :=
  if (rest.drop 1).take 3 = server.ip.bytes.take 3 then 5 else 4

/-- What is read of a name: its length, and as many bytes of it as there is
room for. -/
def nameNeed : List UInt8 → Nat
  | [] => 1
  | size :: _ => 1 + min 31 size.toNat

/-- The lease that is asked for. -/
def asked (server : DhcpServer) (rest : List UInt8) : Option (Fin dhcpsMaxIp) :=
  if (rest.drop 1).take 3 = server.ip.bytes.take 3 then
    rest[4]?.bind fun host =>
      if inside : (host - dhcpsBaseIp).toNat < dhcpsMaxIp then
        some ⟨(host - dhcpsBaseIp).toNat, inside⟩
      else none
  else none

theorem hostname_faults (options : Block 312) :
    (hostname options).FaultsIff
      ((Options.search dhcpOptHostName (window options)).Short nameNeed) := by
  cases found : Options.search dhcpOptHostName (window options) with
  | absent =>
      refine .finishes [] ?_ id
      rw [hostname, optFind_eq, found]
      rfl
  | cut =>
      refine .faults ?_ trivial
      rw [hostname, optFind_eq, found]
      rfl
  | here rest =>
      rcases optFind_here found with ⟨front, displayed, walked⟩
      have length := load_behind displayed 0
      rw [hostname, walked, Exec.done_bind]
      change (options.load (front.length + 1) >>= _).FaultsIff _
      rw [length]
      cases rest with
      | nil => exact .faults rfl Nat.zero_lt_one
      | cons size name =>
          have cut : (if 31 < size.toNat then 31 else size.toNat) = min 31 size.toNat := by
            split <;> omega
          have read := slice_behind displayed 1 (min 31 size.toNat)
          change (options.slice (front.length + 2)
            (if 31 < size.toNat then 31 else size.toNat) >>= _).FaultsIff _
          rw [cut, read]
          by_cases inside : 1 + min 31 size.toNat ≤ (size :: name).length
          · rw [if_pos inside]
            exact .finishes _ rfl (Nat.not_lt.mpr inside)
          · rw [if_neg inside]
            exact .faults rfl (Nat.lt_of_not_le inside)

/-- The code reads as much as is needed, and finds the lease that is asked for. -/
theorem requestedLease_search (server : DhcpServer) (options : Block 312) :
    requestedLease server options =
      match Options.search dhcpOptRequestedIp (window options) with
      | .absent => .done none
      | .cut => .fault
      | .here rest =>
          if rest.length < addressNeed server rest then .fault else .done (asked server rest) := by
  cases found : Options.search dhcpOptRequestedIp (window options) with
  | absent =>
      rw [requestedLease, optFind_eq, found]
      rfl
  | cut =>
      rw [requestedLease, optFind_eq, found]
      rfl
  | here rest =>
      rcases optFind_here found with ⟨front, displayed, walked⟩
      have network := slice_behind displayed 1 3
      have host := load_behind displayed 4
      rw [requestedLease, walked, Exec.done_bind]
      change options.slice (front.length + 2) 3 >>= _ =
        if rest.length < addressNeed server rest then Exec.fault else .done (asked server rest)
      rw [network]
      by_cases inside : 1 + 3 ≤ rest.length
      · rw [if_pos inside, Exec.done_bind]
        by_cases same : (rest.drop 1).take 3 = server.ip.bytes.take 3
        · have need : addressNeed server rest = 5 := if_pos same
          rw [if_neg (not_not_intro same), need, asked, if_pos same]
          change options.load (front.length + (4 + 1)) >>= _ = _
          rw [host]
          by_cases last : 4 < rest.length
          · rw [if_neg (by omega), List.getElem?_eq_getElem last, Option.bind_some]
            change dite _ _ _ = Exec.done (dite _ _ _)
            split <;> rfl
          · rw [if_pos (by omega), List.getElem?_eq_none (Nat.le_of_not_lt last)]
            rfl
        · have need : addressNeed server rest = 4 := if_neg same
          rw [if_pos same, need, asked, if_neg same, if_neg (Nat.not_lt.mpr inside)]
      · have differs : (rest.drop 1).take 3 ≠ server.ip.bytes.take 3 := by
          intro same
          have size := congrArg List.length same
          rw [List.length_take, List.length_drop, List.length_take, server.ip.length_bytes] at size
          omega
        have need : addressNeed server rest = 4 := if_neg differs
        rw [if_neg inside, need, if_pos (Nat.lt_of_not_le inside)]
        rfl

theorem requestedLease_faults (server : DhcpServer) (options : Block 312) :
    (requestedLease server options).FaultsIff
      ((Options.search dhcpOptRequestedIp (window options)).Short (addressNeed server)) := by
  rw [requestedLease_search]
  cases Options.search dhcpOptRequestedIp (window options) with
  | absent => exact Exec.faultsIff_done none
  | cut => exact .faults rfl trivial
  | here rest =>
      change (ite _ _ _ : Exec _).FaultsIff (rest.length < addressNeed server rest)
      split
      · rename_i short
        exact .faults rfl short
      · rename_i enough
        exact .finishes _ rfl enough

/-- A lease is found exactly when it is asked for in an option that is all there. -/
theorem requestedLease_done_iff {server : DhcpServer} {options : Block 312}
    (kept : ¬ (Options.search dhcpOptRequestedIp (window options)).Short (addressNeed server))
    {yi : Fin dhcpsMaxIp} : requestedLease server options = .done (some yi) ↔
      ∃ rest, Options.search dhcpOptRequestedIp (window options) = .here rest ∧
        asked server rest = some yi := by
  rw [requestedLease_search]
  cases found : Options.search dhcpOptRequestedIp (window options) with
  | absent => exact iff_of_false nofun nofun
  | cut => exact iff_of_false nofun nofun
  | here rest =>
      rw [found] at kept
      change (ite _ _ _) = _ ↔ _
      rw [if_neg (show ¬ rest.length < addressNeed server rest from kept), Exec.done.injEq]
      constructor
      · intro asks
        exact ⟨rest, rfl, asks⟩
      · rintro ⟨other, same, asks⟩
        cases same
        exact asks

/-! ## The whole server -/

/-- A request has its address cut off, or its name when the address is given. -/
def RequestOverruns (server : DhcpServer) (mac : Block 6) (window : List UInt8) : Prop :=
  (Options.search dhcpOptRequestedIp window).Short (addressNeed server) ∨
    ∃ rest yi, Options.search dhcpOptRequestedIp window = .here rest ∧
      asked server rest = some yi ∧
      ((server.lease yi).mac = mac ∨ (server.lease yi).mac = .zero 6) ∧
      (Options.search dhcpOptHostName window).Short nameNeed

/-- What the server looks for in the window is not there as far as it reads it. -/
def Overruns (server : DhcpServer) (mac : Block 6) (window : List UInt8) : Prop :=
  (Options.search dhcpOptMsgType window).Short (fun _ => 2) ∨
    ∃ rest, Options.search dhcpOptMsgType window = .here rest ∧ rest[1]? = some dhcpRequest ∧
      RequestOverruns server mac window

theorem reply_faults {α : Type} (server : DhcpServer) (allocated : Bool) (dhcpMsg : DhcpMsg)
    (type : UInt8) (finish : List DhcpEvent → α) :
    (optWriteU8 dhcpOptMsgType type (dhcpMsg.options, 4) >>= fun opt =>
      sendReply server allocated dhcpMsg opt >>= fun sent =>
        Exec.done (finish sent)).FaultsIff False := by
  rw [← Exec.bind_assoc, sendReply_eq]
  exact Exec.faultsIff_done _

theorem processDiscover_faults (server : DhcpServer) (ticks : Nat → UInt32) (allocated : Bool)
    (dhcpMsg : DhcpMsg) : (processDiscover server ticks allocated dhcpMsg).FaultsIff False := by
  unfold processDiscover
  split
  · exact Exec.faultsIff_done _
  · rename_i lease yi _
    exact reply_faults server allocated (dhcpMsg.withAddress yi) dhcpOffer
      fun sent => ({ server with lease }, sent)

theorem processRequest_faults (server : DhcpServer) (ticks : Nat → UInt32) (allocated : Bool)
    (dhcpMsg : DhcpMsg) :
    (processRequest server ticks allocated dhcpMsg).FaultsIff
      (RequestOverruns server dhcpMsg.mac (window dhcpMsg.options)) := by
  have parts : (processRequest server ticks allocated dhcpMsg).FaultsIff
      ((Options.search dhcpOptRequestedIp (window dhcpMsg.options)).Short (addressNeed server) ∨
        ∃ found, requestedLease server dhcpMsg.options = .done found ∧ ∃ yi, found = some yi ∧
          ((server.lease yi).mac = dhcpMsg.mac ∨ (server.lease yi).mac = .zero 6) ∧
          (Options.search dhcpOptHostName (window dhcpMsg.options)).Short nameNeed) := by
    unfold processRequest
    refine (requestedLease_faults server dhcpMsg.options).bind ?_
    intro found _
    cases found with
    | none => exact (Exec.faultsIff_done _).congr (iff_of_false id nofun)
    | some yi =>
        change (ite _ _ _ : Exec _).FaultsIff _
        split
        · rename_i free
          refine ((hostname_faults dhcpMsg.options).bind fun host _ =>
            reply_faults server allocated (dhcpMsg.withAddress yi) dhcpAck _).congr ?_
          constructor
          · rintro (short | ⟨_, _, never⟩)
            · exact ⟨yi, rfl, free, short⟩
            · exact never.elim
          · rintro ⟨_, _, _, short⟩
            exact Or.inl short
        · rename_i foreign
          refine (Exec.faultsIff_done _).congr (iff_of_false id ?_)
          rintro ⟨other, same, free, _⟩
          cases same
          exact foreign free
  refine parts.congr (or_congr_right' fun kept => ?_)
  constructor
  · rintro ⟨found, done, yi, same, free, short⟩
    rw [same] at done
    rcases (requestedLease_done_iff kept).mp done with ⟨rest, here, asks⟩
    exact ⟨rest, yi, here, asks, free, short⟩
  · rintro ⟨rest, yi, here, asks, free, short⟩
    exact ⟨some yi, (requestedLease_done_iff kept).mpr ⟨rest, here, asks⟩, yi, rfl, free, short⟩

theorem window_receivedMsg (server : DhcpServer) (stale : Block sizeofDhcpMsg)
    (packet : List UInt8) : window (receivedMsg server stale packet).options =
      (stale.receive packet).bytes.drop 240 := by
  have whole : ((stale.receive packet).bytes.drop 236).take 312 =
      (stale.receive packet).bytes.drop 236 := by
    refine List.take_of_length_le ?_
    rw [List.length_drop, Block.length_bytes]
    decide
  change (((stale.receive packet).bytes.drop 236).take 312).drop 4 = _
  rw [whole, List.drop_drop]

/-- The server finishes with a packet, or leaves its message, and it does so
exactly when the packet is long enough and something in it overruns. -/
theorem dhcpServerProcess_faults (server : DhcpServer) (stale : Block sizeofDhcpMsg)
    (ticks : Nat → UInt32) (allocated : Bool) (packet : List UInt8) :
    (dhcpServerProcess server stale ticks allocated packet).FaultsIff
      (dhcpMinSize ≤ packet.length ∧ Overruns server (receivedMsg server stale packet).mac
        ((stale.receive packet).bytes.drop 240)) := by
  rw [dhcpServerProcess]
  split
  · rename_i short
    exact (Exec.faultsIff_done _).congr (iff_of_false id fun long =>
      absurd long.1 (Nat.not_le.mpr short))
  · rename_i long
    have enough : dhcpMinSize ≤ packet.length := Nat.le_of_not_lt long
    have kept : ¬ min sizeofDhcpMsg packet.length < dhcpMinSize :=
      Nat.not_lt.mpr (Nat.le_min.mpr ⟨by decide, enough⟩)
    rw [if_neg kept, and_iff_right enough, ← window_receivedMsg]
    generalize receivedMsg server stale packet = dhcpMsg
    unfold Overruns
    change (optFind dhcpMsg.options dhcpOptMsgType >>= _).FaultsIff _
    cases found : Options.search dhcpOptMsgType (window dhcpMsg.options) with
    | absent =>
        rw [optFind_eq, found]
        refine (Exec.faultsIff_done _).congr (iff_of_false id ?_)
        rintro (impossible | ⟨_, impossible, _⟩)
        · exact impossible
        · cases impossible
    | cut =>
        rw [optFind_eq, found]
        exact .faults rfl (Or.inl trivial)
    | here rest =>
        rcases optFind_here found with ⟨front, displayed, walked⟩
        rw [walked, Exec.done_bind]
        change (dhcpMsg.options.load (front.length + (1 + 1)) >>= _).FaultsIff _
        rw [load_behind displayed 1]
        cases typed : rest[1]? with
        | none =>
            refine .faults rfl (Or.inl ?_)
            exact Nat.lt_succ_of_le (List.getElem?_eq_none_iff.mp typed)
        | some type =>
            have inside : 1 < rest.length := (List.getElem?_eq_some_iff.mp typed).1
            have full : ¬ (Options.Search.here rest).Short fun _ => 2 := Nat.not_lt.mpr inside
            rw [or_iff_right full]
            change (ite _ _ _ : Exec _).FaultsIff _
            split
            · rename_i discovers
              refine (processDiscover_faults server ticks allocated dhcpMsg).congr
                (iff_of_false id ?_)
              rintro ⟨other, same, requests, _⟩
              cases same
              rw [typed, discovers] at requests
              cases requests
            · split
              · rename_i requests
                refine (processRequest_faults server ticks allocated dhcpMsg).congr ?_
                constructor
                · intro overruns
                  exact ⟨rest, rfl, by rw [typed, requests], overruns⟩
                · rintro ⟨_, _, _, overruns⟩
                  exact overruns
              · rename_i neither
                refine (Exec.faultsIff_done _).congr (iff_of_false id ?_)
                rintro ⟨other, same, requests, _⟩
                cases same
                rw [typed] at requests
                cases requests
                exact neither rfl

/-- A whole message overruns nothing. -/
theorem Message.not_overruns (message : Message) (server : DhcpServer)
    (stale : Block sizeofDhcpMsg) : ¬ (dhcpMinSize ≤ message.packet.length ∧
      Overruns server (receivedMsg server stale message.packet).mac
        ((stale.receive message.packet).bytes.drop 240)) :=
  (dhcpServerProcess_faults server stale (fun _ => 0) true message.packet).finishes_iff.mp
    ⟨_, message.dhcpServerProcess_eq server stale (fun _ => 0) true⟩

/-! ## Runs -/

/-- The packet comes behind the one before it, and the server finishes with it. -/
def Finishes (host : Host) (delivery : Delivery) : Prop :=
  host.now ≤ delivery.readings 0 ∧
    ¬ (dhcpMinSize ≤ delivery.packet.length ∧
      Overruns host.server (receivedMsg host.server delivery.stale delivery.packet).mac
        ((delivery.stale.receive delivery.packet).bytes.drop 240))

theorem step_possible_iff (host : Host) (delivery : Delivery) :
    (∃ next, step host delivery = some next) ↔ Finishes host delivery := by
  have process := (dhcpServerProcess_faults host.server delivery.stale delivery.ticks
    delivery.allocated delivery.packet).finishes_iff
  rw [Finishes, ← process]
  constructor
  · rintro ⟨next, taken⟩
    unfold step at taken
    split at taken
    · rename_i later
      split at taken
      · rename_i server events done
        exact ⟨later, _, done⟩
      · cases taken
    · cases taken
  · rintro ⟨later, ⟨server, events⟩, done⟩
    exact ⟨_, step_of_done later done⟩

/-- A run of packets goes on to its end exactly when none of them, over the
leases that those before it have left, makes the server read behind its message. -/
theorem run_goes_on_iff (host : Host) (deliveries : List Delivery) :
    (∃ last, Transition.run step host deliveries = some last) ↔
      Transition.Guarded step Finishes host deliveries :=
  Transition.run_possible_iff_guarded step_possible_iff host deliveries

/-- A packet with two options that lead to the last byte of the field. -/
def overrunning : List UInt8 :=
  List.replicate 240 0 ++ ((1 :: 255 :: List.replicate 255 0) ++
    ((1 :: 48 :: List.replicate 48 0) ++ [12]))

example : dhcpServerProcess (dhcpServerInit gateway netmask) (.zero sizeofDhcpMsg) (fun _ => 0)
    true overrunning = .fault := by
  decide +kernel

end Dhcp
end NetLL
