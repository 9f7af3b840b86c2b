import Mathlib.Data.List.Perm.Basic
import XrtcServer.Base.Model.AsyncUdpSocket
/-!
# Packets over a UDP socket

A call of `sendto` settles a packet unless it would block: the kernel takes
the packet or refuses it. The packets given to `send_to` are, in order, those
that were settled and those that are queued. Sending at once never overtakes
the queue, as it is tried only after the queue has been emptied, and a packet
that is refused ends a round without taking another with it.
-/

namespace XrtcServer

namespace Base

variable {Addr : Type}

/-- The packets that the kernel took, and those that it refused. -/
def accepted (calls : List (UdpPacketData Addr × SendtoResult)) : List (UdpPacketData Addr) :=
  (calls.filter (·.2 = .sent)).map (·.1)

def refused (calls : List (UdpPacketData Addr × SendtoResult)) : List (UdpPacketData Addr) :=
  (calls.filter (·.2 = .error)).map (·.1)

/-- Both, in the order of the calls. -/
def settled (calls : List (UdpPacketData Addr × SendtoResult)) : List (UdpPacketData Addr) :=
  (calls.filter (·.2 ≠ .wouldBlock)).map (·.1)

/-- The packet of an event, if it gives one. -/
def UdpEvent.packet : UdpEvent Addr → Option (UdpPacketData Addr)
  | .sendTo data addr => some ⟨data, addr⟩
  | .writable => none

/-- The packets given to `send_to`. -/
def given (es : List (UdpEvent Addr)) : List (UdpPacketData Addr) := es.filterMap UdpEvent.packet

/-- The loop watches the socket for writing. -/
def IOWatcher.Waits (w : IOWatcher) : Prop := w.active = true ∧ w.events.write = true

/-- The packets are settled in order, and what is queued waits for the socket. -/
structure Queues (packets : List (UdpPacketData Addr)) (s : AsyncUdpSocket Addr) : Prop where
  ordered : packets = settled s.calls ++ s.udpPacketList
  waits : s.udpPacketList ≠ [] → s.socketWatcher.Waits

/-- What became of the packets: those taken are in order, unchanged and none
of them twice, and of the others each was refused or is queued. -/
structure Delivers (packets : List (UdpPacketData Addr)) (s : AsyncUdpSocket Addr) : Prop where
  accepted : (accepted s.calls).Sublist packets
  missing : packets.Perm (Base.accepted s.calls ++ refused s.calls ++ s.udpPacketList)
  ordered : packets = settled s.calls ++ s.udpPacketList
  waits : s.udpPacketList ≠ [] → s.socketWatcher.Waits

variable {kernel : ℕ → SendtoResult} {s : AsyncUdpSocket Addr}
variable {packets : List (UdpPacketData Addr)} {packet : UdpPacketData Addr}

/-! ## One packet -/

/-- What `sock_send_to` returns of a packet that it has settled, and else. -/
theorem settled_sendto (kernel : ℕ → SendtoResult) (s : AsyncUdpSocket Addr)
    (packet : UdpPacketData Addr) :
    (s.sendto kernel packet).2 ≠ 0 ∧
        settled (s.sendto kernel packet).1.calls = settled s.calls ++ [packet] ∨
      (s.sendto kernel packet).2 = 0 ∧
        settled (s.sendto kernel packet).1.calls = settled s.calls := by
  unfold AsyncUdpSocket.sendto settled
  dsimp only
  rw [List.filter_append, List.map_append]
  cases kernel s.calls.length with
  | sent =>
    refine .inl ⟨?_, rfl⟩
    unfold sockSendTo
    dsimp only
    split <;> omega
  | wouldBlock => exact .inr ⟨rfl, List.append_nil _⟩
  | error =>
    refine .inl ⟨?_, rfl⟩
    show (-1 : ℤ) ≠ 0
    omega

/-! ## The loop -/

/-- What one round over the queue leaves. -/
structure Sends (packets : List (UdpPacketData Addr)) (s : AsyncUdpSocket Addr)
    (r : AsyncUdpSocket Addr × Bool) : Prop where
  ordered : settled s.calls ++ packets = settled r.1.calls ++ r.1.udpPacketList
  emptied : r.2 = true → r.1.udpPacketList = []
  watcher : r.1.socketWatcher = s.socketWatcher
  queued : r.1.udpPacketList ≠ [] → packets ≠ []

theorem sendPackets_sends (kernel : ℕ → SendtoResult) (packets : List (UdpPacketData Addr))
    (s : AsyncUdpSocket Addr) :
    Sends packets s (AsyncUdpSocket.sendPackets kernel packets s) := by
  induction packets generalizing s with
  | nil => exact ⟨rfl, fun _ => rfl, rfl, fun h => absurd rfl h⟩
  | cons packet packets ih =>
    have hne : packet :: packets ≠ [] := List.cons_ne_nil packet packets
    unfold AsyncUdpSocket.sendPackets
    dsimp only
    rcases settled_sendto kernel s packet with ⟨hresult, hsettled⟩ | ⟨hresult, hsettled⟩
    · have hordered : settled s.calls ++ packet :: packets =
          settled (s.sendto kernel packet).1.calls ++ packets := by
        rw [hsettled, List.append_assoc]
        rfl
      split
      · exact ⟨hordered, nofun, rfl, fun _ => hne⟩
      · have hrest := ih (s.sendto kernel packet).1
        exact ⟨hordered.trans hrest.ordered, hrest.emptied, hrest.watcher, fun _ => hne⟩
    · rw [hresult, if_neg (by omega), if_pos rfl]
      refine ⟨?_, nofun, rfl, fun _ => hne⟩
      show _ = settled (s.sendto kernel packet).1.calls ++ _
      rw [hsettled]

/-! ## The handlers -/

theorem queues_sendDataFromList (kernel : ℕ → SendtoResult) (h : Queues packets s) :
    Queues packets (s.sendDataFromList kernel).1 ∧
      ((s.sendDataFromList kernel).2 = true →
        (s.sendDataFromList kernel).1.udpPacketList = []) := by
  have hsends := sendPackets_sends kernel s.udpPacketList s
  refine ⟨⟨h.ordered.trans hsends.ordered, fun hne => ?_⟩, hsends.emptied⟩
  have hsame : (s.sendDataFromList kernel).1.socketWatcher = s.socketWatcher := hsends.watcher
  rw [hsame]
  exact h.waits (hsends.queued hne)

theorem startIoEvent_waits (w : IOWatcher) (fd : ℤ) : (w.startIoEvent fd .WRITE).Waits := by
  unfold IOWatcher.startIoEvent
  dsimp only
  split
  · rename_i hactive
    split
    · rename_i hsame
      refine ⟨hactive, ?_⟩
      rw [← hsame]
      rfl
    · exact ⟨rfl, rfl⟩
  · exact ⟨rfl, rfl⟩

theorem queues_sendAgain (h : Queues packets s) (packet : UdpPacketData Addr) :
    Queues (packets ++ [packet]) (s.sendAgain packet).1 := by
  refine ⟨?_, fun _ => startIoEvent_waits _ _⟩
  rw [h.ordered, List.append_assoc]
  rfl

theorem queues_addUdpPacket (kernel : ℕ → SendtoResult) (h : Queues packets s)
    (packet : UdpPacketData Addr) :
    Queues (packets ++ [packet]) (s.addUdpPacket kernel packet).1 := by
  obtain ⟨hqueues, hemptied⟩ := queues_sendDataFromList kernel h
  unfold AsyncUdpSocket.addUdpPacket
  dsimp only
  generalize s.sendDataFromList kernel = r at hqueues hemptied
  obtain ⟨s, ok⟩ := r
  dsimp only at hqueues hemptied ⊢
  split
  · exact queues_sendAgain hqueues packet
  · rename_i hok
    have hempty := hemptied (by simpa using hok)
    have hordered := hqueues.ordered
    rw [hempty, List.append_nil] at hordered
    -- with nothing queued, what is settled is all
    have hall : Queues (settled (s.sendto kernel packet).1.calls) (s.sendto kernel packet).1 := by
      refine ⟨?_, fun hne => absurd hempty hne⟩
      show _ = settled (s.sendto kernel packet).1.calls ++ s.udpPacketList
      rw [hempty, List.append_nil]
    rcases settled_sendto kernel s packet with ⟨hresult, hsettled⟩ | ⟨hresult, hsettled⟩
    · rw [hsettled, ← hordered] at hall
      split
      · exact hall
      · exact hall
    · rw [hsettled, ← hordered] at hall
      rw [hresult, if_neg (by omega), if_pos rfl]
      exact queues_sendAgain hall packet

theorem queues_sendData (kernel : ℕ → SendtoResult) (h : Queues packets s) :
    Queues packets (s.sendData kernel) := by
  obtain ⟨hqueues, -⟩ := queues_sendDataFromList kernel h
  unfold AsyncUdpSocket.sendData
  dsimp only
  split
  · rename_i hempty
    exact ⟨hqueues.ordered, fun hne => absurd hempty hne⟩
  · exact hqueues

/-! ## A run -/

theorem queues_handle (kernel : ℕ → SendtoResult) (h : Queues packets s) (e : UdpEvent Addr) :
    Queues (packets ++ e.packet.toList) (s.handle kernel e) := by
  cases e with
  | sendTo data addr => exact queues_addUdpPacket kernel h ⟨data, addr⟩
  | writable =>
    rw [UdpEvent.packet, Option.toList_none, List.append_nil]
    exact queues_sendData kernel h

theorem queues_handleAll (kernel : ℕ → SendtoResult) (h : Queues packets s)
    (es : List (UdpEvent Addr)) : Queues (packets ++ given es) (s.handleAll kernel es) := by
  induction es generalizing packets s with
  | nil =>
    rw [given, List.filterMap_nil, List.append_nil]
    exact h
  | cons e es ih =>
    have hgiven : given (e :: es) = e.packet.toList ++ given es := by
      unfold given
      cases hpacket : e.packet <;> simp [hpacket]
    rw [hgiven, ← List.append_assoc]
    exact ih (queues_handle kernel h e)

theorem Queues.delivers (h : Queues packets s) : Delivers packets s := by
  have htaken : (s.calls.filter (·.2 ≠ .wouldBlock)).filter (·.2 = .sent) =
      s.calls.filter (·.2 = .sent) := by
    rw [List.filter_filter]
    refine List.filter_congr fun c _ => ?_
    cases c.2 <;> rfl
  have hrefused : (s.calls.filter (·.2 ≠ .wouldBlock)).filter (fun c => !decide (c.2 = .sent)) =
      s.calls.filter (·.2 = .error) := by
    rw [List.filter_filter]
    refine List.filter_congr fun c _ => ?_
    cases c.2 <;> rfl
  have hsettled : (settled s.calls).Perm (accepted s.calls ++ refused s.calls) := by
    unfold settled accepted refused
    rw [← List.map_append, ← htaken, ← hrefused]
    exact (List.filter_append_perm _ _).symm.map _
  refine ⟨?_, ?_, h.ordered, h.waits⟩
  · rw [h.ordered]
    refine List.Sublist.trans ?_ (List.sublist_append_left (settled s.calls) s.udpPacketList)
    unfold settled accepted
    rw [← htaken]
    exact List.filter_sublist.map _
  · rw [h.ordered]
    exact hsettled.append_right s.udpPacketList

/-- **No packet is lost, doubled or overtaken**, whatever the kernel answers
and whenever the socket is ready, and what is queued waits for the socket. -/
theorem delivers_handleAll (kernel : ℕ → SendtoResult) (socket fd : ℤ) (events : IOMask)
    (es : List (UdpEvent Addr)) :
    Delivers (given es) ((AsyncUdpSocket.create socket fd events).handleAll kernel es) := by
  have hstart : Queues [] (AsyncUdpSocket.create socket fd events : AsyncUdpSocket Addr) :=
    ⟨rfl, fun hne => absurd rfl hne⟩
  exact (queues_handleAll kernel hstart es).delivers

/-- A second packet waits behind the first, and both go when the socket is
ready. -/
example :
    accepted ((AsyncUdpSocket.create 5 (-1) .NONE : AsyncUdpSocket ℕ).handleAll
      (fun n => if n < 2 then .wouldBlock else .sent)
      [.sendTo [1] 7, .sendTo [2] 7, .writable]).calls = [⟨[1], 7⟩, ⟨[2], 7⟩] := by
  decide

end Base

end XrtcServer
