import LedgerNet.Proofs.Net.Ip
import LedgerNet.Proofs.Program.Conversation
import LedgerNet.Rehearsal.LocalNetwork
import LedgerNet.Staking.Peers

/-!
# Who passes as a peer

A node names its peers by sockets: for version 4 the address, a colon and the
port, for version 6 the address in brackets, a colon and the port. What is
compared with the expected participants is the part before the last colon. For
version 4 that is the text of the address, which no other address has. For
version 6 it is the text with its brackets on, which is the text of no address
at all: no peer of version 6 passes, whoever is expected.

So the peers that pass are the expected ones of version 4
(`Peers.isExpected_iff`). The nodes are asked in order, and the first answer
that does not pass ends everything (`Peers.verify_finds_strangers`): a failed
query or the first stranger among the peers is reported, and no later node is
asked.
-/

namespace LedgerNet

/-! ## Sockets -/

/-- **A peer that a node sees**: where it is reached, and its identity. -/
structure SeenPeer where
  ip : Ip
  port : UInt16
  nodeId : String
  deriving DecidableEq

namespace SeenPeer

/-- **What an address is called in a socket**: an address of version 6 has
brackets, so that its colons are not taken for the one before the port. -/
def hostText : Ip → String
  | .v4 ip => ip.text
  | .v6 ip => "[" ++ ip.text ++ "]"

/-- The socket of a peer in the standard notation. -/
def socket (peer : SeenPeer) : String :=
  hostText peer.ip ++ ":" ++ toString peer.port.toNat

/-- **The peer as the node reports it.** -/
def reported (peer : SeenPeer) : ConnectedPeer := ⟨peer.socket, peer.nodeId⟩

end SeenPeer

/-- **A socket is cut at its last colon.** -/
theorem ConnectedPeer.host_append {front port : String} (nodeId : String)
    (hport : ':' ∉ port.toList) :
    (ConnectedPeer.mk (front ++ ":" ++ port) nodeId).host = front := by
  have hletters : (front ++ ":" ++ port).toList = front.toList ++ ':' :: port.toList := by
    simp
  have hskip : ∀ c ∈ port.toList.reverse, (c != ':') = true := by
    intro c hc
    refine bne_iff_ne.2 fun h => hport ?_
    rw [← h]
    exact List.mem_reverse.1 hc
  unfold host
  simp only [hletters]
  rw [if_pos (List.mem_append_right _ List.mem_cons_self), List.reverse_append,
    List.reverse_cons, List.append_assoc, List.dropWhile_append_of_pos hskip]
  simp

/-- The host part of a socket is what its address is called there. -/
@[simp] theorem SeenPeer.host_reported (peer : SeenPeer) :
    peer.reported.host = hostText peer.ip := by
  refine ConnectedPeer.host_append peer.nodeId fun h => ?_
  exact absurd (mem_digits_of_mem_toString h) (by decide)

/-- **What has brackets is the text of no address.** -/
theorem Ip.text_ne_bracketed (ip : Ip) (text : String) : ip.text ≠ "[" ++ text ++ "]" := by
  intro h
  have hbracket : '[' ∈ ip.text.toList := by
    rw [h]
    simp
  exact absurd (isLetter_of_mem_text hbracket) (by decide)

namespace Peers

variable {κ σ : Type} {expected : List (Participant κ)}

/-! ## One peer -/

/-- **A peer that passes**: its address is of version 4, and it is the address
of a participant that is expected. -/
def IsKnown (expected : List (Participant κ)) (peer : SeenPeer) : Prop :=
  (∃ address, peer.ip = .v4 address) ∧ ∃ node ∈ expected, node.ip = peer.ip

/-- **What the comparison of texts comes to.** -/
theorem isExpected_iff {peer : SeenPeer} :
    isExpected expected peer.reported = true ↔ IsKnown expected peer := by
  unfold isExpected IsKnown
  simp only [SeenPeer.host_reported, List.any_eq_true, beq_iff_eq]
  cases peer.ip with
  | v4 address =>
    constructor
    · rintro ⟨node, hmem, htext⟩
      exact ⟨⟨address, rfl⟩, node, hmem, Ip.text_eq_v4_iff.1 htext⟩
    · rintro ⟨-, node, hmem, hip⟩
      exact ⟨node, hmem, Ip.text_eq_v4_iff.2 hip⟩
  | v6 address =>
    constructor
    · rintro ⟨node, -, htext⟩
      exact absurd htext (node.ip.text_ne_bracketed address.text)
    · rintro ⟨⟨_, hip⟩, -⟩
      cases hip

/-! ## One report -/

/-- **A report**: the peers that a node sees, or why the query failed. -/
abbrev Report := Outcome ApiError (List SeenPeer)

/-- A report as it comes in. -/
def Report.asReply (report : Report) : Outcome ApiError (List ConnectedPeer) :=
  report.map fun peers => peers.map SeenPeer.reported

/-- **A report that passes**: the query succeeded, and every peer in it is
known. -/
def Report.Passes (expected : List (Participant κ)) (report : Report) : Prop :=
  ∃ peers, report = .ok peers ∧ ∀ peer ∈ peers, IsKnown expected peer

/-- **How a report fails**: as the query did, or by the first peer in it that
is not known. -/
def Report.FailsBy (expected : List (Participant κ)) (report : Report)
    (failure : Failure StakingError) : Prop :=
  (∃ cause, report = .error cause ∧ failure = cause.map (.api "info.peers"))
    ∨ ∃ before stranger after, report = .ok (before ++ stranger :: after)
      ∧ (∀ peer ∈ before, IsKnown expected peer) ∧ ¬ IsKnown expected stranger
      ∧ failure = .error (.peerMismatch (SeenPeer.hostText stranger.ip) (bookOf expected))

/-- A report that fails does not pass. -/
theorem Report.FailsBy.not_passes {report : Report} {failure : Failure StakingError}
    (h : report.FailsBy expected failure) : ¬ report.Passes expected := by
  rintro ⟨peers, hpeers, hknown⟩
  obtain ⟨cause, rfl, -⟩ | ⟨before, stranger, after, rfl, -, hstranger, -⟩ := h
  · cases hpeers
  · obtain rfl := Except.ok.inj hpeers
    exact hstranger (hknown stranger (List.mem_append_right _ List.mem_cons_self))

/-- **What one node contributes**: its query, and nothing more if its report
passes; otherwise the failure of its report. -/
theorem runOn_verifyNode {answer : Proc.Handler (Clients κ) σ} {round : Duration → Duration}
    {t : Timeline σ} {node : Participant κ} {report : Report}
    (h : (answer (node.client, .peers) t.world).1 = report.asReply) :
    ∃ outcome, (verifyNode expected node).runOn (Timeline.handlerOn round answer) t
        = (outcome, { t with world := (answer (node.client, .peers) t.world).2 })
      ∧ (outcome = .ok () ∧ report.Passes expected
        ∨ ∃ failure, outcome = .error failure ∧ report.FailsBy expected failure) := by
  have hcall : (node.call .peers).runOn (Timeline.handlerOn round answer) t
      = (report.asReply.mapError (Failure.map (.api "info.peers")),
        { t with world := (answer (node.client, .peers) t.world).2 }) := by
    rw [← h]
    exact Attempt.runOn_wrap _
  cases report with
  | error cause =>
    exact ⟨_, Attempt.runOn_bind_error hcall, Or.inr ⟨_, rfl, Or.inl ⟨cause, rfl, rfl⟩⟩⟩
  | ok peers =>
    unfold verifyNode
    rw [Attempt.runOn_bind_ok hcall]
    cases hfind : (peers.map SeenPeer.reported).find? fun peer => !isExpected expected peer with
    | none =>
      refine ⟨.ok (), rfl, Or.inl ⟨rfl, peers, rfl, fun peer hpeer => isExpected_iff.1 ?_⟩⟩
      have hall := List.find?_eq_none.1 hfind peer.reported (List.mem_map_of_mem hpeer)
      simpa using hall
    | some found =>
      obtain ⟨hfound, front, back, hsplit, hfront⟩ := List.find?_eq_some_iff_append.1 hfind
      obtain ⟨before, others, rfl, rfl, hothers⟩ := List.map_eq_append_iff.1 hsplit
      obtain ⟨stranger, after, rfl, rfl, rfl⟩ := List.map_eq_cons_iff.1 hothers
      refine ⟨_, rfl, Or.inr ⟨_, rfl, Or.inr ⟨before, stranger, after, rfl, ?_, ?_, ?_⟩⟩⟩
      · intro peer hpeer
        have hknown := hfront peer.reported (List.mem_map_of_mem hpeer)
        exact isExpected_iff.1 (by simpa using hknown)
      · intro hknown
        rw [isExpected_iff.2 hknown] at hfound
        cases hfound
      · rw [SeenPeer.host_reported]

/-! ## All nodes -/

/-- **The reports of some nodes** if all of them are asked one after another:
a report may depend on what was asked before. -/
def reports (report : κ → σ → Report × σ) :
    List (Participant κ) → σ → List (κ × Report)
  | [], _ => []
  | node :: rest, world =>
    let told := report node.client world
    (node.client, told.1) :: reports report rest told.2

/-- A query for peers and its report, as an exchange. -/
def exchange (told : κ × Report) : Exchange (Clients κ) :=
  ⟨(told.1, .peers), told.2.asReply⟩

/-- **Nodes that tell of their peers** in the standard notation. -/
def TellPeers (nodes : List (Participant κ)) (answer : Proc.Handler (Clients κ) σ)
    (report : κ → σ → Report × σ) : Prop :=
  ∀ node ∈ nodes, ∀ world, answer (node.client, .peers) world
    = ((report node.client world).1.asReply, (report node.client world).2)

/-- **How a verification ends** and what it asks: all reports pass, or it ends
with the failure of the first one that does not, and that is the last one that
was asked for. -/
def Verified (expected : List (Participant κ)) (told : List (κ × Report))
    (outcome : Outcome StakingError Unit) (said : List (Exchange (Clients κ))) : Prop :=
  (outcome = .ok () ∧ (∀ one ∈ told, one.2.Passes expected) ∧ said = told.map exchange)
    ∨ ∃ failure before last after, outcome = .error failure
      ∧ told = before ++ last :: after ∧ (∀ one ∈ before, one.2.Passes expected)
      ∧ last.2.FailsBy expected failure ∧ said = (before ++ [last]).map exchange

/-- A report that passes can stand before any verification. -/
theorem Verified.cons {told : List (κ × Report)} {outcome : Outcome StakingError Unit}
    {said : List (Exchange (Clients κ))} {one : κ × Report} (hone : one.2.Passes expected)
    (h : Verified expected told outcome said) :
    Verified expected (one :: told) outcome (exchange one :: said) := by
  obtain ⟨rfl, hall, rfl⟩ | ⟨failure, before, last, after, rfl, rfl, hbefore, hlast, rfl⟩ := h
  · exact Or.inl ⟨rfl, List.forall_mem_cons.2 ⟨hone, hall⟩, rfl⟩
  · exact Or.inr ⟨failure, one :: before, last, after, rfl, rfl,
      List.forall_mem_cons.2 ⟨hone, hbefore⟩, hlast, rfl⟩

/-- **A verification runs down the nodes**, by induction on those that are
left. -/
theorem runOn_verify {answer : Proc.Handler (Clients κ) σ} {report : κ → σ → Report × σ}
    {nodes : List (Participant κ)} (htell : TellPeers nodes answer report)
    (round : Duration → Duration) (t : Timeline (σ × List (Exchange (Clients κ)))) :
    ∃ outcome said left,
      (verify nodes expected).runOn (Timeline.handlerOn round (Proc.recorded answer)) t
        = (outcome, { t with world := (left, t.world.2 ++ said) })
      ∧ Verified expected (reports report nodes t.world.1) outcome said := by
  induction nodes generalizing t with
  | nil =>
    refine ⟨.ok (), [], t.world.1, ?_, Or.inl ⟨rfl, List.forall_mem_nil _, rfl⟩⟩
    rw [List.append_nil]
    rfl
  | cons node rest ih =>
    have htold := htell node List.mem_cons_self t.world.1
    have hreply : (Proc.recorded answer (node.client, .peers) t.world).1
        = (report node.client t.world.1).1.asReply :=
      congrArg Prod.fst htold
    have hworld : (Proc.recorded answer (node.client, .peers) t.world).2
        = ((report node.client t.world.1).2,
          t.world.2 ++ [exchange (node.client, (report node.client t.world.1).1)]) := by
      unfold Proc.recorded exchange
      rw [htold]
    obtain ⟨outcome, hrun, hends⟩ := runOn_verifyNode hreply
    rw [hworld] at hrun
    obtain ⟨rfl, hpasses⟩ | ⟨failure, rfl, hfails⟩ := hends
    · obtain ⟨outcome, said, left, hrest, hverified⟩ := ih
        (fun other hother => htell other (List.mem_cons_of_mem node hother))
        { t with world := ((report node.client t.world.1).2,
          t.world.2 ++ [exchange (node.client, (report node.client t.world.1).1)]) }
      refine ⟨outcome, _, left, ?_, hverified.cons hpasses⟩
      refine (Attempt.runOn_bind_ok hrun).trans (hrest.trans ?_)
      rw [List.append_assoc]
      rfl
    · exact ⟨.error failure, _, _, Attempt.runOn_bind_error hrun, Or.inr ⟨failure, [],
        (node.client, (report node.client t.world.1).1), _, rfl, rfl, List.forall_mem_nil _,
        hfails, rfl⟩⟩

/-- **Verification finds the first stranger.** On a network whose nodes tell of
their peers in the standard notation, a verification succeeds if and only if
every query succeeds and every peer that is told of has the address of an
expected participant, and that address is of version 4. Then every node has
been asked once, in order. If it fails, it fails by the first report that does
not pass, with the failure of that query or of the first unknown peer in it,
and the nodes after that one have not been asked. -/
theorem verify_finds_strangers {answer : Proc.Handler (Clients κ) σ}
    {report : κ → σ → Report × σ} {nodes : List (Participant κ)}
    (htell : TellPeers nodes answer report) (expected : List (Participant κ))
    (t : Timeline (σ × List (Exchange (Clients κ)))) :
    let told := reports report nodes t.world.1
    let ended := (verify nodes expected).runOn (Timeline.handler (Proc.recorded answer)) t
    (ended.1 = .ok () ↔ ∀ one ∈ told, ∃ peers, one.2 = .ok peers ∧ ∀ peer ∈ peers,
        (∃ address, peer.ip = .v4 address) ∧ ∃ node ∈ expected, node.ip = peer.ip)
      ∧ (ended.1 = .ok () → ended.2.world.2 = t.world.2 ++ told.map exchange)
      ∧ ∀ failure, ended.1 = .error failure →
        ∃ before last after, told = before ++ last :: after
          ∧ (∀ one ∈ before, one.2.Passes expected) ∧ last.2.FailsBy expected failure
          ∧ ended.2.world.2 = t.world.2 ++ (before ++ [last]).map exchange := by
  intro told ended
  obtain ⟨outcome, said, left, hrun, hverified⟩ :=
    runOn_verify htell Timeline.tick t
  rw [← Timeline.handler_eq_handlerOn] at hrun
  have hended : ended = (outcome, { t with world := (left, t.world.2 ++ said) }) := hrun
  rw [hended]
  obtain ⟨rfl, hall, rfl⟩ | ⟨failure, before, last, after, rfl, htold, hbefore, hlast, rfl⟩
    := hverified
  · exact ⟨iff_of_true rfl hall, fun _ => rfl, nofun⟩
  · have hmem : last ∈ told := by
      rw [show told = before ++ last :: after from htold]
      exact List.mem_append_right _ List.mem_cons_self
    refine ⟨iff_of_false nofun fun hall => hlast.not_passes (hall last hmem), nofun, ?_⟩
    intro other hother
    obtain rfl := Except.error.inj hother
    exact ⟨before, last, after, htold, hbefore, hlast, rfl⟩

/-! ### Neighbours -/

/-- A participant that is called by its address. -/
def member (id : String) (ip : Ip) : Participant Ip :=
  ⟨id, ip, ip, ⟨id, "pw"⟩, "NodeID-" ++ id, "X-local1" ++ id, "P-local1" ++ id,
    LocalNetwork.stakingSettings⟩

/-- The peer that a participant is to its neighbours. -/
def seen (node : Participant κ) : SeenPeer := ⟨node.ip, 9651, node.nodeId⟩

/-- What nodes tell that each see the neighbours listed beside them. -/
def seeing (neighbours : List (Participant Ip × List (Participant Ip))) (client : Ip)
    (world : Unit) : Report × Unit :=
  (.ok (((neighbours.find? fun row => row.1.client = client).map fun row =>
    row.2.map seen).getD []), world)

/-- A network of which nothing is asked but for peers. -/
def telling (report : κ → σ → Report × σ) : Proc.Handler (Clients κ) σ
  | (client, .peers), world => ((report client world).1.asReply, (report client world).2)
  | _, world => (Outcome.crashed (.breakdown "nothing else is known"), world)

/-- Two nodes of version 4 and one of version 6. -/
def ann : Participant Ip := member "ann" (.v4 (.ofOctets 10 0 0 1))
def bob : Participant Ip := member "bob" (.v4 (.ofOctets 10 0 0 2))
def eve : Participant Ip := member "eve" (.v6 ⟨[0xfd00, 0, 0, 0, 0, 0, 0, 1], rfl⟩)

/-- Two nodes that see each other pass, one that sees nobody passes with
them. -/
theorem verify_finds_strangers_pair :
    TellPeers [ann, bob, eve] (telling (seeing [(ann, [bob]), (bob, [ann])]))
        (seeing [(ann, [bob]), (bob, [ann])])
      ∧ ((verify [ann, bob, eve] [bob, ann]).runOn
          (Timeline.handler (Proc.recorded (telling (seeing [(ann, [bob]), (bob, [ann])]))))
          (Timeline.start .zero ((), []))).1 = .ok () := by
  have htell : TellPeers [ann, bob, eve] (telling (seeing [(ann, [bob]), (bob, [ann])]))
      (seeing [(ann, [bob]), (bob, [ann])]) := fun _ _ _ => rfl
  refine ⟨htell, (verify_finds_strangers htell [bob, ann] _).1.2 ?_⟩
  intro one hone
  have htold : one ∈ [(ann.client, (.ok [seen bob] : Report)), (bob.client, .ok [seen ann]),
      (eve.client, .ok [])] := hone
  simp only [List.mem_cons, List.not_mem_nil, or_false] at htold
  rcases htold with rfl | rfl | rfl
  · exact ⟨_, rfl, List.forall_mem_singleton.2 ⟨⟨_, rfl⟩, bob, by simp, rfl⟩⟩
  · exact ⟨_, rfl, List.forall_mem_singleton.2 ⟨⟨_, rfl⟩, ann, by simp, rfl⟩⟩
  · exact ⟨_, rfl, List.forall_mem_nil _⟩

/-- **A participant of version 6 is taken for a stranger** although it is the
one that is expected. -/
theorem verify_refuses_expected :
    (∀ one ∈ reports (seeing [(ann, [eve])]) [ann] (), ∃ peers, one.2 = .ok peers
        ∧ ∀ peer ∈ peers, ∃ node ∈ [eve], node.ip = peer.ip)
      ∧ ((verify [ann] [eve]).runOn
          (Timeline.handler (Proc.recorded (telling (seeing [(ann, [eve])]))))
          (Timeline.start .zero ((), []))).1
        = Outcome.failed (.peerMismatch "[fd00::1]" [("NodeID-eve", "fd00::1")]) := by
  constructor
  · intro one hone
    have htold : one ∈ [(ann.client, (.ok [seen eve] : Report))] := hone
    obtain rfl := List.mem_singleton.1 htold
    exact ⟨_, rfl, List.forall_mem_singleton.2 ⟨eve, List.mem_singleton_self eve, rfl⟩⟩
  · decide +kernel

end Peers

end LedgerNet
