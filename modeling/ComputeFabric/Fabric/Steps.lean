import ComputeFabric.Coordinator.Outbox
import ComputeFabric.Fabric.Run
import ComputeFabric.Node.Steps

/-!
# `Fabric.Steps` — what one step of the fabric can do

`Network.Moved` lists the moves of the network once, for every proof about runs of the fabric: the network keeps
its processes and the readers go on; a process is created; a process connects; a process takes a step, reads
from the coordinator's log at its own position and writes onto its own connection.

The other half is the log. What the coordinator has queued on a connection is never taken back, not even by a
restart (`step_sentTo`), so a position in it means the same for ever.
-/

namespace ComputeFabric

open Coordinator

variable {D : Type}

/-! ## The coordinator's log -/

theorem mem_sentTo {s : Coordinator D} {conn : ConnId} {m : Message D} :
    m ∈ s.sentTo conn ↔ ∃ req, (conn, req, m) ∈ s.outbox := by
  unfold sentTo outbox
  simp only [List.mem_filterMap, List.mem_reverse]
  constructor
  · rintro ⟨effect, hmem, hm⟩
    cases effect with
    | queued c req m' =>
        dsimp only at hm
        split_ifs at hm with hc
        cases hm
        exact ⟨req, _, hmem, by rw [← hc]; rfl⟩
    | _ => cases hm
  · rintro ⟨req, effect, hmem, hf⟩
    refine ⟨effect, hmem, ?_⟩
    cases effect with
    | queued c req' m' =>
        cases hf
        exact if_pos rfl
    | _ => cases hf

/-- The frames of one connection, as a part of all frames. -/
theorem sentTo_eq (s : Coordinator D) (conn : ConnId) :
    s.sentTo conn = s.outbox.filterMap fun f => if f.1 = conn then some f.2.2 else none := by
  unfold sentTo outbox
  rw [List.filterMap_filterMap]
  refine List.filterMap_congr fun effect _ => ?_
  cases effect <;> rfl

variable [DoubleArith D] {env : Env}

/-- **Nothing that was queued is taken back.** -/
theorem step_outbox {s s' : Coordinator D} {e : Event D} (h : step env s e = some s') :
    ∃ frames, s'.outbox = s.outbox ++ frames := by
  cases e with
  | command c =>
      obtain rfl : s.process env c = s' := Option.some.inj h
      obtain ⟨frames, hframes, -⟩ := process_answered env c s
      exact ⟨frames, hframes⟩
  | sweep =>
      obtain rfl : s.sweep env = s' := Option.some.inj h
      obtain ⟨frames, hframes, -⟩ := sweep_outbox env s
      exact ⟨frames, hframes⟩
  | connectionStopped conn =>
      obtain rfl : s.stopConnection conn = s' := Option.some.inj h
      exact ⟨[], (List.append_nil s.outbox).symm⟩
  | stopRequested =>
      obtain rfl : s.requestStop = s' := Option.some.inj h
      exact ⟨[], (List.append_nil s.outbox).symm⟩
  | restart =>
      have hsame : s'.outbox = s.outbox := start_outbox (start_of_restart h)
      exact ⟨[], by rw [hsame, List.append_nil]⟩

theorem step_sentTo {s s' : Coordinator D} {e : Event D} (h : step env s e = some s') (conn : ConnId) :
    s.sentTo conn <+: s'.sentTo conn := by
  obtain ⟨frames, hframes⟩ := step_outbox h
  rw [sentTo_eq, sentTo_eq, hframes, List.filterMap_append]
  exact List.prefix_append _ _

/-! ## The network -/

/-- The readers went on: no connection is new or gone, and only the coordinator's readers took frames. -/
structure Network.Relinked (net net' : Network D) : Prop where
  processes : net'.processes = net.processes
  back : ∀ {conn : ConnId} {link' : Link D}, net'.links[conn]? = some link' →
    ∃ link, net.links[conn]? = some link ∧ link'.toCoordinator <:+ link.toCoordinator
  forth : ∀ {conn : ConnId} {link : Link D}, net.links[conn]? = some link →
    ∃ link', net'.links[conn]? = some link' ∧ link'.received = link.received

/-- **The moves of the network** beside a coordinator `c`. -/
inductive Network.Moved (net : Network D) (c : Coordinator D) : FabricEvent D → Network D → Prop
  | relink (e : FabricEvent D) (net' : Network D) (h : net.Relinked net') (hnode : ∀ k ev, e ≠ .node k ev) :
      Moved net c e net'
  | spawn (config : NodeConfig) (nodeId : NodeId) :
      Moved net c (.spawn config nodeId)
        { net with processes := net.processes ++ [{ node := .create config nodeId }] }
  | connect (k : Nat) (conn : ConnId) (p : NodeProcess D) (node' : NodeRuntime D) (frames : List (NodeFrame D))
      (hp : net.processes[k]? = some p) (hnew : net.links[conn]? = none)
      (hconnect : p.node.connect = some (node', frames)) :
      Moved net c (.connect k conn)
        { net with
          processes := net.processes.set k { node := node', conn := some conn }
          links := net.links.insert conn { toCoordinator := frames } }
  | node (k : Nat) (ev : NodeEvent D) (p : NodeProcess D) (conn : ConnId) (link : Link D)
      (node' : NodeRuntime D) (frames : List (NodeFrame D)) (reads : Nat)
      (hp : net.processes[k]? = some p) (hconn : p.conn = some conn) (hlink : net.links[conn]? = some link)
      (hstep : p.node.step (c.sentTo conn)[link.received]? ev = some (node', frames))
      (hreads : ev = .receive → reads = 1) :
      Moved net c (.node k ev) (net.afterNode k { p with node := node' } conn frames reads)

omit [DoubleArith D] in
theorem Network.Relinked.refl (net : Network D) : net.Relinked net where
  processes := rfl
  back := fun h => ⟨_, h, List.suffix_rfl⟩
  forth := fun h => ⟨_, h, rfl⟩

omit [DoubleArith D] in
/-- One reader changes its own variables and takes frames off the front. -/
theorem Network.Relinked.insert {net : Network D} {conn : ConnId} {link link' : Link D}
    (hlink : net.links[conn]? = some link) (hsuffix : link'.toCoordinator <:+ link.toCoordinator)
    (hreceived : link'.received = link.received) :
    net.Relinked { net with links := net.links.insert conn link' } where
  processes := rfl
  back := by
    intro conn' l hl
    rw [Std.ExtTreeMap.getElem?_insert] at hl
    split_ifs at hl with heq
    · rw [← Std.LawfulEqCmp.eq_of_compare heq, ← Option.some.inj hl]
      exact ⟨link, hlink, hsuffix⟩
    · exact ⟨l, hl, List.suffix_rfl⟩
  forth := by
    intro conn' l hl
    rw [Std.ExtTreeMap.getElem?_insert]
    split_ifs with heq
    · rw [← Std.LawfulEqCmp.eq_of_compare heq, hlink] at hl
      exact ⟨link', rfl, hreceived.trans (congrArg Link.received (Option.some.inj hl))⟩
    · exact ⟨l, hl, rfl⟩

omit [DoubleArith D] in
theorem Link.readNext_eq_some {link link' : Link D} (h : link.readNext = some link') :
    link'.toCoordinator <:+ link.toCoordinator ∧ link'.received = link.received := by
  unfold readNext at h
  split at h
  · cases h
  · rename_i frame rest hframes
    rw [hframes]
    have hrest : rest <:+ frame :: rest := List.suffix_cons frame rest
    split_ifs at h
    · cases h
      exact ⟨hrest, rfl⟩
    · split at h
      · cases h
        exact ⟨hrest, rfl⟩
      · cases h

/-- **Every move of the network is one of these.** -/
theorem Network.move_moved {net net' : Network D} {c : Coordinator D} {e : FabricEvent D}
    (h : net.move c e = some net') : net.Moved c e net' := by
  cases e with
  | sweep => exact .relink _ _ (by cases h; exact .refl net) nofun
  | stopRequested => exact .relink _ _ (by cases h; exact .refl net) nofun
  | connectionStopped conn => exact .relink _ _ (by cases h; exact .refl net) nofun
  | restart =>
      cases h
      refine .relink _ _ ⟨rfl, ?_, ?_⟩ nofun
      · intro conn link' hlink'
        rw [Std.ExtTreeMap.getElem?_map] at hlink'
        obtain ⟨link, hlink, rfl⟩ := Option.map_eq_some_iff.mp hlink'
        exact ⟨link, hlink, List.suffix_rfl⟩
      · intro conn link hlink
        rw [Std.ExtTreeMap.getElem?_map, hlink]
        exact ⟨_, rfl, rfl⟩
  | client cmd =>
      unfold move at h
      dsimp only at h
      split at h
      · cases h
      · split_ifs at h
        cases h
        exact .relink _ _ ⟨rfl, fun h => ⟨_, h, List.suffix_rfl⟩, fun h => ⟨_, h, rfl⟩⟩ nofun
  | read conn =>
      unfold move at h
      dsimp only at h
      split at h
      · cases h
      · rename_i link hlink
        obtain ⟨link', hread, rfl⟩ := Option.map_eq_some_iff.mp h
        obtain ⟨hsuffix, hreceived⟩ := Link.readNext_eq_some hread
        exact .relink _ _ (.insert hlink hsuffix hreceived) nofun
  | readerEnds conn =>
      unfold move at h
      dsimp only at h
      split at h
      · cases h
      · rename_i link hlink
        split_ifs at h
        cases h
        exact .relink _ _ (.insert hlink List.suffix_rfl rfl) nofun
  | disconnected conn =>
      unfold move at h
      dsimp only at h
      split at h
      · cases h
      · rename_i link hlink
        split_ifs at h
        cases h
        exact .relink _ _ (.insert hlink List.suffix_rfl rfl) nofun
  | spawn config nodeId =>
      cases h
      exact .spawn config nodeId
  | connect k conn =>
      unfold move at h
      dsimp only at h
      split at h
      · cases h
      · rename_i p hp
        split_ifs at h with hused
        obtain ⟨⟨node', frames⟩, hconnect, rfl⟩ := Option.map_eq_some_iff.mp h
        have hnew : net.links[conn]? = none :=
          Std.ExtTreeMap.getElem?_eq_none fun hmem => hused (.inl (Std.ExtTreeMap.contains_iff_mem.mpr hmem))
        exact .connect k conn p node' frames hp hnew hconnect
  | node k ev =>
      unfold move at h
      dsimp only at h
      split at h
      · cases h
      · rename_i p hp
        split at h
        · cases h
        · rename_i conn hconn
          unfold nodeStep at h
          split at h
          · cases h
          · rename_i link hlink
            obtain ⟨⟨node', frames⟩, hstep, rfl⟩ := Option.map_eq_some_iff.mp h
            exact .node k ev p conn link node' frames _ hp hconn hlink hstep (by rintro rfl; rfl)

/-- A step of the fabric is a move of the network, and then the coordinator's part of it. -/
theorem Fabric.step_moved {f f' : Fabric D} {e : FabricEvent D} (h : f.step env e = some f') :
    f.toNetwork.Moved f.coordinator e f'.toNetwork := by
  unfold Fabric.step at h
  split at h
  · cases h
  · rename_i net hmove
    have hnet : f'.toNetwork = net := by
      split at h
      · rw [← Option.some.inj h]
      · obtain ⟨c, -, rfl⟩ := Option.map_eq_some_iff.mp h
        rfl
    rw [hnet]
    exact Network.move_moved hmove

/-- What the coordinator queued stays queued while the fabric takes a step. -/
theorem Fabric.step_sentTo {f f' : Fabric D} {e : FabricEvent D} (h : f.step env e = some f') (conn : ConnId) :
    f.coordinator.sentTo conn <+: f'.coordinator.sentTo conn := by
  rcases Fabric.step_coordinator h with ⟨-, hsame⟩ | ⟨ev, -, hstep⟩
  · rw [hsame]
  · exact ComputeFabric.step_sentTo hstep conn

omit [DoubleArith D] in
/-- The connections after a process took a step. -/
theorem Network.links_afterNode {net : Network D} {k : Nat} {p : NodeProcess D} {conn conn' : ConnId}
    {frames : List (NodeFrame D)} {reads : Nat} {link' : Link D}
    (h : (net.afterNode k p conn frames reads).links[conn']? = some link') :
    ∃ link, net.links[conn']? = some link ∧
      ((conn' = conn ∧ link'.toCoordinator = link.toCoordinator ++ frames ∧
        link'.received = link.received + reads) ∨ (conn' ≠ conn ∧ link' = link)) := by
  unfold afterNode at h
  dsimp only at h
  rw [Std.ExtTreeMap.getElem?_modify] at h
  split_ifs at h with heq
  · obtain rfl := Std.LawfulEqCmp.eq_of_compare heq
    obtain ⟨link, hlink, rfl⟩ := Option.map_eq_some_iff.mp h
    exact ⟨link, hlink, .inl ⟨rfl, rfl, rfl⟩⟩
  · refine ⟨link', h, .inr ⟨?_, rfl⟩⟩
    rintro rfl
    exact heq Std.ReflCmp.compare_self

omit [DoubleArith D] in
/-- The process that took a step reads on, and no other. -/
theorem Network.received_afterNode {net : Network D} (k : Nat) (p : NodeProcess D) (conn : ConnId)
    (frames : List (NodeFrame D)) (reads : Nat) {conn' : ConnId} {link : Link D}
    (hlink : net.links[conn']? = some link) :
    ∃ link', (net.afterNode k p conn frames reads).links[conn']? = some link' ∧
      link'.received = link.received + if conn' = conn then reads else 0 := by
  unfold afterNode
  dsimp only
  rw [Std.ExtTreeMap.getElem?_modify]
  split_ifs with heq hconn hconn
  · rw [hconn] at hlink
    rw [hlink]
    exact ⟨_, rfl, rfl⟩
  · exact absurd (Std.LawfulEqCmp.eq_of_compare heq).symm hconn
  · exact absurd Std.ReflCmp.compare_self (hconn ▸ heq)
  · exact ⟨link, hlink, rfl⟩

end ComputeFabric
